import ExtensionAdmin.Batch.Session

/-! Runs in which everything succeeds. A dialogue secures a property when it ends, in an environment
that is known, with a result and a state of the environment that have it. Parts are secured one
after another. The law of a wave is here what the environment knows of it: how many requests are
under way, and which entities were sent. When all are sent and none is under way, every one of them
has succeeded. -/

namespace ExtensionAdmin.Batch

variable {α β γ σ : Type} {env : Environment α σ}

def Dialogue.Secures (env : Environment α σ) : Dialogue α β → σ → (β → σ → Prop) → Prop
  | .done x, w, Q => Q x w
  | .enter _ next, w, Q => Secures env next w Q
  | .ask m next, w, Q =>
      ∃ yes after, env.ask m w = (some yes, after) ∧ Secures env (next yes) after Q
  | .close next, w, Q => Secures env next (env.close w) Q
  | .send e t next, w, Q =>
      ∃ reply after, env.send e t w = (reply, after) ∧ Secures env (next reply) after Q
  | .await es t next, w, Q =>
      ∃ i v after, env.await es t w = (some (i, v), after) ∧ Secures env (next i v) after Q
  | .list next, w, Q => ∃ r after, env.list w = (some r, after) ∧ Secures env (next r) after Q

open Dialogue (Secures)

theorem secures_play {d : Dialogue α β} {w : σ} {Q : β → σ → Prop} (secured : d.Secures env w Q)
    (phase : Phase) :
    ∃ x, (d.play env phase w).result = some x ∧ Q x (d.play env phase w).world := by
  induction d generalizing phase w with
  | done x => exact ⟨x, rfl, secured⟩
  | enter p next ih => exact ih secured p
  | close next ih => exact ih secured phase
  | ask m next ih =>
    obtain ⟨yes, after, reply, secured⟩ := secured
    simp only [Dialogue.play, reply]
    exact ih yes secured phase
  | send e t next ih =>
    obtain ⟨_ | v, after, reply, secured⟩ := secured
    · simp only [Dialogue.play, reply]
      exact ih none secured phase
    · simp only [Dialogue.play, reply]
      exact ih (some v) secured phase
  | await underWay t next ih =>
    obtain ⟨i, v, after, reply, secured⟩ := secured
    simp only [Dialogue.play, reply]
    exact ih i v secured phase
  | list next ih =>
    obtain ⟨r, after, reply, secured⟩ := secured
    simp only [Dialogue.play, reply]
    exact ih r secured phase

/-- One dialogue after another: the first secures that the second secures the property. -/
theorem secures_bind {d : Dialogue α β} {f : β → Dialogue α γ} {w : σ} {P : β → σ → Prop}
    {Q : γ → σ → Prop} (first : d.Secures env w P)
    (second : ∀ x after, P x after → (f x).Secures env after Q) : (d >>= f).Secures env w Q := by
  change (d.bind f).Secures env w Q
  induction d generalizing w with
  | done x => exact second x w first
  | enter p next ih => exact ih first
  | close next ih => exact ih first
  | ask m next ih =>
    obtain ⟨yes, after, reply, first⟩ := first
    exact ⟨yes, after, reply, ih yes first⟩
  | send e t next ih =>
    obtain ⟨answer, after, reply, first⟩ := first
    exact ⟨answer, after, reply, ih answer first⟩
  | await underWay t next ih =>
    obtain ⟨i, v, after, reply, first⟩ := first
    exact ⟨i, v, after, reply, ih i v first⟩
  | list next ih =>
    obtain ⟨r, after, reply, first⟩ := first
    exact ⟨r, after, reply, ih r first⟩

/-- A server that carries out each change of a wave. What it stands at is told by the number of
requests that are under way and by the entities that were sent. -/
structure Obliges (env : Environment α σ) (t : Transition) (es : List α)
    (Stands : σ → Nat → List α → Prop) : Prop where
  sends : ∀ {w n sent e rest}, es = sent ++ e :: rest → Stands w n sent →
    ∃ reply after, env.send e t w = (reply, after) ∧
      ((reply = none ∧ Stands after (n + 1) (sent ++ [e])) ∨
        (reply = some (.ok ()) ∧ Stands after n (sent ++ [e])))
  answers : ∀ {w underWay}, underWay ≠ [] → Stands w underWay.length es →
    ∃ i after, env.await underWay t w = (some (i, .ok ()), after) ∧
      Stands after (underWay.length - 1) es

variable {t : Transition} {es : List α} {Stands : σ → Nat → List α → Prop}

/-- By the number of the requests that are under way. -/
theorem settle_secures (obliges : Obliges env t es Stands) {n : Nat} {underWay : List α}
    (count : underWay.length = n) (tally : Tally) {w : σ} (stands : Stands w underWay.length es) :
    (settle t n underWay tally).Secures env w fun y after => y = tally ∧ Stands after 0 es := by
  -- Each answer is a success and leaves one request less under way.
  induction n generalizing underWay w with
  | zero => exact ⟨rfl, count ▸ stands⟩
  | succ n ih =>
    have some : underWay ≠ [] := List.ne_nil_of_length_eq_add_one count
    obtain ⟨i, after, reply, stands⟩ := obliges.answers some stands
    have fewer : (underWay.eraseIdx i).length = underWay.length - 1 :=
      List.length_eraseIdx_of_lt i.isLt
    refine ⟨i, .ok (), after, reply, ih ?_ ?_⟩
    · omega
    · rwa [fewer]

/-- By the entities that are left to send. An answer that comes at once succeeds, and the tally
stays as it is. -/
theorem gather_secures (obliges : Obliges env t es Stands) (rest sent : List α)
    (split : es = sent ++ rest) (underWay : List α) (tally : Tally) {w : σ}
    (stands : Stands w underWay.length sent) :
    (gather t rest underWay tally).Secures env w fun y after => y = tally ∧ Stands after 0 es := by
  induction rest generalizing sent underWay w with
  | nil =>
    rw [List.append_nil] at split
    subst split
    exact settle_secures obliges rfl tally stands
  | cons e rest ih =>
    obtain ⟨reply, after, same, ⟨rfl, stands⟩ | ⟨rfl, stands⟩⟩ := obliges.sends split stands
    · refine ⟨none, after, same, ih (sent ++ [e]) ?_ (underWay ++ [e]) ?_⟩
      · simpa using split
      · simpa using stands
    · refine ⟨some (.ok ()), after, same, ih (sent ++ [e]) ?_ underWay stands⟩
      simpa using split

theorem execute_secures (obliges : Obliges env t es Stands) {w : σ} (stands : Stands w 0 []) :
    (execute es t).Secures env w fun result after =>
      result = .ok ⟨t, es.length, es.length, 0⟩ ∧ Stands after 0 es := by
  apply secures_bind (gather_secures obliges es [] rfl [] .fresh stands)
  rintro y after ⟨rfl, stands⟩
  exact ⟨rfl, stands⟩

variable [Entity α] {i : Inventory α}

def Inventory.fetched (i : Inventory α) : Except Error (List α) → Inventory α
  | .ok fresh => i.replace fresh
  | .error _ => i

structure Accepts (env : Environment α σ) (I : σ → Prop) : Prop where
  asked : ∀ m {w}, I w → ∃ after, env.ask m w = (some true, after) ∧ I after
  closed : ∀ {w}, I w → I (env.close w)

theorem submit_secures {p : Plan α} (obliges : Obliges env p.transition p.eligible Stands) {w : σ}
    (stands : Stands w 0 []) :
    (submit p).Secures env w fun result after =>
      result = .ok ⟨p.transition, p.eligible.length, p.eligible.length, 0⟩ ∧
        Stands after 0 p.eligible := by
  apply secures_bind (execute_secures obliges stands)
  rintro result after ⟨rfl, stands⟩
  exact ⟨rfl, stands⟩

theorem carryOut_secures {p : Plan α} (accepts : Accepts env fun w => Stands w 0 [])
    (obliges : Obliges env p.transition p.eligible Stands) {reply : Except Error (List α)}
    {I : σ → Prop}
    (lists : ∀ {w}, Stands w 0 p.eligible → ∃ after, env.list w = (some reply, after) ∧ I after)
    {w : σ} (stands : Stands w 0 []) :
    (carryOut i p).Secures env w fun ended after =>
      ended = (reply.map fun _ =>
        .completed ⟨p.transition, p.eligible.length, p.eligible.length, 0⟩, i.fetched reply) ∧
        I after := by
  apply secures_bind (submit_secures obliges (accepts.closed stands))
  rintro result after ⟨rfl, stands⟩
  obtain ⟨last, same, held⟩ := lists stands
  cases reply with
  | ok fresh => exact ⟨.ok fresh, last, same, rfl, held⟩
  | error e => exact ⟨.error e, last, same, rfl, held⟩

/-- A run that finds nothing to do asks and tells the operator, and that is all. -/
theorem run_noop_secures {I : σ → Prop} (accepts : Accepts env I) {supports : Transition → Bool}
    (selected : i.selected ≠ []) (known : supports t = true)
    (noop : (Plan.ofSelection i.selected t).isNoop = true) {w : σ} (held : I w) :
    (run supports i t).Secures env w fun ended after =>
      ended = (.ok (.alreadySatisfied (Plan.ofSelection i.selected t).total), i) ∧ I after := by
  rw [run, if_neg (by simpa using selected), if_pos known]
  obtain ⟨after, asked, held⟩ := accepts.asked (Plan.ofSelection i.selected t).question held
  obtain ⟨last, told, held⟩ := accepts.asked (Plan.ofSelection i.selected t).notice held
  refine ⟨true, after, asked, ?_⟩
  simp only [noop, if_true]
  exact ⟨true, last, told, rfl, accepts.closed held⟩

/-- A run that has something to do changes every eligible entity and fetches the list. -/
theorem run_secures {supports : Transition → Bool} (selected : i.selected ≠ [])
    (known : supports t = true) (needed : (Plan.ofSelection i.selected t).isNoop = false)
    (accepts : Accepts env fun w => Stands w 0 [])
    (obliges : Obliges env t (Plan.ofSelection i.selected t).eligible Stands)
    {reply : Except Error (List α)} {I : σ → Prop}
    (lists : ∀ {w}, Stands w 0 (Plan.ofSelection i.selected t).eligible →
      ∃ after, env.list w = (some reply, after) ∧ I after)
    {w : σ} (stands : Stands w 0 []) :
    (run supports i t).Secures env w fun ended after =>
      ended = (reply.map fun _ => .completed ⟨t, (Plan.ofSelection i.selected t).eligible.length,
        (Plan.ofSelection i.selected t).eligible.length, 0⟩, i.fetched reply) ∧ I after := by
  rw [run, if_neg (by simpa using selected), if_pos known]
  obtain ⟨after, asked, stands⟩ := accepts.asked (Plan.ofSelection i.selected t).question stands
  refine ⟨true, after, asked, ?_⟩
  simp only [needed, Bool.false_eq_true, if_false]
  by_cases part : (Plan.ofSelection i.selected t).isPartial = true
  · obtain ⟨last, agreed, stands⟩ :=
      accepts.asked (Plan.ofSelection i.selected t).partialQuestion stands
    rw [if_pos part]
    exact ⟨true, last, agreed, carryOut_secures accepts obliges lists stands⟩
  · rw [if_neg part]
    exact carryOut_secures accepts obliges lists stands

def reply : Except Error Outcome → Reply
  | .ok outcome => .ended outcome
  | .error e => .failed e

/-- What a run secures is what it comes to in a session. -/
theorem running_secured {supports : Transition → Bool} {s : Session α} {w : σ}
    {x : Except Error Outcome} {j : Inventory α} {I : σ → Prop}
    (secured : (run supports s.inventory t).Secures env w fun ended after =>
      ended = (x, j) ∧ I after) :
    (s.running env supports t w).result = some (x, j) ∧
      (s.perform env supports w (.run t)).1 = reply x ∧
      (s.perform env supports w (.run t)).2.1.inventory = j ∧
      I (s.perform env supports w (.run t)).2.2 := by
  obtain ⟨_, result, rfl, held⟩ := secures_play secured .idle
  change (s.running env supports t w).result = some (x, j) at result
  refine ⟨result, ?_⟩
  rw [Session.perform, Session.afterPlay]
  cases x <;> rw [result] <;> exact ⟨rfl, rfl, held⟩

theorem running_of_ended {supports : Transition → Bool} {s : Session α} {w : σ} {x : Outcome}
    (ended : (s.perform env supports w (.run t)).1 = .ended x) :
    ∃ j, (s.running env supports t w).result = some (.ok x, j) := by
  rw [Session.perform, Session.afterPlay] at ended
  split at ended
  case h_1 => cases ended
  case h_2 same =>
    cases ended
    exact ⟨_, same⟩
  case h_3 => cases ended

end ExtensionAdmin.Batch
