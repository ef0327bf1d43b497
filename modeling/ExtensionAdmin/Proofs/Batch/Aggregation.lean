import ExtensionAdmin.Proofs.Batch.RequestWaves

/-! What a wave comes to, in every order in which its requests finish. Every request is sent and
waited for, whatever became of the others. The wave succeeds if all of them do. Otherwise it fails
with the number of errors, which no order changes, and with the error that is observed first, which
the order decides. Each order is possible. -/

namespace ExtensionAdmin.Batch

variable {α β γ σ τ : Type}

structure Aggregated (es : List α) (t : Transition) (effects : List (Effect α))
    (r : Except Error Report) : Prop where
  /-- It succeeds exactly if each of its requests did, -/
  succeeds_iff : (∃ report, r = .ok report) ↔ ∀ v ∈ verdicts effects, v = .ok ()
  /-- and then all of them are counted. -/
  report_eq : ∀ report, r = .ok report → report = ⟨t, es.length, es.length, 0⟩
  /-- Otherwise its error has the number of errors and the one before which there was none. -/
  error_eq : ∀ f, r = .error f → ∃ before e source after,
    answers effects = before ++ ((e, t), .error source) :: after ∧ (∀ a ∈ before, a.2 = .ok ()) ∧
    f = .batch (failures effects).length es.length source ∧
    1 ≤ (failures effects).length ∧ (failures effects).length ≤ es.length

structure Conducted (es : List α) (t : Transition) (effects : List (Effect α))
    (result : Option (Except Error Report)) : Prop where
  /-- A request is sent for each entity, whatever became of those before. -/
  sent : sends effects = es.map fun e => (e, t)
  /-- The wave ends exactly when each of them is answered. -/
  awaited : result ≠ none ↔ Settled effects
  /-- Then it comes to what the answers say. -/
  concluded : ∀ r, result = some r → Aggregated es t effects r

theorem failures_eq_nil_iff (effects : List (Effect α)) :
    failures effects = [] ↔ ∀ v ∈ verdicts effects, v = .ok () := by
  rw [failures, List.filterMap_eq_nil_iff]
  refine forall₂_congr fun v _ => ?_
  cases v <;> simp

/-- The first error among some answers, and the answers around it. -/
theorem first_failure {ρ : Type} {replies : List (ρ × Verdict)} {source : Error}
    {rest : List Error}
    (errors : (replies.map Prod.snd).filterMap Verdict.error? = source :: rest) :
    ∃ before r after, replies = before ++ (r, .error source) :: after ∧
      ∀ a ∈ before, a.2 = .ok () := by
  induction replies with
  | nil => simp at errors
  | cons reply replies ih =>
    obtain ⟨r, v⟩ := reply
    cases v with
    | ok u =>
      -- A success passes the search on to the answers after it.
      obtain ⟨before, r', after, split, clean⟩ := ih errors
      exact ⟨(r, .ok u) :: before, r', after, by rw [split, List.cons_append],
        List.forall_mem_cons.mpr ⟨rfl, clean⟩⟩
    | error e =>
      have same : e = source := by simpa using (List.cons.inj errors).1
      exact ⟨[], r, replies, by rw [same, List.nil_append], by simp⟩

theorem answered_transition {es : List α} {t u : Transition} {effects : List (Effect α)} {e : α}
    {v : Verdict} (wave : Answered es t effects) (answer : ((e, u), v) ∈ answers effects) :
    u = t := by
  obtain ⟨before, after, place⟩ := List.append_of_mem ((mem_answers effects e u v).mp answer)
  exact (wave.causal before e u v after place).1

theorem answered_failures_le {es : List α} {t : Transition} {effects : List (Effect α)}
    (wave : Answered es t effects) : (failures effects).length ≤ es.length := by
  have counts := wave.answered.length_eq
  simp only [List.map_nil, List.append_nil, List.nil_append, List.length_map] at counts
  calc (failures effects).length
    _ ≤ (verdicts effects).length := List.length_filterMap_le Verdict.error? _
    _ = es.length := by rw [verdicts, List.length_map, counts]

theorem answered_aggregated {es : List α} {t : Transition} {effects : List (Effect α)}
    (wave : Answered es t effects) :
    Aggregated es t effects (outcome t es.length (failures effects)) where
  succeeds_iff := by
    rw [← failures_eq_nil_iff]
    constructor
    · rintro ⟨report, succeeded⟩
      exact (outcome_ok succeeded).1
    · intro clean
      exact ⟨_, by rw [clean, outcome]⟩
  report_eq report succeeded := (outcome_ok succeeded).2
  error_eq f failed := by
    have bounded := answered_failures_le wave
    -- The error that is reported is the first one among the answers, of which there is one for each
    -- request.
    cases errors : failures effects with
    | nil =>
      rw [errors] at failed
      cases failed
    | cons source rest =>
      rw [errors, outcome] at failed
      rw [errors] at bounded
      obtain ⟨before, ⟨e, u⟩, after, split, clean⟩ := first_failure errors
      have first : ((e, u), .error source) ∈ answers effects := by
        rw [split]
        exact List.mem_append_right _ List.mem_cons_self
      obtain rfl : u = t := answered_transition wave first
      exact ⟨before, e, source, after, split, clean, (Except.error.inj failed).symm,
        Nat.succ_pos _, bounded⟩

theorem execute_conducted {es : List α} {t : Transition} {effects : List (Effect α)}
    {result : Option (Except Error Report)} (unfolds : (execute es t).Unfolds effects result) :
    Conducted es t effects result := by
  rcases execute_unfolds es t effects result unfolds with ⟨wave, rfl⟩ | ⟨stalled, rfl⟩
  · exact {
      sent := wave.sent
      awaited := by simpa using (wave_settled_iff wave).mpr rfl
      concluded := by
        intro r same
        cases same
        exact answered_aggregated wave }
  · obtain ⟨part, left, waits, wave, rfl⟩ := stalled
    -- The request that is never answered is in the record, but is no answer.
    have settled : Settled (part ++ [.stalled left t]) ↔ Settled part := by simp [Settled]
    exact {
      sent := by simpa using wave.sent
      awaited := by simpa [settled, wave_settled_iff wave] using waits
      concluded := by simp }

/-- Waves that come to the same, up to which of the errors is the one reported. -/
inductive SameCounts : Option (Except Error Report) → Option (Except Error Report) → Prop where
  | unfinished : SameCounts none none
  | succeeded (report : Report) : SameCounts (some (.ok report)) (some (.ok report))
  | failed (count total : Nat) (source source' : Error) :
      SameCounts (some (.error (.batch count total source)))
        (some (.error (.batch count total source')))

theorem outcome_sameCounts (t : Transition) (total : Nat) {one other : List Error}
    (same : one.length = other.length) :
    SameCounts (some (outcome t total one)) (some (outcome t total other)) := by
  cases one with
  | nil =>
    obtain rfl := List.length_eq_zero_iff.mp same.symm
    exact .succeeded _
  | cons f rest =>
    cases other with
    | nil => cases same
    | cons g rest' =>
      rw [outcome, outcome, Nat.succ.inj same]
      exact .failed _ _ f g

theorem settled_perm {one other : List (Effect α)} (sent : sends one = sends other)
    (same : (answers one).Perm (answers other)) (settled : Settled one) : Settled other := by
  rw [Settled, ← sent]
  exact (same.map Prod.fst).symm.trans settled

theorem execute_sameCounts {es : List α} {t : Transition} {one other : List (Effect α)}
    {r₁ r₂ : Option (Except Error Report)} (unfolds : (execute es t).Unfolds one r₁)
    (unfolds' : (execute es t).Unfolds other r₂) (same : (answers one).Perm (answers other)) :
    SameCounts r₁ r₂ := by
  have first := execute_conducted unfolds
  have second := execute_conducted unfolds'
  have sent := first.sent.trans second.sent.symm
  have errors := ((same.map Prod.snd).filterMap Verdict.error?).length_eq
  rcases execute_unfolds es t one r₁ unfolds with ⟨-, rfl⟩ | ⟨-, rfl⟩ <;>
    rcases execute_unfolds es t other r₂ unfolds' with ⟨-, rfl⟩ | ⟨-, rfl⟩
  · exact outcome_sameCounts t es.length errors
  · exact absurd rfl (second.awaited.mpr (settled_perm sent same (first.awaited.mp (by simp))))
  · exact absurd rfl
      (first.awaited.mpr (settled_perm sent.symm same.symm (second.awaited.mp (by simp))))
  · exact .unfinished

theorem play_map (env : Environment α σ) (d : Dialogue α β) (f : β → γ) (phase : Phase) (w : σ) :
    (d >>= fun x => pure (f x)).play env phase w =
      ⟨(d.play env phase w).effects, (d.play env phase w).phase,
        (d.play env phase w).result.map f, (d.play env phase w).world⟩ := by
  change (d.bind fun x => .done (f x)).play env phase w = _
  induction d generalizing phase w with
  | done x => rfl
  | enter p next ih => simp only [Dialogue.bind, Dialogue.play, Played.after, ih]
  | ask m next ih =>
    rcases reply : env.ask m w with ⟨_ | yes, after⟩ <;>
      simp only [Dialogue.bind, Dialogue.play, Played.after, reply, ih, Option.map_none]
  | close next ih => simp only [Dialogue.bind, Dialogue.play, Played.after, ih]
  | send e t next ih =>
    rcases reply : env.send e t w with ⟨_ | v, after⟩ <;>
      simp only [Dialogue.bind, Dialogue.play, Played.after, reply, ih]
  | await underWay t next ih =>
    rcases reply : env.await underWay t w with ⟨_ | ⟨i, v⟩, after⟩ <;>
      simp only [Dialogue.bind, Dialogue.play, Played.after, reply, ih, Option.map_none]
  | list next ih =>
    rcases reply : env.list w with ⟨_ | x, after⟩ <;>
      simp only [Dialogue.bind, Dialogue.play, Played.after, reply, ih, Option.map_none]

/-- Every request is under way until its wave is sent. Then they finish as a script says, which has
the place of the next one among those under way and what it comes to. -/
def finishing : Environment α (List (Nat × Verdict)) where
  ask _ w := (none, w)
  close w := w
  send _ _ w := (none, w)
  await underWay _ w :=
    match w with
    | [] => (none, [])
    | (i, v) :: rest =>
      if place : i < underWay.length then (some (⟨i, place⟩, v), rest) else (none, rest)
  list w := (none, w)

theorem finishing_await {underWay : List α} {i : Nat} (place : i < underWay.length)
    (t : Transition) (v : Verdict) (rest : List (Nat × Verdict)) :
    finishing.await underWay t ((i, v) :: rest) = (some (⟨i, place⟩, v), rest) :=
  dif_pos place

/-- Requests under way can finish in any order, each with any verdict. -/
theorem settle_order (t : Transition) (phase : Phase) (order : List (α × Verdict))
    (underWay : List α) (whole : (order.map Prod.fst).Perm underWay) :
    ∃ script, ∀ y, (settle t order.length underWay y).play finishing phase script =
      ⟨order.map fun x => .finished x.1 t x.2, phase,
        some ((order.map Prod.snd).foldl Tally.add y), []⟩ := by
  induction order generalizing underWay with
  | nil => exact ⟨[], fun y => rfl⟩
  | cons x order ih =>
    obtain ⟨e, v⟩ := x
    have started : e ∈ underWay := whole.subset List.mem_cons_self
    obtain ⟨i, place, rfl⟩ := List.mem_iff_getElem.mp started
    have others : (order.map Prod.fst).Perm (underWay.eraseIdx i) :=
      (whole.trans (List.getElem_cons_eraseIdx_perm place).symm).cons_inv
    obtain ⟨script, plays⟩ := ih _ others
    refine ⟨(i, v) :: script, fun y => ?_⟩
    simp only [List.length_cons, settle, Dialogue.play, finishing_await place, plays]
    rfl

-- Where nothing finishes while the wave is sent, all of its requests are under way after it.
theorem gather_finishing (t : Transition) (phase : Phase) (script : List (Nat × Verdict))
    (y : Tally) (todo underWay : List α) :
    (gather t todo underWay y).play finishing phase script =
      (todo.map fun e => Effect.sent e t).foldr Played.after
        ((settle t (underWay ++ todo).length (underWay ++ todo) y).play finishing phase
          script) := by
  induction todo generalizing underWay with
  | nil => simp [gather]
  | cons e todo ih =>
    have step : (gather t (e :: todo) underWay y).play finishing phase script =
        ((gather t todo (underWay ++ [e]) y).play finishing phase script).after (.sent e t) := rfl
    rw [step, ih, List.append_assoc]
    rfl

theorem foldr_after (lead : List (Effect α)) (p : Played α β σ) :
    lead.foldr Played.after p = ⟨lead ++ p.effects, p.phase, p.result, p.world⟩ := by
  induction lead with
  | nil => rfl
  | cons x lead ih => rw [List.foldr_cons, ih]; rfl

/-- A wave can finish in any order, with any verdict for each of its requests. -/
theorem execute_order (es : List α) (t : Transition) (phase : Phase) (order : List (α × Verdict))
    (whole : (order.map Prod.fst).Perm es) :
    ∃ script,
      answers ((execute es t).play finishing phase script).effects =
        order.map (fun x => ((x.1, t), x.2)) ∧
      ((execute es t).play finishing phase script).result ≠ none := by
  obtain ⟨script, plays⟩ := settle_order t phase order es whole
  refine ⟨script, ?_⟩
  have count : es.length = order.length := by rw [← whole.length_eq, List.length_map]
  have played := gather_finishing t phase script .fresh es []
  rw [List.nil_append, count, plays, foldr_after] at played
  have silent : answers (es.map fun e => Effect.sent e t) = [] := by
    simp [answers, List.filterMap_map, Function.comp_def]
  have replied : answers (order.map fun x => Effect.finished x.1 t x.2) =
      order.map fun x => ((x.1, t), x.2) := by
    simp [answers, List.filterMap_map, Function.comp_def]
  rw [execute, play_map, played]
  exact ⟨by rw [answers_append, silent, replied, List.nil_append], by simp⟩

/-- In whatever environment, a wave sends and awaits all of its requests and comes to what their
answers say. In two orders of the same answers it differs at most in the error that it reports, and
each order of its requests, with whatever they come to, is one in which it can end. -/
theorem wave_aggregated (es : List α) (t : Transition) (phase : Phase) :
    (∀ (σ : Type) (env : Environment α σ) (w : σ), Conducted es t
      ((execute es t).play env phase w).effects ((execute es t).play env phase w).result) ∧
    (∀ (σ τ : Type) (env : Environment α σ) (env' : Environment α τ) (w : σ) (w' : τ),
      (answers ((execute es t).play env phase w).effects).Perm
        (answers ((execute es t).play env' phase w').effects) →
      SameCounts ((execute es t).play env phase w).result
        ((execute es t).play env' phase w').result) ∧
    ∀ order : List (α × Verdict), (order.map Prod.fst).Perm es → ∃ script,
      answers ((execute es t).play finishing phase script).effects =
        order.map (fun x => ((x.1, t), x.2)) ∧
      ((execute es t).play finishing phase script).result ≠ none := by
  refine ⟨?conducted, ?compared, ?possible⟩
  case conducted =>
    intro σ env w
    exact execute_conducted (play_unfolds env (execute es t) phase w)
  case compared =>
    intro σ τ env env' w w' same
    exact execute_sameCounts (play_unfolds env (execute es t) phase w)
      (play_unfolds env' (execute es t) phase w') same
  case possible => exact execute_order es t phase

end ExtensionAdmin.Batch
