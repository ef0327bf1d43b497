import Mathlib.Data.List.Perm.Basic
import ExtensionAdmin.Batch.Run
import ExtensionAdmin.Proofs.Batch.Unfolding

/-! What one wave of requests leaves in the record. `gather` and `settle` are the loop of a wave.
Each of its steps sends a request or takes an answer, and keeps this law: the requests that were
answered and those that are still under way are together the requests that were sent. When nothing
is under way any more, every request is answered, whatever became of each and in whatever order. -/

namespace ExtensionAdmin.Batch

variable {α : Type}

@[simp]
def Effect.request? : Effect α → Option (α × Transition)
  | .sent e t => some (e, t)
  | _ => none

@[simp]
def Effect.answer? : Effect α → Option ((α × Transition) × Verdict)
  | .finished e t v => some ((e, t), v)
  | _ => none

def Effect.isExchange : Effect α → Bool
  | .sent _ _ => true
  | .finished _ _ _ => true
  | _ => false

def sends (effects : List (Effect α)) : List (α × Transition) := effects.filterMap Effect.request?

def answers (effects : List (Effect α)) : List ((α × Transition) × Verdict) :=
  effects.filterMap Effect.answer?

def verdicts (effects : List (Effect α)) : List Verdict := (answers effects).map Prod.snd

@[simp]
def Verdict.error? : Verdict → Option Error
  | .ok _ => none
  | .error e => some e

/-- The errors that were observed, in the order in which the answers came. -/
def failures (effects : List (Effect α)) : List Error := (verdicts effects).filterMap Verdict.error?

@[simp]
theorem sends_nil : sends ([] : List (Effect α)) = [] := rfl

@[simp]
theorem sends_cons (x : Effect α) (rest : List (Effect α)) :
    sends (x :: rest) = x.request?.toList ++ sends rest := by
  cases x <;> rfl

@[simp]
theorem sends_append (left right : List (Effect α)) :
    sends (left ++ right) = sends left ++ sends right := List.filterMap_append

@[simp]
theorem answers_nil : answers ([] : List (Effect α)) = [] := rfl

@[simp]
theorem answers_cons (x : Effect α) (rest : List (Effect α)) :
    answers (x :: rest) = x.answer?.toList ++ answers rest := by
  cases x <;> rfl

@[simp]
theorem answers_append (left right : List (Effect α)) :
    answers (left ++ right) = answers left ++ answers right := List.filterMap_append

theorem mem_sends (effects : List (Effect α)) (e : α) (t : Transition) :
    (e, t) ∈ sends effects ↔ .sent e t ∈ effects := by
  induction effects with
  | nil => simp
  | cons x rest ih => cases x <;> simp [ih]

theorem mem_of_sends {es : List α} {t u : Transition} {effects : List (Effect α)} {e : α}
    (whole : sends effects = es.map fun e => (e, t)) (sent : .sent e u ∈ effects) : e ∈ es := by
  have request := (mem_sends effects e u).mpr sent
  rw [whole, List.mem_map] at request
  obtain ⟨e, member, same⟩ := request
  cases same
  exact member

theorem mem_answers (effects : List (Effect α)) (e : α) (t : Transition) (v : Verdict) :
    ((e, t), v) ∈ answers effects ↔ .finished e t v ∈ effects := by
  induction effects with
  | nil => simp
  | cons x rest ih => cases x <;> simp [ih, and_assoc]

theorem split_append {γ : Type} {left right before after : List γ} {x : γ}
    (split : left ++ right = before ++ x :: after) :
    (∃ rest, left = before ++ x :: rest ∧ after = rest ++ right) ∨
      ∃ lead, right = lead ++ x :: after ∧ before = left ++ lead := by
  rcases List.append_eq_append_iff.mp split with ⟨lead, rfl, later⟩ | ⟨middle, rfl, later⟩
  · exact Or.inr ⟨lead, later, rfl⟩
  · rcases List.cons_eq_append_iff.mp later with ⟨rfl, rfl⟩ | ⟨rest, rfl, rfl⟩
    · exact Or.inr ⟨[], rfl, by simp⟩
    · exact Or.inl ⟨rest, rfl, rfl⟩

/-- The tally of a wave counts the errors and keeps the first. -/
theorem tally_counts (vs : List Verdict) (y : Tally) :
    vs.foldl Tally.add y =
      ⟨y.failed + (vs.filterMap Verdict.error?).length,
        y.first.or (vs.filterMap Verdict.error?).head?⟩ := by
  induction vs generalizing y with
  | nil => simp
  | cons v rest ih =>
    rw [List.foldl_cons, ih]
    cases v with
    | ok u => simp only [Tally.add, List.filterMap_cons, Verdict.error?]
    | error e =>
      have counted : y.failed + 1 + (rest.filterMap Verdict.error?).length =
          y.failed + ((rest.filterMap Verdict.error?).length + 1) := by omega
      cases first : y.first <;>
        simp only [Tally.add, List.filterMap_cons, Verdict.error?, List.length_cons, counted, first,
          Option.or, List.head?_cons]

def outcome (t : Transition) (total : Nat) : List Error → Except Error Report
  | [] => .ok ⟨t, total, total, 0⟩
  | e :: rest => .error (.batch (rest.length + 1) total e)

theorem outcome_ok {t : Transition} {total : Nat} {errors : List Error} {report : Report}
    (succeeded : outcome t total errors = .ok report) :
    errors = [] ∧ report = ⟨t, total, total, 0⟩ := by
  cases errors with
  | nil => exact ⟨rfl, (Except.ok.inj succeeded).symm⟩
  | cons f rest => cases succeeded

theorem outcome_error {t : Transition} {total : Nat} {errors : List Error} {f : Error}
    (failed : outcome t total errors = .error f) : ∃ g, f = .batch errors.length total g := by
  cases errors with
  | nil => cases failed
  | cons g rest =>
    cases failed
    exact ⟨g, rfl⟩

theorem tally_report (vs : List Verdict) (t : Transition) (total : Nat) :
    (vs.foldl Tally.add .fresh).report t total = outcome t total (vs.filterMap Verdict.error?) := by
  rw [tally_counts]
  cases vs.filterMap Verdict.error? <;> simp [Tally.fresh, Tally.report, outcome]

theorem failures_nil_iff (effects : List (Effect α)) :
    failures effects = [] ↔ ∀ e t f, .finished e t (.error f) ∉ effects := by
  simp only [failures, verdicts, List.filterMap_eq_nil_iff, List.mem_map]
  constructor
  · intro clean e t f member
    exact absurd (clean _ ⟨_, (mem_answers effects e t _).mpr member, rfl⟩) (by simp)
  · rintro clean v ⟨⟨⟨e, t⟩, v⟩, member, rfl⟩
    cases v with
    | ok u => rfl
    | error f => exact absurd ((mem_answers effects e t _).mp member) (clean e t f)

theorem clean_answer {part : List (Effect α)} {e : α} {t : Transition} {v : Verdict}
    (clean : failures part = []) (answer : ((e, t), v) ∈ answers part) : v = .ok () := by
  have finished := (mem_answers part e t v).mp answer
  cases v with
  | ok u => rfl
  | error f => exact absurd finished ((failures_nil_iff part).mp clean e t f)

/-- A wave of requests as far as it got. At its start the requests for `underWay` had been sent and
those for `todo` not; at its end those for `left` are not answered. -/
structure Wave (t : Transition) (underWay todo : List α) (part : List (Effect α))
    (left : List α) : Prop where
  /-- Every request is sent, once for each occurrence, and no other is. -/
  sent : sends part = todo.map fun e => (e, t)
  /-- No answer is lost, repeated or invented. -/
  answered : ((answers part).map Prod.fst ++ left.map fun e => (e, t)).Perm
    ((underWay ++ todo).map fun e => (e, t))
  /-- An answer comes after its request. -/
  causal : ∀ before e u v after, part = before ++ .finished e u v :: after →
    u = t ∧ (.sent e t ∈ before ∨ e ∈ underWay)
  /-- Nothing else happens meanwhile. -/
  quiet : ∀ x ∈ part, x.isExchange

namespace Wave

variable {t : Transition} {underWay todo left : List α} {part : List (Effect α)}

theorem idle (t : Transition) (underWay : List α) : Wave t underWay [] [] underWay where
  sent := rfl
  answered := by simp
  causal := by simp
  quiet := by simp

-- The three steps of the loop. Each keeps the law for what remains to be done after it.
theorem answer {e : α} {others : List α} (chosen : (e :: others).Perm underWay) (v : Verdict)
    (wave : Wave t others [] part left) : Wave t underWay [] (.finished e t v :: part) left where
  sent := by simpa using wave.sent
  answered := by
    have rest := wave.answered.cons (e, t)
    have whole := chosen.map fun e => (e, t)
    simp only [List.append_nil] at rest ⊢
    simpa using rest.trans whole
  causal := by
    intro before e' u v' after split
    rcases List.cons_eq_append_iff.mp split with ⟨rfl, first⟩ | ⟨tail, rfl, later⟩
    · cases first
      exact ⟨rfl, Or.inr (chosen.mem_iff.mp List.mem_cons_self)⟩
    · obtain ⟨same, sent | started⟩ := wave.causal tail e' u v' after later
      · exact ⟨same, Or.inl (List.mem_cons_of_mem _ sent)⟩
      · exact ⟨same, Or.inr (chosen.mem_iff.mp (List.mem_cons_of_mem _ started))⟩
  quiet := by simpa [Effect.isExchange] using wave.quiet

theorem start (e : α) (wave : Wave t (underWay ++ [e]) todo part left) :
    Wave t underWay (e :: todo) (.sent e t :: part) left where
  sent := by simp [wave.sent]
  answered := by simpa using wave.answered
  causal := by
    intro before e' u v after split
    rcases List.cons_eq_append_iff.mp split with ⟨rfl, first⟩ | ⟨tail, rfl, later⟩
    · cases first
    · obtain ⟨same, sent | started⟩ := wave.causal tail e' u v after later
      · exact ⟨same, Or.inl (List.mem_cons_of_mem _ sent)⟩
      · rcases List.mem_append.mp started with old | new
        · exact ⟨same, Or.inr old⟩
        · rw [List.mem_singleton.mp new]
          exact ⟨same, Or.inl List.mem_cons_self⟩
  quiet := by simpa [Effect.isExchange] using wave.quiet

theorem start_answer (e : α) (v : Verdict) (wave : Wave t underWay todo part left) :
    Wave t underWay (e :: todo) (.sent e t :: .finished e t v :: part) left where
  sent := by simp [wave.sent]
  answered := by
    have rest := wave.answered.cons (e, t)
    simpa using rest.trans (by simpa using List.perm_middle.symm)
  causal := by
    intro before e' u v after split
    rcases List.cons_eq_append_iff.mp split with ⟨rfl, first⟩ | ⟨tail, rfl, later⟩
    · cases first
    · rcases List.cons_eq_append_iff.mp later with ⟨rfl, second⟩ | ⟨tail, rfl, last⟩
      · cases second
        exact ⟨rfl, Or.inl List.mem_cons_self⟩
      · obtain ⟨same, sent | started⟩ := wave.causal tail e' u v after last
        · exact ⟨same, Or.inl (by simp [sent])⟩
        · exact ⟨same, Or.inr started⟩
  quiet := by simpa [Effect.isExchange] using wave.quiet

theorem mem_sent (wave : Wave t underWay todo part left) {e : α} (member : e ∈ todo) :
    .sent e t ∈ part := by
  rw [← mem_sends, wave.sent]
  exact List.mem_map_of_mem member

theorem sent_mem (wave : Wave t underWay todo part left) {e : α} {u : Transition}
    (sent : .sent e u ∈ part) : e ∈ todo := mem_of_sends wave.sent sent

-- A wave does not talk to the operator.
theorem unasked (wave : Wave t underWay todo part left) (m : Modal) (answer : Option Bool) :
    .asked m answer ∉ part := by
  intro member
  exact absurd (wave.quiet _ member) (by simp [Effect.isExchange])

end Wave

def Gathered (t : Transition) (underWay todo : List α) (y : Tally) (effects : List (Effect α))
    (result : Option Tally) : Prop :=
  ∃ part left, Wave t underWay todo part left ∧
    ((left = [] ∧ effects = part ∧ result = some ((verdicts part).foldl Tally.add y)) ∨
      (left ≠ [] ∧ effects = part ++ [.stalled left t] ∧ result = none))

theorem settle_gathered (t : Transition) (n : Nat) (underWay : List α) (y : Tally)
    (effects : List (Effect α)) (result : Option Tally) (count : underWay.length = n)
    (unfolds : (settle t n underWay y).Unfolds effects result) :
    Gathered t underWay [] y effects result := by
  -- On the number of requests under way, since the list is cut at a place that is not known.
  induction n generalizing underWay y effects with
  | zero =>
    obtain ⟨rfl, rfl⟩ := unfolds
    obtain rfl := List.length_eq_zero_iff.mp count
    exact ⟨[], [], Wave.idle t [], Or.inl ⟨rfl, rfl, rfl⟩⟩
  | succ n ih =>
    rcases unfolds with ⟨rfl, rfl⟩ | ⟨i, v, rest, rfl, follows⟩
    · have waits : underWay ≠ [] := by
        rintro rfl
        simp at count
      exact ⟨[], underWay, Wave.idle t underWay, Or.inr ⟨waits, rfl, rfl⟩⟩
    · have fewer : (underWay.eraseIdx i).length = n := by
        rw [List.length_eraseIdx_of_lt i.isLt]
        omega
      obtain ⟨part, left, wave, ends⟩ := ih _ (y.add v) rest fewer follows
      refine ⟨_, left, wave.answer (List.getElem_cons_eraseIdx_perm i.isLt) v, ?_⟩
      rcases ends with ⟨done, rfl, rfl⟩ | ⟨waits, rfl, rfl⟩
      · exact Or.inl ⟨done, rfl, rfl⟩
      · exact Or.inr ⟨waits, rfl, rfl⟩

theorem gather_gathered (t : Transition) (todo underWay : List α) (y : Tally)
    (effects : List (Effect α)) (result : Option Tally)
    (unfolds : (gather t todo underWay y).Unfolds effects result) :
    Gathered t underWay todo y effects result := by
  -- On what is still to be sent. A request that is not answered at once moves to those under way.
  induction todo generalizing underWay y effects with
  | nil => exact settle_gathered t _ underWay y effects result rfl unfolds
  | cons e todo ih =>
    rcases unfolds with ⟨rest, rfl, follows⟩ | ⟨v, rest, rfl, follows⟩
    · obtain ⟨part, left, wave, ends⟩ := ih _ y rest follows
      refine ⟨_, left, wave.start e, ?_⟩
      rcases ends with ⟨done, rfl, rfl⟩ | ⟨waits, rfl, rfl⟩
      · exact Or.inl ⟨done, rfl, rfl⟩
      · exact Or.inr ⟨waits, rfl, rfl⟩
    · obtain ⟨part, left, wave, ends⟩ := ih _ (y.add v) rest follows
      refine ⟨_, left, wave.start_answer e v, ?_⟩
      rcases ends with ⟨done, rfl, rfl⟩ | ⟨waits, rfl, rfl⟩
      · exact Or.inl ⟨done, rfl, rfl⟩
      · exact Or.inr ⟨waits, rfl, rfl⟩

abbrev Answered (es : List α) (t : Transition) (part : List (Effect α)) : Prop :=
  Wave t [] es part []

theorem answered_request {es : List α} {t : Transition} {part : List (Effect α)}
    (wave : Answered es t part) {e : α} (member : e ∈ es) : ∃ v, ((e, t), v) ∈ answers part := by
  have whole := wave.answered
  rw [List.map_nil, List.append_nil, List.nil_append] at whole
  obtain ⟨⟨r, v⟩, answer, same⟩ :=
    List.mem_map.mp (whole.mem_iff.mpr (List.mem_map_of_mem member))
  obtain rfl : r = (e, t) := same
  exact ⟨v, answer⟩

def Stalled (es : List α) (t : Transition) (effects : List (Effect α)) : Prop :=
  ∃ part left, left ≠ [] ∧ Wave t [] es part left ∧ effects = part ++ [.stalled left t]

/-- One wave: all of its requests are sent and answered, whether or not some fail, and its outcome
counts the errors and names the one that was observed first; or it stalls. -/
theorem execute_unfolds (es : List α) (t : Transition) (effects : List (Effect α))
    (result : Option (Except Error Report)) (unfolds : (execute es t).Unfolds effects result) :
    (Answered es t effects ∧ result = some (outcome t es.length (failures effects))) ∨
      (Stalled es t effects ∧ result = none) := by
  rcases unfolds_bind _ _ _ _ unfolds with ⟨stopped, rfl⟩ | ⟨part, y, rest, rfl, ended, follows⟩
  · obtain ⟨part, left, wave, ⟨-, -, same⟩ | ⟨waits, rfl, -⟩⟩ := gather_gathered _ _ _ _ _ _ stopped
    · cases same
    · exact Or.inr ⟨⟨part, left, waits, wave, rfl⟩, rfl⟩
  · obtain ⟨rfl, rfl⟩ := follows
    obtain ⟨part, left, wave, ⟨rfl, rfl, same⟩ | ⟨-, -, same⟩⟩ := gather_gathered _ _ _ _ _ _ ended
    · cases same
      rw [List.append_nil, tally_report]
      exact Or.inl ⟨wave, rfl⟩
    · cases same

/-- What follows a wave starts when all of its requests are answered, and from its outcome. -/
theorem execute_bind_unfolds {β : Type} (es : List α) (t : Transition)
    (f : Except Error Report → Dialogue α β) (effects : List (Effect α)) (result : Option β)
    (unfolds : (execute es t >>= f).Unfolds effects result) :
    (Stalled es t effects ∧ result = none) ∨
      ∃ part rest, effects = part ++ rest ∧ Answered es t part ∧
        (f (outcome t es.length (failures part))).Unfolds rest result := by
  rcases unfolds_bind _ _ _ _ unfolds with ⟨stopped, rfl⟩ | ⟨part, x, rest, rfl, ended, follows⟩
  · rcases execute_unfolds _ _ _ _ stopped with ⟨-, same⟩ | ⟨wave, -⟩
    · cases same
    · exact Or.inl ⟨wave, rfl⟩
  · rcases execute_unfolds _ _ _ _ ended with ⟨wave, same⟩ | ⟨-, same⟩
    · obtain rfl := Option.some.inj same
      exact Or.inr ⟨part, rest, rfl, wave, follows⟩
    · cases same

end ExtensionAdmin.Batch
