import ExtensionAdmin.Proofs.Batch.Course

/-! No modal is left open. A modal that waits to be closed stays open, answered or not, until the
next close. A run asks first, then closes what it opened, one modal or two, and does everything else
after that; the offer of a remedy, which comes later, does not wait. So the server is never turned
to behind an open modal, and none is open when the run returns. -/

namespace ExtensionAdmin.Batch

variable {α β σ : Type}

/-- The modals that wait to be closed after an effect, oldest first. One close is for all of them. -/
def Effect.leaves (waiting : List Modal) : Effect α → List Modal
  | .asked m _ => if m.waitToClose then waiting ++ [m] else waiting
  | .closed => []
  | _ => waiting

def stillOpen (effects : List (Effect α)) : List Modal := effects.foldl Effect.leaves []

/-- Whether an effect belongs to a call of the server: a request, its answer, the wait for one, or
the fetch of the list. -/
def Effect.isCall : Effect α → Bool
  | .sent _ _ => true
  | .finished _ _ _ => true
  | .stalled _ _ => true
  | .listed _ => true
  | _ => false

@[simp]
def Effect.lingers : Effect α → Bool
  | .asked m _ => m.waitToClose
  | _ => false

def Brief (effects : List (Effect α)) : Prop := ∀ x ∈ effects, x.lingers = false

@[simp]
theorem brief_nil : Brief ([] : List (Effect α)) := by simp [Brief]

@[simp]
theorem brief_cons {x : Effect α} {rest : List (Effect α)} :
    Brief (x :: rest) ↔ x.lingers = false ∧ Brief rest := List.forall_mem_cons

@[simp]
theorem brief_append {left right : List (Effect α)} :
    Brief (left ++ right) ↔ Brief left ∧ Brief right := List.forall_mem_append

theorem brief_of_unasked {effects : List (Effect α)}
    (unasked : ∀ m answer, .asked m answer ∉ effects) : Brief effects := by
  intro x member
  cases x with
  | asked m answer => exact absurd member (unasked m answer)
  | _ => rfl

/-- Where no modal lingers, none is open at the end if none was at first. -/
theorem stillOpen_brief {effects : List (Effect α)} (brief : Brief effects) :
    stillOpen effects = [] := by
  rw [stillOpen]
  induction effects with
  | nil => rfl
  | cons x effects ih =>
    obtain ⟨here, later⟩ := brief_cons.mp brief
    have same : x.leaves [] = [] := by
      cases x with
      | asked m answer => exact if_neg (by simpa using here)
      | _ => rfl
    rw [List.foldl_cons, same, ih later]

theorem stillOpen_closed (before after : List (Effect α)) :
    stillOpen (before ++ .closed :: after) = stillOpen after := by
  simp [stillOpen, Effect.leaves]

inductive ClosesFirst : List (Effect α) → Option β → Prop where
  | silent (result : Option β) : ClosesFirst [] result
  | unanswered {asking : List (Effect α)} (idle : ∀ x ∈ asking, x.isCall = false) :
      ClosesFirst asking none
  | closed (asking : List (Effect α)) {calling : List (Effect α)} (result : Option β)
      (idle : ∀ x ∈ asking, x.isCall = false) (brief : Brief calling) :
      ClosesFirst (asking ++ .closed :: calling) result

namespace ClosesFirst

variable {effects before after : List (Effect α)} {result : Option β} {x : Effect α}

theorem unobstructed (closes : ClosesFirst effects result) (call : x.isCall = true)
    (split : effects = before ++ x :: after) : stillOpen before = [] := by
  have among : x ∈ effects := by simp [split]
  cases closes with
  | silent => cases among
  | unanswered idle => simp [idle x among] at call
  | closed _ _ idle brief =>
    rcases split_append split with ⟨rest, rfl, -⟩ | ⟨lead, later, rfl⟩
    · simp [idle x (by simp)] at call
    -- The call is not the close itself, so it comes after it.
    · rcases List.cons_eq_append_iff.mp later with ⟨rfl, same⟩ | ⟨lead, rfl, rfl⟩
      · cases same
        cases call
      · rw [stillOpen_closed]
        exact stillOpen_brief (brief_append.mp brief).1

theorem returned (closes : ClosesFirst effects result) (ended : result ≠ none) :
    stillOpen effects = [] := by
  cases closes with
  | silent => rfl
  | unanswered => exact absurd rfl ended
  | closed _ _ idle brief => rw [stillOpen_closed, stillOpen_brief brief]

end ClosesFirst

theorem wave_brief {es left : List α} {t : Transition} {part : List (Effect α)}
    (wave : Wave t [] es part left) : Brief part := brief_of_unasked wave.unasked

variable [Entity α]

theorem offered_brief {p : Plan α} {refusal : Error} {effects : List (Effect α)}
    {result : Option (Except Error Report)} (course : Offered p refusal effects result) :
    Brief effects := by
  have offer : p.remedyQuestion.waitToClose = false := rfl
  cases course with
  | unanswered => simp [offer]
  | declined => simp [offer]
  | stalled remedied => simp [offer, brief_of_unasked (remedied_unasked remedied)]
  | accepted remedied => simp [offer, brief_of_unasked (remedied_unasked remedied)]

theorem submitted_brief {p : Plan α} {effects : List (Effect α)}
    {result : Option (Except Error Report)} (course : Submitted p effects result) :
    Brief effects := by
  cases course with
  | stalled stalled =>
    obtain ⟨part, left, -, wave, rfl⟩ := stalled
    simp [wave_brief wave]
  | settled wave plain => simp [wave_brief wave]
  | offered wave refused failed course => simp [wave_brief wave, offered_brief course]

theorem carriedOut_brief {i : Inventory α} {p : Plan α} {effects : List (Effect α)}
    {result : Option (Ended α)} (course : CarriedOut i p effects result) :
    ∃ calling, effects = .closed :: calling ∧ Brief calling := by
  cases course with
  | stalled course => exact ⟨_, rfl, by simp [submitted_brief course]⟩
  | unlisted course => exact ⟨_, rfl, by simp [submitted_brief course]⟩
  | refreshed course fresh => exact ⟨_, rfl, by simp [submitted_brief course]⟩
  | unrefreshed course f => exact ⟨_, rfl, by simp [submitted_brief course]⟩

theorem agreement_idle (p : Plan α) : ∀ x ∈ agreement p, x.isCall = false := by
  unfold agreement
  split <;> simp [Effect.isCall]

theorem course_closes {supports : Transition → Bool} {i : Inventory α} {t : Transition}
    {effects : List (Effect α)} {result : Option (Ended α)}
    (course : Course supports i t effects result) : ClosesFirst effects result := by
  cases course with
  | nothingSelected empty => exact .silent _
  | unsupported selected unknown => exact .silent _
  | confirmed selected known course =>
    -- What is asked before the close: the question, and a notice or a second question after it.
    cases course with
    | unanswered => exact .unanswered (by simp [Effect.isCall])
    | declined =>
      exact .closed [_, _] _ (by simp [Effect.isCall]) (by simp)
    | unnoticed noop => exact .unanswered (by simp [Effect.isCall])
    | noticed noop yes =>
      exact .closed [_, _, _] _ (by simp [Effect.isCall]) (by simp)
    | partlyUnanswered isPartial => exact .unanswered (by simp [Effect.isCall])
    | partlyDeclined isPartial =>
      exact .closed [_, _, _, _] _ (by simp [Effect.isCall]) (by simp)
    | agreed needed course =>
      obtain ⟨calling, rfl, brief⟩ := carriedOut_brief course
      apply ClosesFirst.closed (.entered .confirming :: agreement _) result ?_ brief
      exact List.forall_mem_cons.mpr ⟨rfl, agreement_idle _⟩

structure ModalsClosed (effects : List (Effect α)) (result : Option (Ended α)) : Prop where
  /-- The server is not called while one is open. -/
  unobstructed : ∀ before x after, effects = before ++ x :: after → x.isCall = true →
    stillOpen before = []
  /-- None is open when the run returns. -/
  returned : result ≠ none → stillOpen effects = []

/-- No run leaves a modal open, whatever the operator and the server answer, and in whatever
order. -/
theorem run_closes_modals (env : Environment α σ) (supports : Transition → Bool) (s : Session α)
    (t : Transition) (w : σ) :
    ModalsClosed (s.running env supports t w).effects (s.running env supports t w).result := by
  have closes := course_closes (running_course env supports s t w)
  constructor
  · intro before x after split call
    exact closes.unobstructed call split
  · exact closes.returned

end ExtensionAdmin.Batch
