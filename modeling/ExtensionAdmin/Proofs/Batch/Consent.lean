import ExtensionAdmin.Proofs.Batch.Course

/-! No request without the operator's consent. The record of a run has two parts: up to some point
no question was refused, and from there on nothing is sent. A run that sends anything has been
agreed to at its very start. -/

namespace ExtensionAdmin.Batch

variable {α σ : Type}

/-- A question without the answer yes. A notice cannot be declined, whatever its answer. -/
def Effect.refuses : Effect α → Bool
  | .asked m answer => m.isQuestion && answer != some true
  | _ => false

def Heeded (effects : List (Effect α)) : Prop :=
  ∃ willing rest, effects = willing ++ rest ∧ (∀ x ∈ willing, x.refuses = false) ∧ sends rest = []

-- Where nothing is asked nothing is refused.
theorem unasked_willing {effects : List (Effect α)}
    (unasked : ∀ m answer, .asked m answer ∉ effects) : ∀ x ∈ effects, x.refuses = false := by
  intro x member
  cases x with
  | asked m answer => exact absurd member (unasked m answer)
  | _ => rfl

namespace Heeded

theorem unasked {effects : List (Effect α)} (silent : ∀ m answer, .asked m answer ∉ effects) :
    Heeded effects := ⟨effects, [], (List.append_nil _).symm, unasked_willing silent, rfl⟩

theorem unsent {effects : List (Effect α)} (silent : sends effects = []) : Heeded effects :=
  ⟨[], effects, rfl, by simp, silent⟩

theorem after {lead effects : List (Effect α)} (agreed : ∀ x ∈ lead, x.refuses = false)
    (heeded : Heeded effects) : Heeded (lead ++ effects) := by
  obtain ⟨willing, rest, rfl, before, silent⟩ := heeded
  refine ⟨lead ++ willing, rest, (List.append_assoc _ _ _).symm, ?_, silent⟩
  intro x member
  rcases List.mem_append.mp member with leading | later
  · exact agreed x leading
  · exact before x later

theorem cons {x : Effect α} {effects : List (Effect α)} (agreed : x.refuses = false)
    (heeded : Heeded effects) : Heeded (x :: effects) :=
  heeded.after (List.forall_mem_singleton.mpr agreed)

theorem before {effects last : List (Effect α)} (heeded : Heeded effects)
    (silent : sends last = []) : Heeded (effects ++ last) := by
  obtain ⟨willing, rest, rfl, agreed, unsent⟩ := heeded
  exact ⟨willing, rest ++ last, List.append_assoc _ _ _, agreed, by simp [unsent, silent]⟩

-- Before a request stands the first part only.
theorem agreed {effects before after : List (Effect α)} {e : α} {u : Transition}
    (heeded : Heeded effects) (split : effects = before ++ .sent e u :: after) :
    ∀ x ∈ before, x.refuses = false := by
  obtain ⟨willing, rest, rfl, agreed, silent⟩ := heeded
  rcases split_append split with ⟨last, rfl, -⟩ | ⟨lead, rfl, -⟩
  · intro x member
    exact agreed x (List.mem_append_left _ member)
  · simp at silent

end Heeded

-- The first question is answered before anything is sent.
theorem asked_before {m : Modal} {effects before after rest : List (Effect α)} {e : α}
    {u : Transition} (opening : effects = .entered .confirming :: .asked m (some true) :: rest)
    (split : effects = before ++ .sent e u :: after) : .asked m (some true) ∈ before := by
  rw [opening] at split
  match before with
  | [] => cases split
  | [x] => cases split
  | x :: y :: before =>
    simp only [List.cons_append, List.cons.injEq] at split
    rw [← split.2.1]
    simp

theorem remedied_error {es : List α} {effects : List (Effect α)}
    {result : Option (Except Error Report)} {f : Error} (course : Remedied es effects result)
    (failed : result = some (.error f)) : ∃ count total g, f = .batch count total g := by
  cases course with
  | disablingFailed wave observed =>
    cases failed
    exact ⟨_, _, _, rfl⟩
  | @deleted first second disabled clean wave =>
    cases found : outcome .delete es.length (failures second) with
    | ok report => simp [found, Except.map] at failed
    | error g =>
      obtain ⟨h, rfl⟩ := outcome_error found
      simp only [found, Except.map, Option.some.injEq, Except.error.injEq] at failed
      exact ⟨_, _, h, failed.symm⟩
  | disablingStalled stalled => cases failed
  | deletingStalled disabled clean stalled => cases failed

variable [Entity α]

theorem offered_heeded {p : Plan α} {refusal : Error} {effects : List (Effect α)}
    {result : Option (Except Error Report)} (course : Offered p refusal effects result) :
    Heeded effects := by
  cases course with
  | unanswered => exact .unsent rfl
  | declined => exact .unsent rfl
  | stalled remedied => exact .cons rfl (.cons rfl (.unasked (remedied_unasked remedied)))
  | accepted remedied =>
    exact .cons rfl (.cons rfl ((Heeded.unasked (remedied_unasked remedied)).before rfl))

theorem submitted_heeded {p : Plan α} {effects : List (Effect α)}
    {result : Option (Except Error Report)} (course : Submitted p effects result) :
    Heeded effects := by
  cases course with
  | stalled stalled =>
    obtain ⟨part, left, -, wave, rfl⟩ := stalled
    exact (Heeded.unasked wave.unasked).before rfl
  | settled wave plain => exact (Heeded.unasked wave.unasked).before rfl
  | offered wave refused failed course =>
    exact .after (unasked_willing wave.unasked) (.cons rfl (.cons rfl (offered_heeded course)))

theorem carriedOut_heeded {i : Inventory α} {p : Plan α} {effects : List (Effect α)}
    {result : Option (Ended α)} (course : CarriedOut i p effects result) : Heeded effects := by
  cases course with
  | stalled course => exact .cons rfl (.cons rfl (submitted_heeded course))
  | unlisted course => exact .cons rfl (.cons rfl ((submitted_heeded course).before rfl))
  | refreshed course fresh => exact .cons rfl (.cons rfl ((submitted_heeded course).before rfl))
  | unrefreshed course f => exact .cons rfl (.cons rfl ((submitted_heeded course).before rfl))

theorem agreement_willing (p : Plan α) : ∀ x ∈ agreement p, x.refuses = false := by
  unfold agreement
  split <;> simp [Effect.refuses]

theorem confirmed_heeded {i : Inventory α} {p : Plan α} {effects : List (Effect α)}
    {result : Option (Ended α)} (course : Confirmed i p effects result) : Heeded effects := by
  cases course with
  | agreed needed course => exact .after (agreement_willing p) (carriedOut_heeded course)
  | _ => exact .unsent rfl

theorem course_heeded {supports : Transition → Bool} {i : Inventory α} {t : Transition}
    {effects : List (Effect α)} {result : Option (Ended α)}
    (course : Course supports i t effects result) : Heeded effects := by
  cases course with
  | confirmed selected known course => exact .cons rfl (confirmed_heeded course)
  | _ => exact .unsent rfl

-- The error of the requests is always that of a batch.
theorem submitted_error {p : Plan α} {effects : List (Effect α)}
    {result : Option (Except Error Report)} {f : Error} (course : Submitted p effects result)
    (failed : result = some (.error f)) : ∃ count total g, f = .batch count total g := by
  cases course with
  | stalled stalled => cases failed
  | settled wave plain =>
    obtain ⟨g, same⟩ := outcome_error (Option.some.inj failed)
    exact ⟨_, _, g, same⟩
  | offered wave refused observed course =>
    cases course with
    | declined =>
      cases failed
      obtain ⟨g, same⟩ := outcome_error observed
      exact ⟨_, _, g, same⟩
    | accepted remedied => exact remedied_error remedied failed
    | unanswered => cases failed
    | stalled remedied => cases failed

theorem carriedOut_ended {i j : Inventory α} {p : Plan α} {effects : List (Effect α)}
    {ended : Except Error Outcome} (course : CarriedOut i p effects (some (ended, j))) :
    (∃ report, ended = .ok (.completed report)) ∨
    (∃ count total f, ended = .error (.batch count total f)) ∨
    ∃ f, ended = .error f ∧ .listed (some (.error f)) ∈ effects := by
  cases course with
  | @refreshed part result course fresh =>
    cases result with
    | ok report => exact Or.inl ⟨report, rfl⟩
    | error f =>
      obtain ⟨count, total, g, rfl⟩ := submitted_error course rfl
      exact Or.inr (Or.inl ⟨count, total, g, rfl⟩)
  | @unrefreshed part result course f =>
    cases result with
    | ok report => exact Or.inr (Or.inr ⟨f, rfl, by simp⟩)
    | error f =>
      obtain ⟨count, total, g, rfl⟩ := submitted_error course rfl
      exact Or.inr (Or.inl ⟨count, total, g, rfl⟩)

/-- Nothing was asked of the server, and the inventory is the same. -/
structure Untouched (i : Inventory α) (effects : List (Effect α)) (j : Inventory α) : Prop where
  unsent : ∀ e u, .sent e u ∉ effects
  unlisted : ∀ reply, .listed reply ∉ effects
  unchanged : j = i

theorem course_ended {supports : Transition → Bool} {i j : Inventory α} {t : Transition}
    {effects : List (Effect α)} {ended : Except Error Outcome}
    (course : Course supports i t effects (some (ended, j))) :
    Untouched i effects j ∨
    (∃ report, ended = .ok (.completed report)) ∨
    (∃ count total f, ended = .error (.batch count total f)) ∨
    ∃ f, ended = .error f ∧ .listed (some (.error f)) ∈ effects := by
  cases course with
  | nothingSelected empty => exact Or.inl ⟨by simp, by simp, rfl⟩
  | unsupported selected unknown => exact Or.inl ⟨by simp, by simp, rfl⟩
  | confirmed selected known course =>
    cases course with
    | declined => exact Or.inl ⟨by simp [aborting], by simp [aborting], rfl⟩
    | noticed noop yes => exact Or.inl ⟨by simp [aborting], by simp [aborting], rfl⟩
    | partlyDeclined isPartial => exact Or.inl ⟨by simp [aborting], by simp [aborting], rfl⟩
    | agreed needed course =>
      refine Or.inr ?_
      obtain completed | failed | ⟨f, same, listed⟩ := carriedOut_ended course
      · exact Or.inl completed
      · exact Or.inr (Or.inl failed)
      · exact Or.inr (Or.inr ⟨f, same, by simp [listed]⟩)

/-- What sends something begins with the answer yes to its first question. -/
theorem course_asks {supports : Transition → Bool} {i : Inventory α} {t : Transition}
    {effects : List (Effect α)} {result : Option (Ended α)}
    (course : Course supports i t effects result) :
    sends effects = [] ∨ ∃ rest, effects = .entered .confirming ::
      .asked (Plan.ofSelection i.selected t).question (some true) :: rest := by
  cases course with
  | confirmed selected known course =>
    cases course with
    | agreed needed course => exact Or.inr ⟨_, rfl⟩
    | _ => exact Or.inl rfl
  | _ => exact Or.inl rfl

structure Consented (supports : Transition → Bool) (i : Inventory α) (t : Transition)
    (effects : List (Effect α)) (result : Option (Ended α)) : Prop where
  /-- Some question stands before every request. -/
  asked : ∀ before e u after, effects = before ++ .sent e u :: after →
    ∃ m, m.isQuestion ∧ .asked m (some true) ∈ before
  /-- Every question before a request was answered with yes. -/
  agreed : ∀ before e u after, effects = before ++ .sent e u :: after →
    ∀ m answer, m.isQuestion → .asked m answer ∈ before → answer = some true
  /-- After a no, nothing is sent. -/
  heeded : ∀ before m after, m.isQuestion → effects = before ++ .asked m (some false) :: after →
    ∀ e u, .sent e u ∉ after
  /-- A run that ends well without being completed left everything as it was. -/
  untouched : ∀ outcome j, result = some (.ok outcome, j) →
    (∀ report, outcome ≠ .completed report) → Untouched i effects j
  /-- So did one that refuses the change itself, and does not pass on such an error of the list. -/
  refused : ∀ text j, result = some (.error (.unsupported text), j) →
    .listed (some (.error (.unsupported text))) ∉ effects → Untouched i effects j
  /-- Without a selection nothing happens at all. -/
  unselected : i.selected = [] → effects = [] ∧ result = some (.ok .nothingSelected, i)
  /-- Nor does it for a change that the server does not know. -/
  unknown : i.selected ≠ [] → supports t = false →
    effects = [] ∧ result = some (.error (unsupported α t), i)

theorem course_consented {supports : Transition → Bool} {i : Inventory α} {t : Transition}
    {effects : List (Effect α)} {result : Option (Ended α)}
    (course : Course supports i t effects result) : Consented supports i t effects result := by
  have heeded := course_heeded course
  have agreed : ∀ before e u after, effects = before ++ .sent e u :: after →
      ∀ m answer, m.isQuestion → .asked m answer ∈ before → answer = some true := by
    intro before e u after split m answer question member
    simpa [Effect.refuses, question] using heeded.agreed split _ member
  constructor
  case asked =>
    intro before e u after split
    obtain silent | ⟨rest, opening⟩ := course_asks course
    · have sent : (e, u) ∈ sends effects := by simp [split]
      rw [silent] at sent
      cases sent
    · exact ⟨_, rfl, asked_before opening split⟩
  case agreed => exact agreed
  case heeded =>
    intro before m after question split e u sent
    -- The refused question would stand before the request.
    obtain ⟨middle, last, rfl⟩ := List.append_of_mem sent
    have member : .asked m (some false) ∈ before ++ .asked m (some false) :: middle := by simp
    have yes := agreed _ e u last (by simp [split]) m (some false) question member
    cases yes
  case untouched =>
    rintro outcome j rfl unfinished
    obtain untouched | ⟨report, same⟩ | ⟨_, _, _, same⟩ | ⟨_, same, -⟩ := course_ended course
    · exact untouched
    · exact absurd (Except.ok.inj same) (unfinished report)
    · cases same
    · cases same
  case refused =>
    rintro text j rfl unlisted
    obtain untouched | ⟨_, same⟩ | ⟨_, _, _, same⟩ | ⟨f, same, listed⟩ := course_ended course
    · exact untouched
    · cases same
    · cases same
    · cases same
      exact absurd listed unlisted
  case unselected =>
    intro empty
    cases course with
    | nothingSelected empty => exact ⟨rfl, rfl⟩
    | unsupported selected unknown => exact absurd empty selected
    | confirmed selected known course => exact absurd empty selected
  case unknown =>
    intro selected unknown
    cases course with
    | nothingSelected empty => exact absurd empty selected
    | unsupported selected unknown => exact ⟨rfl, rfl⟩
    | confirmed selected known course => simp [known] at unknown

/-- Whatever the operator and the server answer, a run does nothing without consent. -/
theorem run_consented (env : Environment α σ) (supports : Transition → Bool) (s : Session α)
    (t : Transition) (w : σ) :
    Consented supports s.inventory t (s.running env supports t w).effects
      (s.running env supports t w).result :=
  course_consented (running_course env supports s t w)

end ExtensionAdmin.Batch
