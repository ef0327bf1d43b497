import Mathlib.Data.List.SplitBy
import ExtensionAdmin.Proofs.Batch.RequestWaves

/-! How the requests of a plan come to an end. The waves of a run can be read off its record: two
waves that follow one another are never for the same change, so a wave is a longest stretch of
requests and answers for one change. When every request of a plan was answered, there are one, two
or three of them, and the result is what the last of them came to. -/

namespace ExtensionAdmin.Batch

variable {α : Type}

def Effect.change? : Effect α → Option Transition
  | .sent _ t => some t
  | .finished _ t _ => some t
  | _ => none

def waves (effects : List (Effect α)) : List (List (Effect α)) :=
  (exchanges effects).splitBy fun x y => x.change? == y.change?

def Uniform (t : Transition) (part : List (Effect α)) : Prop :=
  part ≠ [] ∧ ∀ x ∈ part, x.change? = some t

theorem waves_congr {left right : List (Effect α)} (same : exchanges left = exchanges right) :
    waves left = waves right := by rw [waves, waves, same]

theorem waves_eq_nil_iff (effects : List (Effect α)) : waves effects = [] ↔ exchanges effects = [] :=
  List.splitBy_eq_nil

theorem waves_flatten (effects : List (Effect α)) : (waves effects).flatten = exchanges effects :=
  List.flatten_splitBy _ _

/-- What is cut into parts for one change each, neighbours for different ones, has these as waves. -/
theorem waves_eq {effects : List (Effect α)} (parts : List (Transition × List (Effect α)))
    (whole : exchanges effects = (parts.map Prod.snd).flatten)
    (uniform : ∀ part ∈ parts, Uniform part.1 part.2)
    (differ : parts.IsChain fun a b => a.1 ≠ b.1) : waves effects = parts.map Prod.snd := by
  rw [waves, whole]
  refine List.splitBy_flatten ?_ ?_ ?_
  · intro member
    obtain ⟨part, inside, empty⟩ := List.mem_map.mp member
    exact (uniform part inside).1 empty
  · intro inner member
    obtain ⟨part, inside, rfl⟩ := List.mem_map.mp member
    refine List.Pairwise.isChain (List.pairwise_of_forall_mem_list ?_)
    intro x hx y hy
    simp [(uniform part inside).2 x hx, (uniform part inside).2 y hy]
  · rw [List.isChain_map]
    refine List.IsChain.imp_of_mem_imp ?_ differ
    intro a b ha hb different
    have left := uniform a ha
    have right := uniform b hb
    refine ⟨left.1, right.1, ?_⟩
    simp [left.2 _ (List.getLast_mem left.1), right.2 _ (List.head_mem right.1), different]

theorem wave_uniform {t : Transition} {es left : List α} {part : List (Effect α)}
    (wave : Wave t [] es part left) (needed : es ≠ []) : Uniform t part := by
  refine ⟨wave_nonempty wave needed, ?_⟩
  intro x member
  have exchange := wave.quiet x member
  cases x with
  | sent e u =>
    have request := (mem_sends part e u).mpr member
    rw [wave.sent, List.mem_map] at request
    obtain ⟨_, -, same⟩ := request
    cases same
    rfl
  | finished e u v =>
    obtain ⟨before, after, split⟩ := List.append_of_mem member
    obtain ⟨rfl, -⟩ := wave.causal before e u v after split
    rfl
  | _ => simp [Effect.isExchange] at exchange

@[simp]
def Effect.question? : Effect α → Option (Modal × Option Bool)
  | .asked m answer => some (m, answer)
  | _ => none

def questions (effects : List (Effect α)) : List (Modal × Option Bool) :=
  effects.filterMap Effect.question?

@[simp]
theorem questions_nil : questions ([] : List (Effect α)) = [] := rfl

@[simp]
theorem questions_cons (x : Effect α) (rest : List (Effect α)) :
    questions (x :: rest) = x.question?.toList ++ questions rest := by
  cases x <;> rfl

@[simp]
theorem questions_append (left right : List (Effect α)) :
    questions (left ++ right) = questions left ++ questions right := List.filterMap_append

theorem unasked_questions {effects : List (Effect α)}
    (silent : ∀ m answer, .asked m answer ∉ effects) : questions effects = [] := by
  refine List.filterMap_eq_nil_iff.mpr ?_
  intro x member
  cases x with
  | asked m answer => exact absurd member (silent m answer)
  | _ => rfl

variable [Entity α]

inductive Ending (p : Plan α) :
    List (Modal × Option Bool) → List (List (Effect α)) → Except Error Report → Prop where
  | plain {first} (wave : Answered p.eligible p.transition first)
      (plain : ¬ Remediable p (failures first)) :
      Ending p [] [first] (outcome p.transition p.eligible.length (failures first))
  | declined {first} (wave : Answered p.eligible p.transition first)
      (refused : Remediable p (failures first)) :
      Ending p [(p.remedyQuestion, some false)] [first]
        (outcome p.transition p.eligible.length (failures first))
  | disablingFailed {first second} (wave : Answered p.eligible p.transition first)
      (refused : Remediable p (failures first))
      (disabled : Answered p.enabledEligible .disable second) (failed : failures second ≠ []) :
      Ending p [(p.remedyQuestion, some true)] [first, second]
        (outcome .disable p.enabledEligible.length (failures second))
  | deleted {first second third} (wave : Answered p.eligible p.transition first)
      (refused : Remediable p (failures first))
      (disabled : Answered p.enabledEligible .disable second) (clean : failures second = [])
      (deletes : Answered p.enabledEligible .delete third) :
      Ending p [(p.remedyQuestion, some true)] [first, second, third]
        ((outcome .delete p.enabledEligible.length (failures third)).map
          fun report => { report with remedied := p.enabledEligible.length })

/-- The remedy that was accepted ends after its first wave, which failed, or after its second. -/
theorem remedied_ending {p : Plan α} {effects first tail : List (Effect α)}
    {result : Except Error Report} (wave : Answered p.eligible p.transition first)
    (refused : Remediable p (failures first)) (needed : p.eligible ≠ [])
    (course : Remedied p.enabledEligible tail (some result))
    (whole : exchanges effects = first ++ exchanges tail)
    (asked : questions effects = [(p.remedyQuestion, some true)]) :
    Ending p (questions effects) (waves effects) result := by
  -- Only deletions can be remedied, so the waves delete, disable and delete: no two that meet are
  -- for the same change, and the record is cut where the change turns into another.
  have start : Uniform .delete first := by
    rw [← refused.1]
    exact wave_uniform wave needed
  rw [asked]
  generalize ends : some result = final at course
  cases course with
  | disablingStalled stalled => cases ends
  | deletingStalled disabled clean stalled => cases ends
  | disablingFailed disabled failed =>
    cases ends
    have parts : exchanges effects = [first, tail].flatten := by simp [whole, wave_alone disabled]
    have cut := waves_eq [(.delete, first), (.disable, tail)] parts
      (by simp [start, wave_uniform disabled refused.2.1]) (by simp)
    have ending := Ending.disablingFailed wave refused disabled (by simp [failed])
    simpa [cut, outcome, failed] using ending
  | @deleted second third disabled clean deletes =>
    cases ends
    have parts : exchanges effects = [first, second, third].flatten := by
      simp [whole, wave_alone disabled, wave_alone deletes]
    have cut := waves_eq [(.delete, first), (.disable, second), (.delete, third)] parts
      (by simp [start, wave_uniform disabled refused.2.1, wave_uniform deletes refused.2.1])
      (by simp)
    rw [cut]
    exact .deleted wave refused disabled clean deletes

/-- Requests that were all answered come to one of the ends. -/
theorem submitted_ending {p : Plan α} {effects : List (Effect α)} {result : Except Error Report}
    (needed : p.eligible ≠ []) (course : Submitted p effects (some result)) :
    Ending p (questions effects) (waves effects) result := by
  generalize ends : some result = final at course
  -- Without the remedy all requests are for one change, and the record is a single wave.
  cases course with
  | stalled stalled => cases ends
  | @settled first wave plain =>
    cases ends
    rw [waves_eq [(p.transition, first)] ((wave_last wave).trans List.flatten_singleton.symm)
      (by simp [wave_uniform wave needed]) (by simp)]
    simpa [unasked_questions wave.unasked] using Ending.plain wave plain
  | @offered first refusal tail _ wave refused failed course =>
    cases course with
    | unanswered => cases ends
    | stalled remedied => cases ends
    | declined =>
      cases ends
      rw [waves_eq [(p.transition, first)] ((wave_last wave).trans List.flatten_singleton.symm)
        (by simp [wave_uniform wave needed]) (by simp)]
      simpa [unasked_questions wave.unasked, failed] using Ending.declined wave refused
    | accepted remedied =>
      cases ends
      refine remedied_ending wave refused needed remedied ?_ ?_
      · refine (wave_exchanges wave _).trans ?_
        exact congrArg _ (exchanges_silent _)
      · simp [unasked_questions wave.unasked, unasked_questions (remedied_unasked remedied)]

end ExtensionAdmin.Batch
