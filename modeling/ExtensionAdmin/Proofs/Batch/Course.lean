import ExtensionAdmin.Batch.Session
import ExtensionAdmin.Entity.ServiceRecord
import ExtensionAdmin.Proofs.Batch.Wave

/-! The courses that a run can take. For each part of a run there is a relation between what it
leaves in the record and what it comes to, with one constructor for each way through it. The theorem
of each part says that it unfolds in one of these ways and no other; what is known of every run is
found by going through them. -/

namespace ExtensionAdmin.Batch

variable {α σ : Type}

inductive Remedied (es : List α) : List (Effect α) → Option (Except Error Report) → Prop where
  | disablingStalled {first} (wave : Stalled es .disable first) : Remedied es first none
  | disablingFailed {first f rest} (wave : Answered es .disable first)
      (failed : failures first = f :: rest) :
      Remedied es first (some (.error (.batch (rest.length + 1) es.length f)))
  | deletingStalled {first second} (disabled : Answered es .disable first)
      (clean : failures first = []) (wave : Stalled es .delete second) :
      Remedied es (first ++ second) none
  | deleted {first second} (disabled : Answered es .disable first) (clean : failures first = [])
      (wave : Answered es .delete second) :
      Remedied es (first ++ second) (some ((outcome .delete es.length (failures second)).map
        fun report => { report with remedied := es.length }))

theorem disableAndDelete_unfolds (es : List α) (effects : List (Effect α))
    (result : Option (Except Error Report))
    (unfolds : (disableAndDelete es).Unfolds effects result) : Remedied es effects result := by
  unfold disableAndDelete at unfolds
  rcases execute_bind_unfolds _ _ _ _ _ unfolds with
    ⟨wave, rfl⟩ | ⟨first, rest, rfl, disabled, goes⟩
  · exact .disablingStalled wave
  cases clean : failures first with
  | cons f others =>
    simp only [clean, outcome] at goes
    obtain ⟨rfl, rfl⟩ := goes
    simpa using Remedied.disablingFailed disabled clean
  | nil =>
    simp only [clean, outcome] at goes
    rcases execute_bind_unfolds _ _ _ _ _ goes with ⟨wave, rfl⟩ | ⟨second, last, rfl, wave, ends⟩
    · exact .deletingStalled disabled clean wave
    · have whole := Remedied.deleted disabled clean wave
      cases found : failures second <;> simp only [found, outcome] at ends whole <;>
        obtain ⟨rfl, rfl⟩ := ends <;> simpa [Except.map] using whole

/-- What the remedy leaves: a wave that disables, perhaps one that deletes, and perhaps a stall. -/
theorem remedied_parts {es : List α} {effects : List (Effect α)}
    {result : Option (Except Error Report)} (course : Remedied es effects result) :
    ∃ first second last, effects = first ++ second ++ last ∧
      (∃ left, Wave .disable [] es first left) ∧
      (second = [] ∨ ∃ left, Wave .delete [] es second left) ∧
      ∀ x ∈ last, ∃ left t, x = .stalled left t := by
  cases course with
  | disablingStalled stalled =>
    obtain ⟨part, left, -, wave, rfl⟩ := stalled
    exact ⟨part, [], [.stalled left .disable], by simp, ⟨left, wave⟩, Or.inl rfl, by simp⟩
  | disablingFailed wave failed =>
    exact ⟨_, [], [], by simp, ⟨[], wave⟩, Or.inl rfl, by simp⟩
  | deletingStalled disabled clean stalled =>
    obtain ⟨part, left, -, wave, rfl⟩ := stalled
    exact ⟨_, part, [.stalled left .delete], by simp, ⟨[], disabled⟩, Or.inr ⟨left, wave⟩, by simp⟩
  | deleted disabled clean wave =>
    exact ⟨_, _, [], by simp, ⟨[], disabled⟩, Or.inr ⟨[], wave⟩, by simp⟩

-- The waves of the remedy and their stalls, and nothing else.
theorem remedied_quiet {es : List α} {effects : List (Effect α)}
    {result : Option (Except Error Report)} (course : Remedied es effects result) {x : Effect α}
    (member : x ∈ effects) : x.isExchange = true ∨ ∃ left t, x = .stalled left t := by
  obtain ⟨first, second, last, rfl, ⟨_, disabling⟩, deleting, stalls⟩ := remedied_parts course
  rcases List.mem_append.mp member with waves | stall
  · rcases List.mem_append.mp waves with inside | inside
    · exact Or.inl (disabling.quiet x inside)
    · rcases deleting with rfl | ⟨_, wave⟩
      · cases inside
      · exact Or.inl (wave.quiet x inside)
  · exact Or.inr (stalls x stall)

theorem remedied_unasked {es : List α} {effects : List (Effect α)}
    {result : Option (Except Error Report)} (course : Remedied es effects result) (m : Modal)
    (answer : Option Bool) : .asked m answer ∉ effects := by
  intro member
  obtain exchange | ⟨_, _, same⟩ := remedied_quiet course member
  · cases exchange
  · cases same

variable [Entity α]

inductive Offered (p : Plan α) (refusal : Error) :
    List (Effect α) → Option (Except Error Report) → Prop where
  | unanswered : Offered p refusal [.asked p.remedyQuestion none] none
  | declined : Offered p refusal [.asked p.remedyQuestion (some false), .entered .aborted]
      (some (.error refusal))
  | stalled {tail} (remedied : Remedied p.enabledEligible tail none) :
      Offered p refusal (.asked p.remedyQuestion (some true) :: .entered .executing :: tail) none
  | accepted {tail result} (remedied : Remedied p.enabledEligible tail (some result)) :
      Offered p refusal (.asked p.remedyQuestion (some true) :: .entered .executing ::
        (tail ++ [.entered (settled result)])) (some result)

def Remediable (p : Plan α) (errors : List Error) : Prop :=
  p.transition = .delete ∧ p.enabledEligible ≠ [] ∧ ∃ f, errors.head? = some f ∧ f.isRefusal

inductive Submitted (p : Plan α) : List (Effect α) → Option (Except Error Report) → Prop where
  | stalled {first} (wave : Stalled p.eligible p.transition first) : Submitted p first none
  | settled {first} (wave : Answered p.eligible p.transition first)
      (plain : ¬ Remediable p (failures first)) :
      Submitted p (first ++
        [.entered (settled (outcome p.transition p.eligible.length (failures first)))])
        (some (outcome p.transition p.eligible.length (failures first)))
  | offered {first refusal tail result} (wave : Answered p.eligible p.transition first)
      (refused : Remediable p (failures first))
      (failed : outcome p.transition p.eligible.length (failures first) = .error refusal)
      (course : Offered p refusal tail result) :
      Submitted p (first ++ .entered .failed :: .entered .confirming :: tail) result

-- A refusal shows through the error of a batch.
omit [Entity α] in
theorem isRefusal_batch (failed total : Nat) (f : Error) :
    (Error.batch failed total f).isRefusal = f.isRefusal := rfl

theorem remedy_unfolds (p : Plan α) (refusal : Error) (effects : List (Effect α))
    (result : Option (Except Error Report)) (enabled : p.enabledEligible ≠ [])
    (unfolds : (remedy p refusal).Unfolds effects result) :
    ∃ tail, effects = .entered .failed :: .entered .confirming :: tail ∧
      Offered p refusal tail result := by
  rw [remedy, if_neg (by simpa using enabled)] at unfolds
  obtain ⟨_, rfl, _, rfl, ⟨rfl, rfl⟩ | ⟨_ | _, tail, rfl, goes⟩⟩ := unfolds
  · exact ⟨_, rfl, .unanswered⟩
  · obtain ⟨_, rfl, rfl, rfl⟩ := goes
    exact ⟨_, rfl, .declined⟩
  · obtain ⟨last, rfl, goes⟩ := goes
    rcases unfolds_bind _ _ _ _ goes with ⟨stopped, rfl⟩ | ⟨part, x, rest, rfl, ended, follows⟩
    · exact ⟨_, rfl, .stalled (disableAndDelete_unfolds _ _ _ stopped)⟩
    · obtain ⟨_, rfl, rfl, rfl⟩ := follows
      exact ⟨_, rfl, .accepted (disableAndDelete_unfolds _ _ _ ended)⟩

theorem submit_unfolds (p : Plan α) (effects : List (Effect α))
    (result : Option (Except Error Report)) (unfolds : (submit p).Unfolds effects result) :
    Submitted p effects result := by
  unfold submit at unfolds
  rcases execute_bind_unfolds _ _ _ _ _ unfolds with ⟨wave, rfl⟩ | ⟨first, rest, rfl, wave, goes⟩
  · exact .stalled wave
  cases found : failures first with
  | nil =>
    have plain : ¬ Remediable p (failures first) := by simp [Remediable, found]
    have whole := Submitted.settled wave plain
    simp only [found, outcome] at goes whole
    obtain ⟨_, rfl, rfl, rfl⟩ := goes
    exact whole
  | cons f others =>
    have failed : outcome p.transition p.eligible.length (failures first) =
        .error (.batch (others.length + 1) p.eligible.length f) := by rw [found, outcome]
    rw [failed] at goes
    by_cases refused : Remediable p (failures first)
    -- The offer is made.
    · have condition : p.transition = .delete ∧ f.isRefusal = true := by
        obtain ⟨deletes, -, g, first, refusal⟩ := refused
        simp only [found, List.head?_cons, Option.some.injEq] at first
        exact ⟨deletes, first ▸ refusal⟩
      simp only [isRefusal_batch, condition, and_self, if_true] at goes
      obtain ⟨tail, rfl, course⟩ := remedy_unfolds p _ rest result refused.2.1 goes
      exact .offered wave refused failed course
    -- No offer, and for one of two reasons: another error, or nothing that was enabled.
    · have whole := Submitted.settled wave refused
      have stays : (Dialogue.enter .failed (.done (.error (.batch (others.length + 1)
          p.eligible.length f))) : Dialogue α (Except Error Report)).Unfolds rest result := by
        by_cases condition : p.transition = .delete ∧ f.isRefusal = true
        · have disabled : p.enabledEligible = [] := by
            by_contra enabled
            exact refused ⟨condition.1, enabled, f, by simp [found], condition.2⟩
          simpa only [isRefusal_batch, condition, and_self, if_true, remedy, disabled,
            List.isEmpty_nil] using goes
        · simpa only [isRefusal_batch, condition, if_false] using goes
      obtain ⟨_, rfl, rfl, rfl⟩ := stays
      rwa [failed] at whole

inductive CarriedOut (i : Inventory α) (p : Plan α) :
    List (Effect α) → Option (Ended α) → Prop where
  | stalled {part} (course : Submitted p part none) :
      CarriedOut i p (.closed :: .entered .executing :: part) none
  | unlisted {part result} (course : Submitted p part (some result)) :
      CarriedOut i p (.closed :: .entered .executing :: (part ++ [.listed none])) none
  | refreshed {part result} (course : Submitted p part (some result)) (fresh : List α) :
      CarriedOut i p (.closed :: .entered .executing ::
        (part ++ [.listed (some (.ok fresh)), .entered .idle]))
        (some (conclude result (.ok ()), i.replace fresh))
  | unrefreshed {part result} (course : Submitted p part (some result)) (f : Error) :
      CarriedOut i p (.closed :: .entered .executing ::
        (part ++ [.listed (some (.error f)), .entered .idle]))
        (some (conclude result (.error f), i))

theorem carryOut_unfolds (i : Inventory α) (p : Plan α) (effects : List (Effect α))
    (result : Option (Ended α)) (unfolds : (carryOut i p).Unfolds effects result) :
    CarriedOut i p effects result := by
  obtain ⟨_, rfl, rest, rfl, goes⟩ := unfolds
  rcases unfolds_bind _ _ _ _ goes with ⟨stopped, rfl⟩ | ⟨part, x, last, rfl, ended, follows⟩
  · exact .stalled (submit_unfolds _ _ _ stopped)
  have course := submit_unfolds _ _ _ ended
  rcases unfolds_bind _ _ _ _ follows with ⟨stopped, rfl⟩ | ⟨part, y, last, rfl, refreshes, ends⟩
  · rcases stopped with ⟨rfl, -⟩ | ⟨_ | _, _, rfl, -, same⟩
    · exact .unlisted course
    · cases same
    · cases same
  · obtain ⟨_, rfl, rfl, rfl⟩ := ends
    rcases refreshes with ⟨-, same⟩ | ⟨f | fresh, _, rfl, rfl, same⟩
    · cases same
    · cases same
      exact .unrefreshed course f
    · cases same
      exact .refreshed course fresh

def aborting : List (Effect α) := [.closed, .entered .aborted, .entered .idle]

def agreement (p : Plan α) : List (Effect α) :=
  .asked p.question (some true) ::
    if p.isPartial then [.entered .confirming, .asked p.partialQuestion (some true)] else []

theorem agreement_unanswered (p : Plan α) : answers (agreement p) = [] := by
  unfold agreement
  split <;> rfl

inductive Confirmed (i : Inventory α) (p : Plan α) :
    List (Effect α) → Option (Ended α) → Prop where
  | unanswered : Confirmed i p [.asked p.question none] none
  | declined : Confirmed i p (.asked p.question (some false) :: aborting)
      (some (.ok .declined, i))
  | unnoticed (noop : p.isNoop) :
      Confirmed i p [.asked p.question (some true), .asked p.notice none] none
  | noticed (noop : p.isNoop) (yes : Bool) :
      Confirmed i p (.asked p.question (some true) :: .asked p.notice (some yes) :: aborting)
        (some (.ok (.alreadySatisfied p.total), i))
  | partlyUnanswered (isPartial : p.isPartial) :
      Confirmed i p [.asked p.question (some true), .entered .confirming,
        .asked p.partialQuestion none] none
  | partlyDeclined (isPartial : p.isPartial) :
      Confirmed i p (.asked p.question (some true) :: .entered .confirming ::
        .asked p.partialQuestion (some false) :: aborting) (some (.ok .declined, i))
  | agreed {part result} (needed : p.isNoop = false) (course : CarriedOut i p part result) :
      Confirmed i p (agreement p ++ part) result

omit [Entity α] in
theorem abort_unfolds (i : Inventory α) (outcome : Outcome) (effects : List (Effect α))
    (result : Option (Ended α)) (unfolds : (abort i outcome).Unfolds effects result) :
    effects = aborting ∧ result = some (.ok outcome, i) := by
  obtain ⟨_, rfl, _, rfl, _, rfl, rfl, rfl⟩ := unfolds
  exact ⟨rfl, rfl⟩

theorem confirm_unfolds (i : Inventory α) (p : Plan α) (effects : List (Effect α))
    (result : Option (Ended α)) (unfolds : (confirm i p).Unfolds effects result) :
    ∃ rest, effects = .entered .confirming :: rest ∧ Confirmed i p rest result := by
  obtain ⟨rest, rfl, ⟨rfl, rfl⟩ | ⟨_ | _, rest, rfl, goes⟩⟩ := unfolds
  · exact ⟨_, rfl, .unanswered⟩
  · obtain ⟨rfl, rfl⟩ := abort_unfolds _ _ _ _ goes
    exact ⟨_, rfl, .declined⟩
  refine ⟨_, rfl, ?_⟩
  -- The operator has agreed to the change. With nothing to do there is a notice, and with only a
  -- part to do there is a second question.
  by_cases noop : p.isNoop = true
  · simp only [noop, if_true] at goes
    rcases goes with ⟨rfl, rfl⟩ | ⟨yes, rest, rfl, goes⟩
    · exact .unnoticed noop
    · obtain ⟨rfl, rfl⟩ := abort_unfolds _ _ _ _ goes
      exact .noticed noop yes
  have needed : p.isNoop = false := by simpa using noop
  by_cases isPartial : p.isPartial = true
  · simp only [needed, isPartial, if_true, Bool.false_eq_true, if_false] at goes
    obtain ⟨rest, rfl, ⟨rfl, rfl⟩ | ⟨_ | _, rest, rfl, goes⟩⟩ := goes
    · exact .partlyUnanswered isPartial
    · obtain ⟨rfl, rfl⟩ := abort_unfolds _ _ _ _ goes
      exact .partlyDeclined isPartial
    · simpa [agreement, isPartial] using Confirmed.agreed needed (carryOut_unfolds _ _ _ _ goes)
  · simp only [needed, isPartial, Bool.false_eq_true, if_false] at goes
    simpa [agreement, isPartial] using Confirmed.agreed needed (carryOut_unfolds _ _ _ _ goes)

def unsupported (α : Type) [Entity α] (t : Transition) : Error :=
  .unsupported s!"{t.display} is not available for {(Entity.kind α).plural}"

inductive Course (supports : Transition → Bool) (i : Inventory α) (t : Transition) :
    List (Effect α) → Option (Ended α) → Prop where
  | nothingSelected (empty : i.selected = []) :
      Course supports i t [] (some (.ok .nothingSelected, i))
  | unsupported (selected : i.selected ≠ []) (unknown : supports t = false) :
      Course supports i t [] (some (.error (unsupported α t), i))
  | confirmed {rest result} (selected : i.selected ≠ []) (known : supports t = true)
      (course : Confirmed i (Plan.ofSelection i.selected t) rest result) :
      Course supports i t (.entered .confirming :: rest) result

/-- A run unfolds in one of the courses. -/
theorem run_course (supports : Transition → Bool) (i : Inventory α) (t : Transition)
    (effects : List (Effect α)) (result : Option (Ended α))
    (unfolds : (run supports i t).Unfolds effects result) : Course supports i t effects result := by
  rw [run] at unfolds
  by_cases empty : i.selected = []
  · rw [if_pos (by simp [empty])] at unfolds
    rw [unfolds.1, unfolds.2]
    exact .nothingSelected empty
  rw [if_neg (by simpa using empty)] at unfolds
  cases known : supports t with
  | false =>
    rw [known, if_neg (by simp)] at unfolds
    rw [unfolds.1, unfolds.2]
    exact .unsupported empty known
  | true =>
    rw [known, if_pos rfl] at unfolds
    obtain ⟨rest, same, course⟩ := confirm_unfolds _ _ _ _ unfolds
    rw [same]
    exact .confirmed empty known course

/-- Every run, in whatever environment, takes one of the courses. -/
theorem running_course (env : Environment α σ) (supports : Transition → Bool) (s : Session α)
    (t : Transition) (w : σ) :
    Course supports s.inventory t (s.running env supports t w).effects
      (s.running env supports t w).result :=
  run_course supports s.inventory t _ _ (play_unfolds env (run supports s.inventory t) .idle w)

omit [Entity α] in
/-- What a dialogue leaves of a session: the phase that it reached, and the inventory that it ended
with, if it ended. -/
theorem afterPlay_session {β : Type} (s : Session α)
    (p : Played α (Except Error β × Inventory α) σ) (ended : β → Reply) :
    (s.afterPlay p ended).2.1 = ⟨p.phase, (p.result.map Prod.snd).getD s.inventory⟩ := by
  unfold Session.afterPlay
  rcases p.result with _ | ⟨f | x, j⟩
  · rfl
  · rfl
  · rfl

/-- Every question is accepted and every request answered at once, as the rest of a script says, and
with success when it is used up. -/
def Environment.prompt (fresh : List α) : Environment α (List Verdict) where
  ask _ script := (some true, script)
  close script := script
  send _ _ script := (some (script.headD (.ok ())), script.tail)
  await _ _ script := (none, script)
  list script := (some (.ok fresh), script)

def service (href : String) (enabled : Bool) : ServiceRecord :=
  ⟨href, href, "", enabled, "", "", 0, false⟩

def allSelected (services : List ServiceRecord) : Session ServiceRecord :=
  ⟨.idle, ⟨services, services⟩⟩

end ExtensionAdmin.Batch
