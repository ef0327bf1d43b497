import ExtensionAdmin.Proofs.Batch.Course

/-! What a completed run says about its requests. A run that is completed has sent and settled a
request for every eligible entity. If it took the plain way all of them succeeded. If it went
through the remedy, its report is that of the last wave, which is about the enabled entities alone:
what the others were answered in the first wave is not looked at again. -/

namespace ExtensionAdmin.Batch

variable {α σ : Type}

def LastAnswer (effects : List (Effect α)) (e : α) (t : Transition) (v : Verdict) : Prop :=
  ∃ before after, answers effects = before ++ ((e, t), v) :: after ∧ ∀ u, ((e, t), u) ∉ after

theorem last_of_mem {ρ : Type} (r : ρ) (replies : List (ρ × Verdict))
    (answered : ∃ v, (r, v) ∈ replies) :
    ∃ v before after, replies = before ++ (r, v) :: after ∧ ∀ u, (r, u) ∉ after := by
  -- The last answer of the rest is the last of all; only without one it is the first of the list.
  induction replies with
  | nil => simp at answered
  | cons x rest ih =>
    by_cases later : ∃ v, (r, v) ∈ rest
    · obtain ⟨v, before, after, rfl, last⟩ := ih later
      exact ⟨v, x :: before, after, rfl, last⟩
    · obtain ⟨v, member⟩ := answered
      rcases List.mem_cons.mp member with rfl | member
      · exact ⟨v, [], rest, rfl, fun u more => later ⟨u, more⟩⟩
      · exact absurd ⟨v, member⟩ later

theorem LastAnswer.unique {effects : List (Effect α)} {e : α} {t : Transition} {v w : Verdict}
    (one : LastAnswer effects e t v) (other : LastAnswer effects e t w) : v = w := by
  obtain ⟨before, after, same, last⟩ := one
  obtain ⟨before', after', same', last'⟩ := other
  rcases split_append (same.symm.trans same') with ⟨rest, -, rfl⟩ | ⟨lead, later, -⟩
  · exact absurd (by simp) (last' v)
  · rcases List.cons_eq_append_iff.mp later with ⟨-, first⟩ | ⟨tail, -, rfl⟩
    · simp only [List.cons.injEq, Prod.mk.injEq, true_and] at first
      exact first.1.symm
    · exact absurd (by simp) (last w)

theorem lastAnswer_exists {effects : List (Effect α)} {e : α} {t : Transition}
    (answered : ∃ v, ((e, t), v) ∈ answers effects) : ∃ v, LastAnswer effects e t v :=
  last_of_mem (e, t) _ answered

-- What the last part of the record answers with success in all its answers was so in the end.
theorem lastAnswer_clean {effects part : List (Effect α)} {e : α} {t : Transition}
    (lead : List ((α × Transition) × Verdict)) (ends : answers effects = lead ++ answers part)
    (answered : ∃ v, ((e, t), v) ∈ answers part) (clean : failures part = []) :
    LastAnswer effects e t (.ok ()) := by
  obtain ⟨v, before, after, same, last⟩ := last_of_mem (e, t) _ answered
  have member : ((e, t), v) ∈ answers part := by simp [same]
  obtain rfl := clean_answer clean member
  exact ⟨lead ++ before, after, by rw [ends, same, List.append_assoc], last⟩

theorem remedied_concluded {es : List α} {effects : List (Effect α)}
    {result : Option (Except Error Report)} {report : Report} (course : Remedied es effects result)
    (completed : result = some (.ok report)) :
    report.remedied = es.length ∧ ∃ first second, effects = first ++ second ∧
      Answered es .delete second ∧ failures second = [] := by
  cases course with
  | disablingStalled stalled => cases completed
  | disablingFailed wave failed => cases completed
  | deletingStalled disabled clean stalled => cases completed
  | @deleted first second disabled clean wave =>
    cases found : outcome .delete es.length (failures second) with
    | error f => simp [found, Except.map] at completed
    | ok plain =>
      simp only [found, Except.map, Option.some.injEq, Except.ok.injEq] at completed
      exact ⟨by rw [← completed], first, second, rfl, wave, (outcome_ok found).1⟩

variable [Entity α]

structure Concluded (eligible : List α) (t : Transition) (report : Report)
    (effects : List (Effect α)) : Prop where
  sent : ∀ e ∈ eligible, .sent e t ∈ effects
  answered : ∀ e ∈ eligible, ∃ v, ((e, t), v) ∈ answers effects
  succeeded : ∀ e ∈ eligible, Entity.enabled e = true ∨ report.remedied = 0 →
    LastAnswer effects e t (.ok ())
  plain : report.remedied = 0 → failures effects = []

-- The first wave sends every request and has it answered, whatever comes after it.
theorem Concluded.of_wave {eligible : List α} {t : Transition} {report : Report}
    {first rest : List (Effect α)} (wave : Answered eligible t first)
    (succeeded : ∀ e ∈ eligible, Entity.enabled e = true ∨ report.remedied = 0 →
      LastAnswer (first ++ rest) e t (.ok ()))
    (plain : report.remedied = 0 → failures (first ++ rest) = []) :
    Concluded eligible t report (first ++ rest) where
  sent e member := List.mem_append_left _ (wave.mem_sent member)
  answered e member := by
    obtain ⟨v, answer⟩ := answered_request wave member
    exact ⟨v, by simp [answer]⟩
  succeeded := succeeded
  plain := plain

theorem submitted_concluded {p : Plan α} {effects : List (Effect α)}
    {result : Option (Except Error Report)} {report : Report} (course : Submitted p effects result)
    (completed : result = some (.ok report)) :
    Concluded p.eligible p.transition report effects := by
  cases course with
  | stalled stalled => cases completed
  | settled wave plain =>
    have clean := (outcome_ok (Option.some.inj completed)).1
    refine .of_wave wave (fun e member _ => ?_) fun _ => ?_
    · exact lastAnswer_clean [] (by simp) (answered_request wave member) clean
    · simpa [failures, verdicts] using clean
  | @offered first _ _ _ wave refused failed course =>
    cases course with
    | unanswered => cases completed
    | declined => cases completed
    | stalled remedied => cases completed
    | accepted remedied =>
      obtain ⟨count, disabling, deleting, rfl, last, clean⟩ :=
        remedied_concluded remedied completed
      -- Some entity was disabled first.
      have remedied : report.remedied ≠ 0 := fun plain =>
        refused.2.1 (List.length_eq_zero_iff.mp (count.symm.trans plain))
      refine .of_wave wave (fun e member path => ?_) fun plain => absurd plain remedied
      have enabled : Entity.enabled e = true := path.resolve_right remedied
      have remains : e ∈ p.enabledEligible := List.mem_filter.mpr ⟨member, enabled⟩
      rw [refused.1]
      exact lastAnswer_clean (answers first ++ answers disabling) (by simp)
        (answered_request last remains) clean

theorem Concluded.within {eligible : List α} {t : Transition} {report : Report}
    {part effects : List (Effect α)} (concluded : Concluded eligible t report part)
    (inside : ∀ x ∈ part, x ∈ effects) (same : answers effects = answers part) :
    Concluded eligible t report effects where
  sent e member := inside _ (concluded.sent e member)
  answered e member := by
    rw [same]
    exact concluded.answered e member
  succeeded e member path := by
    rw [LastAnswer, same]
    exact concluded.succeeded e member path
  plain unremedied := by
    rw [failures, verdicts, same]
    exact concluded.plain unremedied

theorem carriedOut_concluded {i j : Inventory α} {p : Plan α} {effects : List (Effect α)}
    {ended : Except Error Outcome} {report : Report}
    (course : CarriedOut i p effects (some (ended, j)))
    (completed : ended = .ok (.completed report)) :
    Concluded p.eligible p.transition report effects := by
  cases course with
  | @refreshed part result course fresh =>
    cases result with
    | error f => cases completed
    | ok plain =>
      cases completed
      exact (submitted_concluded course rfl).within (fun x member => by simp [member]) (by simp)
  | @unrefreshed part result course f => cases result <;> cases completed

theorem course_concluded {supports : Transition → Bool} {i j : Inventory α} {t : Transition}
    {effects : List (Effect α)} {ended : Except Error Outcome} {report : Report}
    (course : Course supports i t effects (some (ended, j)))
    (completed : ended = .ok (.completed report)) :
    Concluded (i.selected.filter fun e => !t.satisfiedBy e) t report effects := by
  cases course with
  | nothingSelected empty => cases completed
  | unsupported selected unknown => cases completed
  | confirmed selected known course =>
    cases course with
    | declined => cases completed
    | noticed noop yes => cases completed
    | partlyDeclined isPartial => cases completed
    | agreed needed course =>
      refine (carriedOut_concluded course completed).within ?_ ?_
      · intro x member
        exact List.mem_cons_of_mem _ (List.mem_append_right _ member)
      · simp [agreement_unanswered]

/-- A completed run has sent a request for every eligible entity, and in the end every one of them
succeeded that was enabled, and every one at all if nothing had to be remedied. So no failure is
lost exactly when no disabled entity was answered with an error in the end: after the remedy there
may be such, and nothing in the report tells of it. -/
theorem completed_last_answers (env : Environment α σ) (supports : Transition → Bool)
    (s : Session α) (t : Transition) (w : σ) (report : Report) (j : Inventory α)
    (completed : (s.running env supports t w).result = some (.ok (.completed report), j)) :
    (∀ e ∈ s.inventory.selected.filter fun e => !t.satisfiedBy e,
      .sent e t ∈ (s.running env supports t w).effects) ∧
    (∀ e ∈ s.inventory.selected.filter fun e => !t.satisfiedBy e,
      Entity.enabled e = true ∨ report.remedied = 0 →
        LastAnswer (s.running env supports t w).effects e t (.ok ())) ∧
    ((∀ e ∈ s.inventory.selected.filter fun e => !t.satisfiedBy e,
        LastAnswer (s.running env supports t w).effects e t (.ok ())) ↔
      ∀ e ∈ s.inventory.selected.filter fun e => !t.satisfiedBy e, Entity.enabled e = false →
        ∀ f, ¬ LastAnswer (s.running env supports t w).effects e t (.error f)) := by
  have course := running_course env supports s t w
  rw [completed] at course
  have concluded := course_concluded course rfl
  refine ⟨concluded.sent, concluded.succeeded, ?_⟩
  constructor
  · intro all e member _ f failed
    exact absurd ((all e member).unique failed) (by simp)
  · intro clean e member
    cases enabled : Entity.enabled e with
    | true => exact concluded.succeeded e member (Or.inl enabled)
    | false =>
      obtain ⟨v, last⟩ := lastAnswer_exists (concluded.answered e member)
      cases v with
      | ok u => exact last
      | error f => exact absurd last (clean e member enabled f)

/-- A run that needed no remedy is not completed when the change of an eligible entity is refused as
soon as it is sent. -/
theorem completed_unrefused {env : Environment α σ} {supports : Transition → Bool} {s : Session α}
    {t : Transition} {w : σ} {report : Report} {j : Inventory α}
    (completed : (s.running env supports t w).result = some (.ok (.completed report), j))
    (plain : report.remedied = 0) {e : α} (selected : e ∈ s.inventory.selected)
    (unsatisfied : ¬ t.satisfiedBy e = true) (f : Error) :
    ¬ ∀ w, (env.send e t w).1 = some (.error f) := by
  intro refused
  have course := running_course env supports s t w
  rw [completed] at course
  have concluded := course_concluded course rfl
  have sent := concluded.sent e (List.mem_filter.mpr ⟨selected, by simpa using unsatisfied⟩)
  exact (failures_nil_iff _).mp (concluded.plain plain) e t f (answered_at_once refused _ _ w sent)

def lostFailure : Played ServiceRecord (Ended ServiceRecord) (List Verdict) :=
  (allSelected [service "/a" true, service "/b" false]).running
    (.prompt [service "/b" false]) (fun _ => true) .delete
    [.error (.api 400 "must be disabled first"), .error (.api 500 "down")]

theorem lostFailure_enabled :
    LastAnswer lostFailure.effects (service "/a" true) .delete (.ok ()) :=
  (completed_last_answers (.prompt [service "/b" false]) (fun _ => true)
    (allSelected [service "/a" true, service "/b" false]) .delete
    [.error (.api 400 "must be disabled first"), .error (.api 500 "down")]
    ⟨.delete, 1, 1, 1⟩ ⟨[service "/b" false], [service "/b" false]⟩ rfl).2.1
    (service "/a" true) (by decide) (Or.inl rfl)

-- The run is completed, and the disabled service is still there.
theorem lostFailure_completed :
    lostFailure.result = some (.ok (.completed ⟨.delete, 1, 1, 1⟩),
      ⟨[service "/b" false], [service "/b" false]⟩) ∧
    service "/b" false ∈ [service "/a" true, service "/b" false].filter
      (fun e => !Transition.delete.satisfiedBy e) ∧
    LastAnswer lostFailure.effects (service "/b" false) .delete (.error (.api 500 "down")) ∧
    ¬ LastAnswer lostFailure.effects (service "/b" false) .delete (.ok ()) := by
  have last : LastAnswer lostFailure.effects (service "/b" false) .delete
      (.error (.api 500 "down")) := by
    refine ⟨[((service "/a" true, .delete), .error (.api 400 "must be disabled first"))],
      [((service "/a" true, .disable), .ok ()), ((service "/a" true, .delete), .ok ())], rfl, ?_⟩
    simp [service]
  refine ⟨rfl, by decide, last, fun succeeded => ?_⟩
  exact absurd (last.unique succeeded) (by simp)

end ExtensionAdmin.Batch
