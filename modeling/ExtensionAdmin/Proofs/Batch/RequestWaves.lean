import ExtensionAdmin.Proofs.Batch.Course

/-! Which requests a run sends, and in which waves. The requests of a run and their answers stand in
the record as at most three waves, one after the other: the requests of the plan, and, if the remedy
is accepted, a wave that disables and a wave that deletes. A wave begins when every request of the
wave before it is answered. -/

namespace ExtensionAdmin.Batch

variable {α σ : Type}

def exchanges (effects : List (Effect α)) : List (Effect α) := effects.filter Effect.isExchange

/-- One request for each occurrence of an entity, in their order, and no answer but to these, to
each at most one. -/
def Issued (es : List α) (t : Transition) (wave : List (Effect α)) : Prop :=
  sends wave = es.map (fun e => (e, t)) ∧ ((answers wave).map Prod.fst).Subperm (sends wave)

def Settled (wave : List (Effect α)) : Prop := ((answers wave).map Prod.fst).Perm (sends wave)

@[simp]
theorem exchanges_nil : exchanges ([] : List (Effect α)) = [] := rfl

theorem exchanges_cons (x : Effect α) (rest : List (Effect α)) :
    exchanges (x :: rest) = if x.isExchange then x :: exchanges rest else exchanges rest :=
  List.filter_cons

@[simp]
theorem exchanges_append (left right : List (Effect α)) :
    exchanges (left ++ right) = exchanges left ++ exchanges right := List.filter_append left right

theorem exchanges_silent (part : List (Effect α)) {rest : List (Effect α)}
    (silent : exchanges rest = [] := by rfl) : exchanges (part ++ rest) = exchanges part := by
  rw [exchanges_append, silent, List.append_nil]

theorem sends_exchanges (effects : List (Effect α)) : sends (exchanges effects) = sends effects := by
  induction effects with
  | nil => rfl
  | cons x rest ih => cases x <;> simp [exchanges_cons, Effect.isExchange, ih]

theorem wave_alone {t : Transition} {es left : List α} {part : List (Effect α)}
    (wave : Wave t [] es part left) : exchanges part = part := List.filter_eq_self.mpr wave.quiet

theorem wave_exchanges {t : Transition} {es left : List α} {part : List (Effect α)}
    (wave : Wave t [] es part left) (rest : List (Effect α)) :
    exchanges (part ++ rest) = part ++ exchanges rest := by
  rw [exchanges_append, wave_alone wave]

/-- A wave is all there is if neither requests nor answers come after it. -/
theorem wave_last {t : Transition} {es left : List α} {part rest : List (Effect α)}
    (wave : Wave t [] es part left) (silent : exchanges rest = [] := by rfl) :
    exchanges (part ++ rest) = part :=
  (exchanges_silent part silent).trans (wave_alone wave)

theorem wave_issued {t : Transition} {es left : List α} {part : List (Effect α)}
    (wave : Wave t [] es part left) : Issued es t part := by
  refine ⟨wave.sent, ?_⟩
  rw [wave.sent]
  exact (List.sublist_append_left _ _).subperm.trans wave.answered.subperm

theorem wave_settled_iff {t : Transition} {es left : List α} {part : List (Effect α)}
    (wave : Wave t [] es part left) : Settled part ↔ left = [] := by
  have answered := wave.answered
  rw [List.nil_append, ← wave.sent] at answered
  constructor
  · intro settled
    have counts := answered.length_eq
    rw [List.length_append, settled.length_eq, List.length_map] at counts
    exact List.length_eq_zero_iff.mp (by omega)
  · rintro rfl
    simpa [Settled] using answered

theorem wave_nonempty {t : Transition} {es left : List α} {part : List (Effect α)}
    (wave : Wave t [] es part left) (needed : es ≠ []) : part ≠ [] := by
  rintro rfl
  exact needed (by simpa using wave.sent.symm)

theorem stalled_exchanges {es : List α} {t : Transition} {effects : List (Effect α)}
    (stalled : Stalled es t effects) :
    ∃ part left, Wave t [] es part left ∧ left ≠ [] ∧ exchanges effects = part := by
  obtain ⟨part, left, waits, wave, rfl⟩ := stalled
  exact ⟨part, left, wave, waits, wave_last wave⟩

/-- The waves of the remedy: the second one exists exactly when the first one succeeded. -/
theorem remedied_waves {es : List α} {effects : List (Effect α)}
    {result : Option (Except Error Report)} (needed : es ≠ [])
    (course : Remedied es effects result) :
    ∃ second third, exchanges effects = second ++ third ∧ second ≠ [] ∧
      Issued es .disable second ∧ (third ≠ [] → Issued es .delete third) ∧
      (third ≠ [] ↔ Settled second ∧ failures second = []) := by
  -- Deletions are sent in the last two ways alone, behind a wave that is settled and clean.
  cases course with
  | disablingStalled stalled =>
    obtain ⟨part, left, wave, waits, whole⟩ := stalled_exchanges stalled
    have unsettled : ¬ Settled part := fun settled => waits ((wave_settled_iff wave).mp settled)
    exact ⟨part, [], by simp [whole], wave_nonempty wave needed, wave_issued wave, by simp,
      by simp [unsettled]⟩
  | disablingFailed wave failed =>
    have whole : exchanges effects = effects ++ [] := by rw [wave_alone wave, List.append_nil]
    exact ⟨effects, [], whole, wave_nonempty wave needed, wave_issued wave, by simp,
      by simp [failed]⟩
  | deletingStalled disabled clean stalled =>
    obtain ⟨part, left, wave, waits, whole⟩ := stalled_exchanges stalled
    refine ⟨_, part, by rw [wave_exchanges disabled, whole], wave_nonempty disabled needed,
      wave_issued disabled, fun _ => wave_issued wave, ?_⟩
    exact iff_of_true (wave_nonempty wave needed) ⟨(wave_settled_iff disabled).mpr rfl, clean⟩
  | @deleted first second disabled clean wave =>
    have whole : exchanges (first ++ second) = first ++ second := by
      rw [wave_exchanges disabled, wave_alone wave]
    refine ⟨first, second, whole, wave_nonempty disabled needed, wave_issued disabled,
      fun _ => wave_issued wave, ?_⟩
    exact iff_of_true (wave_nonempty wave needed) ⟨(wave_settled_iff disabled).mpr rfl, clean⟩

variable [Entity α]

/-- The requests of a run for which some entities are eligible, in three consecutive waves of which
the later ones may be missing. `offer` is the question about the remedy. -/
structure ExactWaves (eligible : List α) (offer : Modal) (t : Transition)
    (effects first second third : List (Effect α)) : Prop where
  whole : exchanges effects = first ++ second ++ third
  first_issued : first ≠ [] → Issued eligible t first
  second_exists : second ≠ [] ↔
    t = .delete ∧
    (∃ f, (failures first).head? = some f ∧ (f.status? = some 400 ∨ f.status? = some 409)) ∧
    (∃ e ∈ eligible, Entity.enabled e = true) ∧ .asked offer (some true) ∈ effects
  second_issued : second ≠ [] →
    Settled first ∧ Issued (eligible.filter fun e => Entity.enabled e) .disable second
  third_exists : third ≠ [] ↔
    second ≠ [] ∧ Settled second ∧ ∀ e u f, .finished e u (.error f) ∉ second
  third_issued : third ≠ [] →
    Settled second ∧ Issued (eligible.filter fun e => Entity.enabled e) .delete third

theorem refusal_iff (f : Error) :
    f.isRefusal = true ↔ f.status? = some 400 ∨ f.status? = some 409 := by
  simp [Error.isRefusal]

theorem remediable_iff (p : Plan α) (errors : List Error) :
    Remediable p errors ↔ p.transition = .delete ∧
      (∃ f, errors.head? = some f ∧ (f.status? = some 400 ∨ f.status? = some 409)) ∧
      ∃ e ∈ p.eligible, Entity.enabled e = true := by
  simp only [Remediable, refusal_iff, Plan.enabledEligible, ne_eq, List.filter_eq_nil_iff,
    not_forall, not_not, exists_prop]
  constructor
  · rintro ⟨deletes, enabled, refused⟩
    exact ⟨deletes, refused, enabled⟩
  · rintro ⟨deletes, refused, enabled⟩
    exact ⟨deletes, enabled, refused⟩

-- Until the offer is accepted there is one wave.
theorem single_wave {p : Plan α} {effects first : List (Effect α)}
    (whole : exchanges effects = first) (issued : Issued p.eligible p.transition first)
    (alone : ¬ (Remediable p (failures first) ∧ .asked p.remedyQuestion (some true) ∈ effects)) :
    ExactWaves p.eligible p.remedyQuestion p.transition effects first [] [] where
  whole := by simp [whole]
  first_issued _ := issued
  second_exists := by
    rw [remediable_iff] at alone
    simp only [ne_eq, not_true_eq_false, false_iff]
    rintro ⟨deletes, refused, enabled, accepted⟩
    exact alone ⟨⟨deletes, refused, enabled⟩, accepted⟩
  second_issued := by simp
  third_exists := by simp
  third_issued := by simp

-- Once it is accepted, the other two follow from what the first two come to.
theorem remedied_exact {p : Plan α} {effects first tail : List (Effect α)}
    {result : Option (Except Error Report)} (wave : Answered p.eligible p.transition first)
    (refused : Remediable p (failures first)) (course : Remedied p.enabledEligible tail result)
    (accepted : .asked p.remedyQuestion (some true) ∈ effects)
    (whole : exchanges effects = first ++ exchanges tail) :
    ∃ second third, ExactWaves p.eligible p.remedyQuestion p.transition effects
      first second third := by
  obtain ⟨second, third, parts, exists_second, disabling, deleting, exists_third⟩ :=
    remedied_waves refused.2.1 course
  obtain ⟨deletes, refusal, enabled⟩ := (remediable_iff p _).mp refused
  refine ⟨second, third, ?_⟩
  exact {
    whole := by rw [whole, parts, List.append_assoc]
    first_issued := fun _ => wave_issued wave
    second_exists := iff_of_true exists_second ⟨deletes, refusal, enabled, accepted⟩
    second_issued := fun _ => ⟨(wave_settled_iff wave).mpr rfl, disabling⟩
    third_exists := by
      rw [exists_third, failures_nil_iff]
      exact (and_iff_right exists_second).symm
    third_issued := fun more => ⟨(exists_third.mp more).1, deleting more⟩ }

theorem submitted_waves {p : Plan α} {effects : List (Effect α)}
    {result : Option (Except Error Report)} (course : Submitted p effects result) :
    ∃ first second third, ExactWaves p.eligible p.remedyQuestion p.transition effects
      first second third := by
  -- Only a remedy that was accepted leads to more than one wave.
  cases course with
  | stalled stalled =>
    obtain ⟨part, left, waits, wave, rfl⟩ := stalled
    refine ⟨part, [], [], single_wave (wave_last wave) (wave_issued wave) ?_⟩
    simp [wave.unasked]
  | settled wave plain =>
    exact ⟨_, [], [], single_wave (wave_last wave) (wave_issued wave) fun both => plain both.1⟩
  | @offered first _ _ _ wave refused failed course =>
    refine ⟨first, ?_⟩
    cases course with
    | unanswered =>
      refine ⟨[], [], single_wave (wave_last wave) (wave_issued wave) ?_⟩
      simp [wave.unasked]
    | declined =>
      refine ⟨[], [], single_wave (wave_last wave) (wave_issued wave) ?_⟩
      simp [wave.unasked]
    | stalled remedied =>
      exact remedied_exact wave refused remedied (by simp) (wave_exchanges wave _)
    | accepted remedied =>
      refine remedied_exact wave refused remedied (by simp) ((wave_exchanges wave _).trans ?_)
      exact congrArg _ (exchanges_silent _)

theorem no_waves (eligible : List α) (offer : Modal) (t : Transition) {effects : List (Effect α)}
    (silent : exchanges effects = []) : ExactWaves eligible offer t effects [] [] [] where
  whole := silent
  first_issued := by simp
  second_exists := by simp [failures, verdicts]
  second_issued := by simp
  third_exists := by simp
  third_issued := by simp

-- What is neither a request, an answer nor the accepted offer can stand around the waves.
theorem same_waves {eligible : List α} {offer : Modal} {t : Transition}
    {inner effects : List (Effect α)} (same : exchanges effects = exchanges inner)
    (offered : .asked offer (some true) ∈ effects ↔ .asked offer (some true) ∈ inner)
    (waves : ∃ first second third, ExactWaves eligible offer t inner first second third) :
    ∃ first second third, ExactWaves eligible offer t effects first second third := by
  obtain ⟨first, second, third, exact⟩ := waves
  refine ⟨first, second, third, ?_⟩
  exact { exact with
    whole := same.trans exact.whole
    second_exists := by rw [offered]; exact exact.second_exists }

theorem carriedOut_waves {i : Inventory α} {p : Plan α} {effects : List (Effect α)}
    {result : Option (Ended α)} (course : CarriedOut i p effects result) :
    ∃ first second third, ExactWaves p.eligible p.remedyQuestion p.transition effects
      first second third := by
  cases course with
  | stalled course =>
    refine same_waves ?_ ?_ (submitted_waves course)
    · rfl
    · simp
  | unlisted course =>
    exact same_waves (exchanges_silent _) (by simp) (submitted_waves course)
  | refreshed course fresh =>
    exact same_waves (exchanges_silent _) (by simp) (submitted_waves course)
  | unrefreshed course f =>
    exact same_waves (exchanges_silent _) (by simp) (submitted_waves course)

-- The offer is the only question that does not stay open.
theorem remedyQuestion_ne (p : Plan α) {m : Modal} (waits : m.waitToClose = true) :
    p.remedyQuestion ≠ m := by
  rintro rfl
  cases waits

theorem agreement_silent (p : Plan α) : exchanges (agreement p) = [] := by
  unfold agreement
  split <;> rfl

theorem agreement_no_offer (p : Plan α) : .asked p.remedyQuestion (some true) ∉ agreement p := by
  have first := remedyQuestion_ne p (m := p.question) rfl
  have second := remedyQuestion_ne p (m := p.partialQuestion) rfl
  unfold agreement
  split <;> simp [first, second]

theorem confirmed_waves {i : Inventory α} {p : Plan α} {effects : List (Effect α)}
    {result : Option (Ended α)} (course : Confirmed i p effects result) :
    ∃ first second third, ExactWaves p.eligible p.remedyQuestion p.transition effects
      first second third := by
  cases course with
  | agreed needed course =>
    refine same_waves ?_ ?_ (carriedOut_waves course)
    · rw [exchanges_append, agreement_silent, List.nil_append]
    · simp [agreement_no_offer]
  | _ => exact ⟨[], [], [], no_waves _ _ _ rfl⟩

/-- What is sent is sent in one of the waves. -/
theorem ExactWaves.sent_cases {eligible : List α} {offer : Modal} {t : Transition}
    {effects first second third : List (Effect α)}
    (waves : ExactWaves eligible offer t effects first second third) {e : α} {u : Transition}
    (sent : .sent e u ∈ effects) :
    .sent e u ∈ first ∨ .sent e u ∈ second ∨ .sent e u ∈ third := by
  have member : .sent e u ∈ first ++ second ++ third := by
    rw [← waves.whole]
    exact List.mem_filter.mpr ⟨sent, rfl⟩
  simpa only [List.append_assoc, List.mem_append] using member

/-- Without a first wave there is no other. -/
theorem ExactWaves.first_exists {eligible : List α} {offer : Modal} {t : Transition}
    {effects first second third : List (Effect α)}
    (waves : ExactWaves eligible offer t effects first second third) :
    first ≠ [] ↔ exchanges effects ≠ [] := by
  rw [waves.whole]
  constructor
  · intro some
    simp [some]
  · rintro some rfl
    have second : second = [] := by
      by_contra more
      obtain ⟨f, head, -⟩ := (waves.second_exists.mp more).2.1
      simp [failures, verdicts] at head
    have third : third = [] := by
      by_contra more
      exact (waves.third_exists.mp more).1 second
    simp [second, third] at some

theorem ExactWaves.sends_subset {eligible : List α} {offer : Modal} {t : Transition}
    {effects first second third : List (Effect α)}
    (waves : ExactWaves eligible offer t effects first second third) {e : α} {u : Transition}
    (sent : .sent e u ∈ effects) : e ∈ eligible := by
  rcases waves.sent_cases sent with member | member | member
  · exact mem_of_sends (waves.first_issued (List.ne_nil_of_mem member)).1 member
  · exact List.mem_of_mem_filter
      (mem_of_sends (waves.second_issued (List.ne_nil_of_mem member)).2.1 member)
  · exact List.mem_of_mem_filter
      (mem_of_sends (waves.third_issued (List.ne_nil_of_mem member)).2.1 member)

theorem course_waves {supports : Transition → Bool} {i : Inventory α} {t : Transition}
    {effects : List (Effect α)} {result : Option (Ended α)}
    (course : Course supports i t effects result) :
    ∃ first second third, ExactWaves (Plan.ofSelection i.selected t).eligible
      (Plan.ofSelection i.selected t).remedyQuestion t effects first second third := by
  cases course with
  | confirmed selected known course =>
    refine same_waves ?_ ?_ (confirmed_waves course)
    · rfl
    · simp
  | _ => exact ⟨[], [], [], no_waves _ _ _ rfl⟩

/-- Whether a run comes to its requests: the server supports its change, some entity needs it, and
whatever is asked is accepted, except perhaps the offer of the remedy. -/
def GoesAhead (supports : Transition → Bool) (p : Plan α) (effects : List (Effect α)) : Prop :=
  supports p.transition = true ∧ p.eligible ≠ [] ∧
    ∀ m answer, .asked m answer ∈ effects → m ≠ p.remedyQuestion → answer = some true

def Starts (goes : Prop) (effects : List (Effect α)) : Prop :=
  (goes ∧ sends effects ≠ []) ∨ (¬ goes ∧ exchanges effects = [])

omit [Entity α] in
theorem Starts.sends_iff {goes : Prop} {effects : List (Effect α)} (starts : Starts goes effects) :
    sends effects ≠ [] ↔ goes := by
  rcases starts with ⟨yes, some⟩ | ⟨no, none⟩
  · exact iff_of_true some yes
  · refine iff_of_false (not_not.mpr ?_) no
    rw [← sends_exchanges, none, sends_nil]

omit [Entity α] in
theorem Starts.exchanges_iff {goes : Prop} {effects : List (Effect α)}
    (starts : Starts goes effects) : exchanges effects ≠ [] ↔ goes := by
  rcases starts with ⟨yes, some⟩ | ⟨no, none⟩
  · refine iff_of_true (fun silent => some ?_) yes
    rw [← sends_exchanges, silent, sends_nil]
  · exact iff_of_false (not_not.mpr none) no

theorem submitted_sends {p : Plan α} {effects : List (Effect α)}
    {result : Option (Except Error Report)} (needed : p.eligible ≠ [])
    (course : Submitted p effects result) : sends effects ≠ [] := by
  have first : ∀ {left part : List _}, Wave p.transition [] p.eligible part left →
      sends part ≠ [] := by
    intro left part wave nothing
    rw [wave.sent, List.map_eq_nil_iff] at nothing
    exact needed nothing
  cases course with
  | stalled stalled =>
    obtain ⟨part, left, -, wave, rfl⟩ := stalled
    simp [first wave]
  | settled wave plain => simp [first wave]
  | offered wave refused failed course => simp [first wave]

theorem submitted_asks {p : Plan α} {effects : List (Effect α)}
    {result : Option (Except Error Report)} (course : Submitted p effects result) {m : Modal}
    {answer : Option Bool} (asked : .asked m answer ∈ effects) : m = p.remedyQuestion := by
  cases course with
  | stalled stalled =>
    obtain ⟨part, left, -, wave, rfl⟩ := stalled
    simp [wave.unasked] at asked
  | settled wave plain => simp [wave.unasked] at asked
  | offered wave refused failed course =>
    cases course with
    | unanswered => simp_all [wave.unasked]
    | declined => simp_all [wave.unasked]
    | stalled remedied => simp_all [wave.unasked, remedied_unasked remedied]
    | accepted remedied => simp_all [wave.unasked, remedied_unasked remedied]

theorem carriedOut_submitted {i : Inventory α} {p : Plan α} {effects : List (Effect α)}
    {result : Option (Ended α)} (course : CarriedOut i p effects result) :
    ∃ part own, Submitted p part own ∧ sends effects = sends part ∧
      ∀ m answer, .asked m answer ∈ effects → .asked m answer ∈ part := by
  cases course with
  | stalled course => exact ⟨_, _, course, by simp, by simp⟩
  | unlisted course => exact ⟨_, _, course, by simp, by simp⟩
  | refreshed course fresh => exact ⟨_, _, course, by simp, by simp⟩
  | unrefreshed course f => exact ⟨_, _, course, by simp, by simp⟩

theorem agreement_accepted {p : Plan α} {m : Modal} {answer : Option Bool}
    (asked : .asked m answer ∈ agreement p) : answer = some true := by
  unfold agreement at asked
  split at asked <;>
    simp only [List.mem_cons, List.not_mem_nil, or_false, false_or, reduceCtorEq,
      Effect.asked.injEq] at asked
  · rcases asked with ⟨-, yes⟩ | ⟨-, yes⟩ <;> exact yes
  · exact asked.2

theorem confirmed_goes_ahead {i : Inventory α} {supports : Transition → Bool} {p : Plan α}
    {effects : List (Effect α)} {result : Option (Ended α)} (known : supports p.transition = true)
    (course : Confirmed i p effects result) : Starts (GoesAhead supports p effects) effects := by
  -- A question other than the offer that is not accepted is the end of the run.
  have stops : ∀ (m : Modal) (answer : Option Bool), .asked m answer ∈ effects →
      m.waitToClose = true → answer ≠ some true → ¬ GoesAhead supports p effects :=
    fun m answer asked waits unaccepted ahead =>
      unaccepted (ahead.2.2 m answer asked (remedyQuestion_ne p waits).symm)
  have idles : p.isNoop = true → ¬ GoesAhead supports p effects :=
    fun noop ahead => ahead.2.1 (by simpa [Plan.isNoop] using noop)
  cases course with
  | unanswered => exact Or.inr ⟨stops p.question none (by simp) rfl (by simp), rfl⟩
  | declined => exact Or.inr ⟨stops p.question (some false) (by simp) rfl (by simp), rfl⟩
  | unnoticed noop => exact Or.inr ⟨idles noop, rfl⟩
  | noticed noop yes => exact Or.inr ⟨idles noop, rfl⟩
  | partlyUnanswered isPartial =>
    exact Or.inr ⟨stops p.partialQuestion none (by simp) rfl (by simp), rfl⟩
  | partlyDeclined isPartial =>
    exact Or.inr ⟨stops p.partialQuestion (some false) (by simp) rfl (by simp), rfl⟩
  | agreed needed course =>
    have needed : p.eligible ≠ [] := by simpa [Plan.isNoop] using needed
    obtain ⟨part, own, course, same, inner⟩ := carriedOut_submitted course
    refine Or.inl ⟨⟨known, needed, fun m answer asked other => ?_⟩, ?_⟩
    · rcases List.mem_append.mp asked with opening | later
      · exact agreement_accepted opening
      · exact absurd (submitted_asks course (inner m answer later)) other
    · rw [sends_append, same]
      exact List.append_ne_nil_of_right_ne_nil _ (submitted_sends needed course)

theorem course_goes_ahead {supports : Transition → Bool} {i : Inventory α} {t : Transition}
    {effects : List (Effect α)} {result : Option (Ended α)}
    (course : Course supports i t effects result) :
    Starts (GoesAhead supports (Plan.ofSelection i.selected t) effects) effects := by
  cases course with
  | nothingSelected empty =>
    exact Or.inr ⟨fun ahead => ahead.2.1 (by simp [Plan.ofSelection, empty]), rfl⟩
  | unsupported selected unknown =>
    exact Or.inr ⟨fun ahead => absurd (unknown.symm.trans ahead.1) (by simp), rfl⟩
  | confirmed selected known course =>
    have starts := confirmed_goes_ahead known course
    simpa [Starts, GoesAhead, exchanges_cons, Effect.isExchange] using starts

/-- Whatever the server and the operator answer and in whatever order requests finish, the requests
of a run are its exact waves, the first of which is there exactly when the run goes ahead, and none
is for an entity that was not selected. -/
theorem run_waves_exact (env : Environment α σ) (supports : Transition → Bool) (s : Session α)
    (t : Transition) (w : σ) :
    (∃ first second third, ExactWaves (s.inventory.selected.filter fun e => !t.satisfiedBy e)
        (Plan.ofSelection s.inventory.selected t).remedyQuestion t
        (s.running env supports t w).effects first second third ∧
      (first ≠ [] ↔ GoesAhead supports (Plan.ofSelection s.inventory.selected t)
        (s.running env supports t w).effects)) ∧
    ∀ e u, .sent e u ∈ (s.running env supports t w).effects → e ∈ s.inventory.selected := by
  have course := running_course env supports s t w
  obtain ⟨first, second, third, waves⟩ := course_waves course
  refine ⟨⟨first, second, third, waves, ?_⟩, fun e u sent => ?_⟩
  · exact waves.first_exists.trans (course_goes_ahead course).exchanges_iff
  -- What is sent is eligible, and what is eligible was selected.
  · exact List.mem_of_mem_filter (waves.sends_subset sent)

end ExtensionAdmin.Batch
