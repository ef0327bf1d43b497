import ExtensionAdmin.Proofs.Batch.History

/-! What is sent to an entity after it was deleted. The remedy is for those entities of a plan that
were listed as enabled, whatever became of their own requests. If keys are distinct, an entity whose
deletion succeeded is addressed once more exactly if it is one of them and the remedy is accepted
after that. -/

namespace ExtensionAdmin.Batch

variable {α σ : Type}

theorem unanswered_unfinished {effects before after : List (Effect α)} {e : α} {t : Transition}
    {v : Verdict} (silent : answers effects = []) :
    effects ≠ before ++ .finished e t v :: after := by
  rintro rfl
  simp at silent

variable [Entity α]

def Addressed (e : α) (effects : List (Effect α)) : Prop :=
  ∃ e' u, .sent e' u ∈ effects ∧ Entity.key e' = Entity.key e

/-- After its deletion succeeded, an entity is addressed again exactly if it was enabled and the
offer is accepted after that. -/
def Readdressed (offer : Modal) (e : α) (effects : List (Effect α)) : Prop :=
  ∀ before after, effects = before ++ .finished e .delete (.ok ()) :: after →
    (Addressed e after ↔ Entity.enabled e = true ∧ .asked offer (some true) ∈ after)

theorem addressed_append (e : α) (left right : List (Effect α)) :
    Addressed e (left ++ right) ↔ Addressed e left ∨ Addressed e right := by
  simp [Addressed, or_and_right, exists_or]

theorem unsent_unaddressed (e : α) {effects : List (Effect α)} (silent : sends effects = []) :
    ¬ Addressed e effects := by
  rintro ⟨e', u, sent, -⟩
  have request := (mem_sends effects e' u).mpr sent
  rw [silent] at request
  cases request

theorem unanswered_readdressed (offer : Modal) (e : α) {effects : List (Effect α)}
    (silent : answers effects = []) : Readdressed offer e effects :=
  fun _ _ split => absurd split (unanswered_unfinished silent)

-- What is neither a request, an answer nor the accepted offer can stand around.
theorem Readdressed.around {offer : Modal} {e : α} {part : List (Effect α)}
    (readdressed : Readdressed offer e part) (lead last : List (Effect α))
    (silent : answers lead = []) (unsent : sends last = []) (unanswered : answers last = [])
    (unasked : .asked offer (some true) ∉ last) : Readdressed offer e (lead ++ part ++ last) := by
  intro before after split
  rcases split_append split with ⟨rest, inner, rfl⟩ | ⟨_, inside, -⟩
  · rcases split_append inner with ⟨_, inside, -⟩ | ⟨lead, inside, -⟩
    · exact absurd inside (unanswered_unfinished silent)
    · rw [addressed_append, readdressed lead rest inside]
      simp [unsent_unaddressed e unsent, unasked]
  · exact absurd inside (unanswered_unfinished unanswered)

/-- A wave has one request for each key. -/
theorem wave_addressed_once {t u : Transition} {es left : List α} {e : α} {v : Verdict}
    {part before after : List (Effect α)} (wave : Wave t [] es part left)
    (distinct : (es.map Entity.key).Nodup) (split : part = before ++ .finished e u v :: after) :
    u = t ∧ e ∈ es ∧ ¬ Addressed e after := by
  -- The request stands before its answer, and no other request of the wave has its key.
  obtain ⟨same, sent | started⟩ := wave.causal before e u v after split
  · have requests : (sends before ++ sends after).map (fun r => Entity.key r.1) =
        es.map Entity.key := by
      have whole := wave.sent
      simp only [split, sends_append, sends_cons, Effect.request?, Option.toList_none,
        List.nil_append] at whole
      rw [whole, List.map_map]
      rfl
    refine ⟨same, wave.sent_mem (u := t) (by simp [split, sent]), ?_⟩
    rintro ⟨e', u', again, key⟩
    rw [← requests, List.map_append] at distinct
    refine (List.nodup_append.mp distinct).2.2 (Entity.key e) ?_ (Entity.key e') ?_ key.symm
    · exact List.mem_map_of_mem ((mem_sends before e t).mpr sent)
    · exact List.mem_map_of_mem ((mem_sends after e' u').mpr again)
  · cases started

theorem wave_readdressed (offer : Modal) (e : α) {t : Transition} {es left : List α}
    {part : List (Effect α)} (wave : Wave t [] es part left)
    (distinct : (es.map Entity.key).Nodup) : Readdressed offer e part := by
  intro before after split
  obtain ⟨-, -, once⟩ := wave_addressed_once wave distinct split
  have unasked : .asked offer (some true) ∉ after := by
    intro member
    exact wave.unasked offer (some true) (by simp [split, member])
  exact iff_of_false once (fun both => unasked both.2)

theorem remedied_addressed {es : List α} {effects : List (Effect α)}
    {result : Option (Except Error Report)} (course : Remedied es effects result) (e : α) :
    Addressed e effects ↔ ∃ e' ∈ es, Entity.key e' = Entity.key e := by
  obtain ⟨first, second, last, rfl, ⟨_, disabling⟩, deleting, stalls⟩ := remedied_parts course
  constructor
  · rintro ⟨e', u, sent, key⟩
    refine ⟨e', ?_, key⟩
    rcases List.mem_append.mp sent with waves | stall
    · rcases List.mem_append.mp waves with inside | inside
      · exact disabling.sent_mem inside
      · rcases deleting with rfl | ⟨_, wave⟩
        · cases inside
        · exact wave.sent_mem inside
    · obtain ⟨_, _, same⟩ := stalls _ stall
      cases same
  · rintro ⟨e', member, key⟩
    exact ⟨e', .disable, by simp [disabling.mem_sent member], key⟩

theorem remedied_addressed_once {es : List α} {effects before after : List (Effect α)}
    {result : Option (Except Error Report)} {e : α} {v : Verdict}
    (course : Remedied es effects result) (distinct : (es.map Entity.key).Nodup)
    (split : effects = before ++ .finished e .delete v :: after) : ¬ Addressed e after := by
  obtain ⟨first, second, last, rfl, ⟨_, disabling⟩, deleting, stalls⟩ := remedied_parts course
  rcases split_append split with ⟨rest, waves, rfl⟩ | ⟨_, stall, -⟩
  · have stalled : ¬ Addressed e last := by
      rintro ⟨e', u, sent, -⟩
      obtain ⟨_, _, same⟩ := stalls _ sent
      cases same
    rcases split_append waves with ⟨_, inside, -⟩ | ⟨_, inside, -⟩
    · obtain ⟨same, -, -⟩ := wave_addressed_once disabling distinct inside
      cases same
    · rcases deleting with rfl | ⟨_, wave⟩
      · simp at inside
      · obtain ⟨-, -, once⟩ := wave_addressed_once wave distinct inside
        rw [addressed_append]
        exact not_or.mpr ⟨once, stalled⟩
  · have member : .finished e .delete v ∈ last := by simp [stall]
    obtain ⟨_, _, same⟩ := stalls _ member
    cases same

/-- The entities of a plan that are addressed by the remedy are those that were enabled. -/
theorem enabledEligible_key_iff {p : Plan α} (distinct : (p.eligible.map Entity.key).Nodup) {e : α}
    (member : e ∈ p.eligible) :
    (∃ e' ∈ p.enabledEligible, Entity.key e' = Entity.key e) ↔ Entity.enabled e = true := by
  constructor
  · rintro ⟨e', remains, key⟩
    obtain ⟨eligible, enabled⟩ := List.mem_filter.mp remains
    rwa [← List.inj_on_of_nodup_map distinct eligible member key]
  · intro enabled
    exact ⟨e, List.mem_filter.mpr ⟨member, enabled⟩, rfl⟩

theorem remedy_readdressed {p : Plan α} (e : α) {first tail : List (Effect α)}
    {result : Option (Except Error Report)} (distinct : (p.eligible.map Entity.key).Nodup)
    (wave : Answered p.eligible p.transition first)
    (course : Remedied p.enabledEligible tail result) :
    Readdressed p.remedyQuestion e (first ++ .entered .failed :: .entered .confirming ::
      .asked p.remedyQuestion (some true) :: .entered .executing :: tail) := by
  intro before after split
  rcases split_append split with ⟨rest, inside, rfl⟩ | ⟨lead, later, -⟩
  -- The entity was deleted in the first wave.
  · obtain ⟨-, member, once⟩ := wave_addressed_once wave distinct inside
    have remedied : Addressed e (.entered .failed :: .entered .confirming ::
        .asked p.remedyQuestion (some true) :: .entered .executing :: tail) ↔
        Entity.enabled e = true := by
      rw [← enabledEligible_key_iff distinct member, ← remedied_addressed course e]
      simp [Addressed]
    rw [addressed_append, remedied]
    simp [once]
  -- It was deleted in the last one.
  · have fewer : (p.enabledEligible.map Entity.key).Nodup :=
      (List.filter_sublist.map Entity.key).nodup distinct
    rcases split_append (show [_, _, _, _] ++ tail = lead ++ _ :: after from later) with
      ⟨_, inside, -⟩ | ⟨_, inside, -⟩
    · exact absurd inside (unanswered_unfinished rfl)
    · have once := remedied_addressed_once course fewer inside
      have unasked : .asked p.remedyQuestion (some true) ∉ after := by
        intro member
        exact remedied_unasked course p.remedyQuestion (some true) (by simp [inside, member])
      exact iff_of_false once (fun both => unasked both.2)

theorem submitted_readdressed {p : Plan α} (e : α) {effects : List (Effect α)}
    {result : Option (Except Error Report)} (distinct : (p.eligible.map Entity.key).Nodup)
    (course : Submitted p effects result) : Readdressed p.remedyQuestion e effects := by
  cases course with
  | stalled stalled =>
    obtain ⟨part, left, -, wave, rfl⟩ := stalled
    exact (wave_readdressed _ e wave distinct).around [] _ rfl rfl rfl (by simp)
  | settled wave plain =>
    exact (wave_readdressed _ e wave distinct).around [] _ rfl rfl rfl (by simp)
  | offered wave refused failed course =>
    cases course with
    | unanswered => exact (wave_readdressed _ e wave distinct).around [] _ rfl rfl rfl (by simp)
    | declined => exact (wave_readdressed _ e wave distinct).around [] _ rfl rfl rfl (by simp)
    | stalled remedied => exact remedy_readdressed e distinct wave remedied
    | @accepted _ result remedied =>
      have whole := (remedy_readdressed e distinct wave remedied).around []
        [.entered (settled result)] rfl rfl rfl (by simp)
      simpa using whole

theorem carriedOut_readdressed {i : Inventory α} {p : Plan α} (e : α) {effects : List (Effect α)}
    {result : Option (Ended α)} (distinct : (p.eligible.map Entity.key).Nodup)
    (course : CarriedOut i p effects result) : Readdressed p.remedyQuestion e effects := by
  cases course with
  | stalled course =>
    have whole := (submitted_readdressed e distinct course).around [.closed, .entered .executing] []
      rfl rfl rfl (by simp)
    simpa using whole
  | unlisted course =>
    exact (submitted_readdressed e distinct course).around [.closed, .entered .executing] _
      rfl rfl rfl (by simp)
  | refreshed course fresh =>
    exact (submitted_readdressed e distinct course).around [.closed, .entered .executing] _
      rfl rfl rfl (by simp)
  | unrefreshed course f =>
    exact (submitted_readdressed e distinct course).around [.closed, .entered .executing] _
      rfl rfl rfl (by simp)

theorem confirmed_readdressed {i : Inventory α} {p : Plan α} (e : α) {effects : List (Effect α)}
    {result : Option (Ended α)} (distinct : (p.eligible.map Entity.key).Nodup)
    (course : Confirmed i p effects result) : Readdressed p.remedyQuestion e effects := by
  cases course with
  | agreed needed course =>
    have whole := (carriedOut_readdressed e distinct course).around (agreement p) []
      (agreement_unanswered p) rfl rfl (by simp)
    simpa using whole
  | _ => exact unanswered_readdressed _ e rfl

theorem course_readdressed {supports : Transition → Bool} {i : Inventory α} {t : Transition} (e : α)
    {effects : List (Effect α)} {result : Option (Ended α)}
    (distinct : (i.selected.map Entity.key).Nodup) (course : Course supports i t effects result) :
    Readdressed (Plan.ofSelection i.selected t).remedyQuestion e effects := by
  cases course with
  | confirmed selected known course =>
    have fewer : ((Plan.ofSelection i.selected t).eligible.map Entity.key).Nodup :=
      (List.filter_sublist.map Entity.key).nodup distinct
    have whole := (confirmed_readdressed e fewer course).around [.entered .confirming] []
      rfl rfl rfl (by simp)
    simpa using whole
  | _ => exact unanswered_readdressed _ e rfl

/-- An entity whose deletion succeeded is addressed again in the same run exactly if it was listed
as enabled and the remedy is accepted after that. -/
theorem deleted_addressed_iff (env : Environment α σ) (supports : Transition → Bool) (s : Session α)
    (w : σ) (e : α) (before after : List (Effect α))
    (distinct : (s.inventory.entities.map Entity.key).Nodup)
    (proper : s.inventory.Proper)
    (deleted : (s.running env supports .delete w).effects =
      before ++ .finished e .delete (.ok ()) :: after) :
    (∃ e' u, .sent e' u ∈ after ∧ Entity.key e' = Entity.key e) ↔
      Entity.enabled e = true ∧
        .asked (Plan.ofSelection s.inventory.selected .delete).remedyQuestion (some true) ∈
          after :=
  course_readdressed e (proper_distinct proper distinct) (running_course env supports s .delete w)
    before after deleted

/-- The same in every session that commands led to: its selection is a part of its list. -/
theorem reached_deleted_addressed_iff (env : Environment α σ) (supports : Transition → Bool)
    {s : Session α} (reached : s.Reached) (w : σ) (e : α) (before after : List (Effect α))
    (distinct : (s.inventory.entities.map Entity.key).Nodup)
    (deleted : (s.running env supports .delete w).effects =
      before ++ .finished e .delete (.ok ()) :: after) :
    (∃ e' u, .sent e' u ∈ after ∧ Entity.key e' = Entity.key e) ↔
      Entity.enabled e = true ∧
        .asked (Plan.ofSelection s.inventory.selected .delete).remedyQuestion (some true) ∈
          after :=
  course_readdressed e (proper_distinct (reached_proper reached) distinct)
    (running_course env supports s .delete w) before after deleted

def partlyRefused : Played ServiceRecord (Ended ServiceRecord) (List Verdict) :=
  (allSelected [service "/a" true, service "/b" true]).running (.prompt []) (fun _ => true) .delete
    [.ok (), .error (.api 400 "must be disabled first")]

theorem partlyRefused_iff :
    (∃ e' u, .sent e' u ∈ partlyRefused.effects.drop 6 ∧
      Entity.key e' = Entity.key (service "/a" true)) ↔
      Entity.enabled (service "/a" true) = true ∧
        .asked (Plan.ofSelection [service "/a" true, service "/b" true] .delete).remedyQuestion
          (some true) ∈ partlyRefused.effects.drop 6 :=
  deleted_addressed_iff (.prompt []) (fun _ => true)
    (allSelected [service "/a" true, service "/b" true])
    [.ok (), .error (.api 400 "must be disabled first")] (service "/a" true)
    (partlyRefused.effects.take 5) (partlyRefused.effects.drop 6) (by decide)
    (List.Subperm.refl _) rfl

-- The first service is gone, and a request to disable it follows.
theorem partlyRefused_readdresses :
    ([service "/a" true, service "/b" true].map Entity.key).Nodup ∧
    partlyRefused.effects = partlyRefused.effects.take 5 ++
      .finished (service "/a" true) .delete (.ok ()) :: partlyRefused.effects.drop 6 ∧
    .sent (service "/a" true) .disable ∈ partlyRefused.effects.drop 6 := by
  refine ⟨by decide, rfl, ?_⟩
  exact (mem_sends _ _ _).mp (by decide)

end ExtensionAdmin.Batch
