import ExtensionAdmin.Proofs.Batch.Selection

/-! The selection along a history of edits. Lists are fetched and selections made in any order.
After each edit the selection is a part of the list, and over several fetches an entity stays
selected as long as every list holds its key: what was missing once is not selected again. -/

namespace ExtensionAdmin.Batch

variable {α σ : Type}

inductive Edit (α : Type) where
  | replace (fresh : List α)
  | select (idents : List String)
  | selectAll
  | clear
deriving DecidableEq, Repr

variable [Entity α]

def Inventory.edit (i : Inventory α) : Edit α → Inventory α
  | .replace fresh => i.replace fresh
  | .select idents =>
    match i.select idents with
    | .ok j => j
    | .error _ => i
  | .selectAll => i.selectAll
  | .clear => i.clear

def Inventory.edited (i : Inventory α) (edits : List (Edit α)) : Inventory α :=
  edits.foldl Inventory.edit i

theorem edited_cons (i : Inventory α) (edit : Edit α) (edits : List (Edit α)) :
    i.edited (edit :: edits) = (i.edit edit).edited edits := rfl

omit [Entity α] in
theorem empty_proper : (Inventory.empty : Inventory α).Proper := List.nil_subperm

theorem select_entities {i j : Inventory α} {idents : List String}
    (selects : i.select idents = .ok j) : j.entities = i.entities := by
  obtain ⟨chosen, -, rfl⟩ := select_eq_ok.mp selects
  rfl

theorem edit_proper {i : Inventory α} (proper : i.Proper) (edit : Edit α) :
    (i.edit edit).Proper := by
  cases edit with
  | replace fresh => exact replace_proper i fresh
  | select idents =>
    cases selects : i.select idents with
    | ok j => simpa only [Inventory.edit, selects] using select_proper selects
    | error f => simpa only [Inventory.edit, selects] using proper
  | selectAll => exact List.Subperm.refl _
  | clear => exact List.nil_subperm

theorem edits_proper {i : Inventory α} (proper : i.Proper) (edits : List (Edit α)) :
    (i.edited edits).Proper := by
  induction edits generalizing i with
  | nil => exact proper
  | cons edit edits ih =>
    apply ih
    exact edit_proper proper edit

theorem edits_entities (i : Inventory α) (edits : List (Edit α)) :
    (i.edited edits).entities = i.entities ∨ .replace (i.edited edits).entities ∈ edits := by
  induction edits generalizing i with
  | nil => exact Or.inl rfl
  | cons edit edits ih =>
    rw [edited_cons]
    rcases ih (i.edit edit) with same | later
    · rw [same]
      cases edit with
      | replace fresh => exact Or.inr List.mem_cons_self
      | select idents =>
        left
        cases selects : i.select idents with
        | ok j => simpa only [Inventory.edit, selects] using select_entities selects
        | error f => simp only [Inventory.edit, selects]
      | selectAll => exact Or.inl rfl
      | clear => exact Or.inl rfl
    · exact Or.inr (List.mem_cons_of_mem _ later)

theorem proper_distinct {i : Inventory α} (proper : i.Proper)
    (listed : (i.entities.map Entity.key).Nodup) : (i.selected.map Entity.key).Nodup := by
  obtain ⟨chosen, same, part⟩ := proper
  rw [← (same.map Entity.key).nodup_iff]
  exact listed.sublist (part.map Entity.key)

def holdsKey (es : List α) (key : String) : Bool := es.any fun e => Entity.key e == key

theorem replace_holdsKey (i : Inventory α) (fresh : List α) (key : String) :
    holdsKey (i.replace fresh).selected key = (holdsKey i.selected key && holdsKey fresh key) := by
  rw [Bool.eq_iff_iff]
  simp only [holdsKey, Inventory.replace, Bool.and_eq_true, List.any_eq_true, List.mem_filter,
    beq_iff_eq]
  constructor
  · rintro ⟨e, ⟨listed, s, selected, same⟩, rfl⟩
    exact ⟨⟨s, selected, same⟩, e, listed, rfl⟩
  · rintro ⟨⟨s, selected, rfl⟩, e, listed, same⟩
    exact ⟨e, ⟨listed, s, selected, same.symm⟩, same⟩

theorem holdsKey_iff (es : List α) (key : String) :
    holdsKey es key = true ↔ key ∈ es.map Entity.key := by
  simp [holdsKey]

/-- A fetch of a list with the same keys keeps the keys of the selection. -/
theorem replace_keys {i : Inventory α} (proper : i.Proper)
    (distinct : (i.entities.map Entity.key).Nodup) {fresh : List α}
    (same : fresh.map Entity.key = i.entities.map Entity.key) :
    ((i.replace fresh).selected.map Entity.key).Perm (i.selected.map Entity.key) := by
  have part : (i.replace fresh).selected.Sublist fresh := List.filter_sublist
  have once : ((i.replace fresh).selected.map Entity.key).Nodup := by
    apply List.Nodup.sublist (part.map Entity.key)
    rwa [same]
  apply (List.perm_ext_iff_of_nodup once (proper_distinct proper distinct)).mpr
  intro key
  rw [← holdsKey_iff, ← holdsKey_iff, replace_holdsKey, Bool.and_eq_true, holdsKey_iff,
    holdsKey_iff, same, and_iff_left_iff_imp]
  intro selected
  exact List.map_subset Entity.key proper.subset selected

/-- After several fetches the selection is the last list, cut down to the keys that were selected
and that no list before it was without. -/
theorem refreshes_selected (i : Inventory α) (lists : List (List α)) (last : List α) :
    ((lists ++ [last]).foldl Inventory.replace i).selected = last.filter fun e =>
      holdsKey i.selected (Entity.key e) && lists.all fun es => holdsKey es (Entity.key e) := by
  induction lists generalizing i with
  | nil => simp [Inventory.replace, holdsKey]
  | cons es lists ih =>
    rw [List.cons_append, List.foldl_cons, ih]
    apply List.filter_congr
    intro e _
    rw [replace_holdsKey, List.all_cons, Bool.and_assoc]

structure SelectionKept (edits : List (Edit α)) (after : Inventory α) : Prop where
  /-- Only listed entities are, as they are listed. -/
  listed : ∀ e ∈ after.selected, e ∈ after.entities
  /-- No two of them have the same key, if this is so in each list that was fetched. -/
  distinct : (∀ fresh, .replace fresh ∈ edits → (fresh.map Entity.key).Nodup) →
    (after.selected.map Entity.key).Nodup

/-- Whatever is fetched and selected, the selection is kept a part of the list; and from any
selection, each fetch of several cuts it down to the keys that are still there. -/
theorem history_selection_kept (edits : List (Edit α)) :
    SelectionKept edits (Inventory.empty.edited edits) ∧
    ∀ (i : Inventory α) (lists : List (List α)) (last : List α),
      ((lists ++ [last]).foldl Inventory.replace i).selected = last.filter fun e =>
        holdsKey i.selected (Entity.key e) && lists.all fun es => holdsKey es (Entity.key e) := by
  have proper : (Inventory.empty.edited edits).Proper := edits_proper empty_proper edits
  refine ⟨⟨?_, ?_⟩, refreshes_selected⟩
  · intro e selected
    exact proper.subset selected
  · intro distinct
    apply proper_distinct proper
    rcases edits_entities .empty edits with nothing | fetched
    · rw [nothing]
      exact List.nodup_nil
    · exact distinct _ fetched

/-- What a dialogue with the server leaves of the inventory is an edit of it, or nothing new. -/
theorem afterPlay_edited {β : Type} (s : Session α) (p : Played α (Except Error β × Inventory α) σ)
    (ended : β → Reply) (result : ∀ x j, p.result = some (x, j) →
      j = s.inventory ∨ ∃ fresh, j = s.inventory.replace fresh) :
    ∃ edits, (s.afterPlay p ended).2.1.inventory = s.inventory.edited edits := by
  rw [afterPlay_session]
  cases same : p.result with
  | none => exact ⟨[], rfl⟩
  | some final =>
    rcases result final.1 final.2 same with kept | ⟨fresh, replaced⟩
    · exact ⟨[], kept⟩
    · exact ⟨[.replace fresh], replaced⟩

theorem refresh_edited (env : Environment α σ) (s : Session α) (w : σ) :
    let played := (refresh s.inventory).play env s.phase w
    ∃ edits, (s.afterPlay played fun _ => .done).2.1.inventory = s.inventory.edited edits := by
  apply afterPlay_edited
  intro x j same
  have unfolds := play_unfolds env (refresh s.inventory) s.phase w
  rw [same] at unfolds
  exact refresh_inventory unfolds

/-- Each command of a session comes to some edits of its inventory. -/
theorem perform_edited (env : Environment α σ) (supports : Transition → Bool) (s : Session α)
    (w : σ) (c : Command) :
    ∃ edits, (s.perform env supports w c).2.1.inventory = s.inventory.edited edits := by
  cases c with
  | load =>
    obtain ⟨edits, same⟩ := refresh_edited env { s with inventory := s.inventory.clear } w
    exact ⟨.clear :: edits, same⟩
  | refresh => exact refresh_edited env s w
  | select idents =>
    refine ⟨[.select idents], ?_⟩
    cases selects : s.inventory.select idents <;>
      simp [Session.perform, Inventory.edited, Inventory.edit, selects]
  | selectAll => exact ⟨[.selectAll], rfl⟩
  | clear => exact ⟨[.clear], rfl⟩
  | named name => exact ⟨[], rfl⟩
  | run t =>
    apply afterPlay_edited
    intro x j same
    have course := running_course env supports s t w
    rw [same] at course
    exact course_inventory course

/-- The sessions to which commands lead, whoever replies to them. -/
inductive Session.Reached : Session α → Prop where
  | fresh : Reached .fresh
  | after {σ : Type} {s : Session α} (reached : Reached s) (env : Environment α σ)
      (supports : Transition → Bool) (w : σ) (c : Command) :
      Reached (s.perform env supports w c).2.1

/-- The inventories of sessions are those to which edits lead. -/
theorem reached_edited {s : Session α} (reached : s.Reached) :
    ∃ edits, s.inventory = Inventory.empty.edited edits := by
  induction reached with
  | fresh => exact ⟨[], rfl⟩
  | after _ env supports w c before =>
    obtain ⟨first, begun⟩ := before
    obtain ⟨second, continued⟩ := perform_edited env supports _ w c
    refine ⟨first ++ second, ?_⟩
    rw [continued, begun]
    exact List.foldl_append.symm

theorem reached_proper {s : Session α} (reached : s.Reached) : s.inventory.Proper := by
  obtain ⟨edits, same⟩ := reached_edited reached
  rw [same]
  exact edits_proper empty_proper edits

end ExtensionAdmin.Batch
