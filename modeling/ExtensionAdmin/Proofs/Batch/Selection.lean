import Mathlib.Data.List.Nodup
import Mathlib.Data.List.Perm.Subperm
import ExtensionAdmin.Proofs.Batch.Course
import ExtensionAdmin.Proofs.Fallible

/-! The selection stays a part of the list. Whatever a session is told and whatever its environment
replies, what is selected are listed entities, each at most as often as it is listed. -/

namespace ExtensionAdmin.Batch

variable {α σ : Type} [Entity α]

def Inventory.Proper (i : Inventory α) : Prop := i.selected.Subperm i.entities

theorem replace_proper (i : Inventory α) (fresh : List α) : (i.replace fresh).Proper :=
  List.filter_sublist.subperm

theorem find_mem {i : Inventory α} {ident : String} {e : α} (found : i.find? ident = some e) :
    e ∈ i.entities := by
  unfold Inventory.find? at found
  split at found
  · next byKey =>
    rw [← Option.some.inj found]
    exact List.mem_of_find?_eq_some byKey
  · exact List.mem_of_find?_eq_some found

theorem addNew_mem {selected : List α} {e x : α} (member : x ∈ Inventory.addNew selected e) :
    x ∈ selected ∨ x = e := by
  unfold Inventory.addNew at member
  split at member
  · exact Or.inl member
  · simpa using member

theorem addNew_distinct (selected : List α) (e : α) (distinct : (selected.map Entity.key).Nodup) :
    ((Inventory.addNew selected e).map Entity.key).Nodup := by
  unfold Inventory.addNew
  split
  · exact distinct
  · next absent =>
    rw [List.map_append, List.nodup_append]
    refine ⟨distinct, by simp, ?_⟩
    intro key member other once same
    obtain ⟨s, present, rfl⟩ := List.mem_map.mp member
    obtain rfl : other = Entity.key e := by simpa using once
    exact absent (List.any_eq_true.mpr ⟨s, present, by simp [same]⟩)

/-- Identifiers are looked up one by one. Each step adds a listed entity or nothing, and never a
second one of a key. -/
theorem collect_distinct (i : Inventory α) (idents : List String) (selected chosen : List α)
    (listed : ∀ e ∈ selected, e ∈ i.entities) (distinct : (selected.map Entity.key).Nodup)
    (found : i.collect selected idents = .ok chosen) :
    (∀ e ∈ chosen, e ∈ i.entities) ∧ (chosen.map Entity.key).Nodup := by
  induction idents generalizing selected with
  | nil =>
    obtain rfl := Except.ok.inj found
    exact ⟨listed, distinct⟩
  | cons ident rest ih =>
    cases entity : i.find? ident with
    | none => simp [Inventory.collect, entity] at found
    | some e =>
      simp only [Inventory.collect, entity] at found
      refine ih _ ?_ (addNew_distinct selected e distinct) found
      intro x member
      rcases addNew_mem member with old | rfl
      · exact listed x old
      · exact find_mem entity

theorem select_eq_ok {i j : Inventory α} {idents : List String} :
    i.select idents = .ok j ↔
      ∃ chosen, i.collect [] idents = .ok chosen ∧ { i with selected := chosen } = j :=
  Fallible.exceptMap_eq_ok

theorem select_proper {i j : Inventory α} {idents : List String}
    (selects : i.select idents = .ok j) : j.Proper := by
  obtain ⟨chosen, found, rfl⟩ := select_eq_ok.mp selects
  obtain ⟨listed, distinct⟩ := collect_distinct i idents [] chosen (by simp) (by simp) found
  exact distinct.of_map.subperm listed

def Names (ident : String) (e : α) : Prop := Entity.key e = ident ∨ Entity.name e = ident

theorem find?_names {i : Inventory α} {ident : String} {e : α} (found : i.find? ident = some e) :
    Names ident e := by
  unfold Inventory.find? at found
  split at found
  · next byKey =>
    rw [← Option.some.inj found]
    exact Or.inl (by simpa using List.find?_some byKey)
  · exact Or.inr (by simpa using List.find?_some found)

theorem find?_eq_none_iff {i : Inventory α} {ident : String} :
    i.find? ident = none ↔ ∀ e ∈ i.entities, ¬ Names ident e := by
  unfold Inventory.find?
  cases byKey : i.entities.find? fun e => Entity.key e == ident with
  | some e =>
    have same : Entity.key e = ident := by simpa using List.find?_some byKey
    simp only [reduceCtorEq, false_iff, not_forall, not_not]
    exact ⟨e, List.mem_of_find?_eq_some byKey, Or.inl same⟩
  | none =>
    simp only [List.find?_eq_none, beq_iff_eq] at byKey ⊢
    exact forall₂_congr fun e member => by simp [Names, byKey e member]

/-- What is collected was there before or is a listed entity of one of the identifiers. -/
theorem collect_named {i : Inventory α} {idents : List String} {selected chosen : List α}
    (found : i.collect selected idents = .ok chosen) {e : α} (member : e ∈ chosen) :
    e ∈ selected ∨ e ∈ i.entities ∧ ∃ ident ∈ idents, Names ident e := by
  induction idents generalizing selected with
  | nil =>
    obtain rfl := Except.ok.inj found
    exact Or.inl member
  | cons ident rest ih =>
    cases entity : i.find? ident with
    | none => simp [Inventory.collect, entity] at found
    | some x =>
      simp only [Inventory.collect, entity] at found
      rcases ih found with old | ⟨listed, other, among, names⟩
      · rcases addNew_mem old with before | rfl
        · exact Or.inl before
        · exact Or.inr ⟨find_mem entity, ident, List.mem_cons_self, find?_names entity⟩
      · exact Or.inr ⟨listed, other, List.mem_cons_of_mem ident among, names⟩

/-- If one of the identifiers names no listed entity, collecting fails with the first of them. -/
theorem collect_unknown {i : Inventory α} {idents : List String} (selected : List α)
    {unknown : String} (member : unknown ∈ idents) (absent : i.find? unknown = none) :
    ∃ before ident after, idents = before ++ ident :: after ∧
      (∀ known ∈ before, i.find? known ≠ none) ∧ i.find? ident = none ∧
      i.collect selected idents =
        .error (.notFound s!"{(Entity.kind α).singular} '{ident}'") := by
  induction idents generalizing selected with
  | nil => cases member
  | cons first rest ih =>
    cases entity : i.find? first with
    | none => exact ⟨[], first, rest, rfl, by simp, entity, by simp [Inventory.collect, entity]⟩
    | some e =>
      have later : unknown ∈ rest := by
        rcases List.mem_cons.mp member with rfl | later
        · cases absent.symm.trans entity
        · exact later
      obtain ⟨before, ident, after, rfl, known, none, failed⟩ :=
        ih (Inventory.addNew selected e) later
      refine ⟨first :: before, ident, after, rfl, ?_, none, ?_⟩
      · exact List.forall_mem_cons.mpr ⟨by simp [entity], known⟩
      · simpa only [Inventory.collect, entity] using failed

/-- A run leaves the inventory as it is, or with a fresh list. -/
theorem course_inventory {supports : Transition → Bool} {i j : Inventory α} {t : Transition}
    {effects : List (Effect α)} {ended : Except Error Outcome}
    (course : Course supports i t effects (some (ended, j))) :
    j = i ∨ ∃ fresh, j = i.replace fresh := by
  cases course with
  | nothingSelected empty => exact Or.inl rfl
  | unsupported selected unknown => exact Or.inl rfl
  | confirmed selected known course =>
    cases course with
    | declined => exact Or.inl rfl
    | noticed noop yes => exact Or.inl rfl
    | partlyDeclined isPartial => exact Or.inl rfl
    | agreed needed course =>
      cases course with
      | refreshed course fresh => exact Or.inr ⟨fresh, rfl⟩
      | unrefreshed course f => exact Or.inl rfl

theorem refresh_inventory {i j : Inventory α} {effects : List (Effect α)}
    {refreshed : Except Error Unit}
    (unfolds : (refresh i).Unfolds effects (some (refreshed, j))) :
    j = i ∨ ∃ fresh, j = i.replace fresh := by
  rcases unfolds with ⟨-, same⟩ | ⟨f | fresh, _, -, -, same⟩
  · cases same
  · cases same
    exact Or.inl rfl
  · cases same
    exact Or.inr ⟨fresh, rfl⟩

end ExtensionAdmin.Batch
