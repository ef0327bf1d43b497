import Mathlib.Data.List.Induction
import Mathlib.Data.List.TakeWhile
import ExtensionAdmin.Json.Decode
import ExtensionAdmin.Proofs.Json.Members
import ExtensionAdmin.Proofs.Json.StringText
import ExtensionAdmin.Proofs.Json.WholeNumber
import ExtensionAdmin.Proofs.Text.Trim
import ExtensionAdmin.Xml.Conversion

/-! What a tree is taken for as a value. A scalar is read back from its text; the other way
round, a text comes back from its value only if that is how the value is written. In the object
of a tree a name stands for what its attribute says, to which the values of the children with
that name are added one by one; so what is under a name depends on the attributes and children
of that name alone. -/

namespace ExtensionAdmin.Xml

open Json (Value Members)

def Plain (s : String) : Prop :=
  Json.read? (Text.trim s.toList) = none

instance (s : String) : Decidable (Plain s) :=
  inferInstanceAs (Decidable (_ = _))

/-- The scalars that their text tells apart: null, truth values, whole numbers that are kept exactly,
and plain strings. -/
def Lossless : Value → Prop
  | .null => True
  | .bool _ => True
  | .number (.int i) => Json.Exact i
  | .string s => Plain s
  | _ => False

theorem isBlank_of_number {c : Char} (sort : c = '-' ∨ c.isDigit = true) :
    Text.isBlank c = false := by
  rcases sort with rfl | digit
  · rfl
  · simp only [Char.isDigit, Bool.and_eq_true, decide_eq_true_eq] at digit
    have low : 48 ≤ c.toNat := UInt32.le_iff_toNat_le.mp digit.1
    have high : c.toNat ≤ 57 := UInt32.le_iff_toNat_le.mp digit.2
    simp only [Text.isBlank]
    grind

theorem literal_plainText {v : Value} (lossless : Lossless v) : literal v.plainText = v := by
  -- The three words are read by running the reader on them.
  match v, lossless with
  | .null, _ => simp [literal, Value.plainText, Value.text, Value.render]; cbv
  | .bool true, _ => simp [literal, Value.plainText, Value.text, Value.render]; cbv
  | .bool false, _ => simp [literal, Value.plainText, Value.text, Value.render]; cbv
  | .number (.int i), exact =>
    have solid : Text.Solid (Json.Number.int i).render :=
      Text.solid_of_all fun c member => isBlank_of_number (Json.render_plain i c member)
    simp [literal, Value.plainText, Value.text, Value.render, Text.trim_solid solid,
      Json.read?_render exact]
  | .string s, plain =>
    have unread : Json.read? (Text.trim s.toList) = none := plain
    simp [literal, Value.plainText, unread]

theorem blank_plainText {v : Value} (lossless : Lossless v)
    (visible : ∀ s, v = .string s → Text.blank s = false) : Text.blank v.plainText = false := by
  match v, lossless with
  | .null, _ => rfl
  | .bool true, _ => rfl
  | .bool false, _ => rfl
  | .number (.int i), exact =>
    obtain ⟨c, cs, spelled⟩ := Json.render_eq_cons exact
    have solid := isBlank_of_number (Json.render_plain i c (by simp [spelled]))
    simp [Text.blank, Text.allBlank, Value.plainText, Value.text, Value.render, spelled, solid]
  | .string s, _ => exact visible s rfl

/-- Whether a text is what is left of it as a value: it is no JSON at all, or JSON that is neither
null nor a string, exactly as it would be written. -/
def survives (raw : String) : Bool :=
  match Json.read? (Text.trim raw.toList) with
  | none => true
  | some .null => false
  | some (.string _) => false
  | some v => v.text == raw

theorem literal_eq (raw : String) (v : Value)
    (read : Json.readVerbatim? (Text.trim raw.toList) = some v) : literal raw = v.canonical := by
  rw [literal, Json.read?, read]
  rfl

theorem literal_text_eq_iff (raw : String) :
    (literal raw).toLenientText = raw ↔ survives raw = true := by
  rw [literal, survives]
  cases read : Json.read? (Text.trim raw.toList) with
  | none => simp [Value.toLenientText, Value.plainText]
  | some v =>
    cases v with
    | null =>
      have other : "" ≠ raw := by
        rintro rfl
        cases read
      simp [Value.toLenientText, other]
    | string s =>
      have other : s ≠ raw := by
        rintro rfl
        have shorter := Json.read?_string_length read
        have longer := Text.trim_length_le s.toList
        omega
      simp [Value.toLenientText, Value.plainText, other]
    | _ => simp [Value.toLenientText, Value.plainText]

theorem survives_of_blank {raw : String} (blank : Text.blank raw = true) :
    survives raw = true := by
  rw [survives, Text.trim_blank blank]
  rfl

/-- Of several attributes with one name the last is taken. -/
theorem get?_attributeMembers (attributes : List Attribute) :
    (attributeMembers attributes).Ascending ∧ ∀ k, (attributeMembers attributes).get? k =
      (attributes.filter (fun a => a.1 = k)).getLast?.map fun a => literal a.2 := by
  induction attributes using List.reverseRecOn with
  | nil => exact ⟨.nil, fun _ => rfl⟩
  | append_singleton before a ih =>
    obtain ⟨ascending, held⟩ := ih
    have last : attributeMembers (before ++ [a]) =
        (attributeMembers before).insert a.1 (literal a.2) := by
      simp [attributeMembers]
    rw [last]
    refine ⟨ascending.insert, fun k => ?_⟩
    rw [ascending.get?_insert, held k, List.filter_append]
    by_cases same : k = a.1
    · simp [same]
    · simp [same, Ne.symm same]

theorem get?_attribute {attributes : List Attribute} {k raw : String}
    (distinct : (attributes.map Prod.fst).Nodup) (member : (k, raw) ∈ attributes) :
    (attributeMembers attributes).get? k = some (literal raw) := by
  have only : ∀ a ∈ attributes.filter (fun a => a.1 = k), a = (k, raw) := by
    intro a found
    obtain ⟨among, named⟩ := List.mem_filter.mp found
    exact List.inj_on_of_nodup_map distinct among member (by simpa using named)
  have some : (k, raw) ∈ attributes.filter (fun a => a.1 = k) :=
    List.mem_filter.mpr ⟨member, by simp⟩
  obtain ⟨-, held⟩ := get?_attributeMembers attributes
  rw [held, List.getLast?_eq_some_getLast (List.ne_nil_of_mem some), Option.map_some,
    only _ (List.getLast_mem _)]

namespace Node

/-- The values of the children with a name are added to what is under it, in order. -/
theorem get?_mergeChildren {ms : Members} (ascending : ms.Ascending) (ns : List Node) :
    (mergeChildren ms ns).Ascending ∧ ∀ k, (mergeChildren ms ns).get? k =
      (ns.filter (fun n => n.name = k)).foldl (fun held n => some (merged n.toValue held))
        (ms.get? k) := by
  induction ns generalizing ms with
  | nil => exact ⟨ascending, fun _ => rfl⟩
  | cons n ns ih =>
    have grown : (merge n.name n.toValue ms).Ascending := ascending.alter
    obtain ⟨sorted, held⟩ := ih grown
    refine ⟨sorted, fun k => ?_⟩
    rw [mergeChildren, held k, merge, ascending.get?_alter]
    by_cases same : n.name = k
    · simp [same]
    · simp [same, Ne.symm same]

end Node

@[simp] theorem merged_none (v : Value) : merged v none = v := rfl

@[simp] theorem merged_array (v : Value) (items : List Value) :
    merged v (some (.array items)) = .array (items ++ [v]) := rfl

theorem foldl_merged (seen rest : List Value) :
    rest.foldl (fun held v => some (merged v held)) (some (.array seen)) =
      some (.array (seen ++ rest)) := by
  induction rest generalizing seen with
  | nil => simp
  | cons v rest ih => simp [ih]

/-- Values that are merged are the items of what comes of them, after those that were there before,
unless one of them is a sequence. -/
theorem merged_items {vs : List Value} (flat : ∀ v ∈ vs, ∀ items, v ≠ .array items)
    (held : Option Value) :
    ((vs.foldl (fun held v => some (merged v held)) held).map Value.toList).getD [] =
      (held.map Value.toList).getD [] ++ vs := by
  induction vs generalizing held with
  | nil => simp
  | cons v vs ih =>
    obtain ⟨here, after⟩ := List.forall_mem_cons.mp flat
    have added : (merged v held).toList = (held.map Value.toList).getD [] ++ [v] := by
      cases held with
      | none => cases v <;> simp_all [merged, Value.toList]
      | some first => cases first <;> simp [merged, Value.toList]
    rw [List.foldl_cons, ih after]
    simp [added]

/-- The items of a sequence of two or more, and any other value, are merged into that value again,
unless a sequence is among them. -/
theorem merged_toList {v : Value} (several : ∀ items, v = .array items → 2 ≤ items.length)
    (flat : ∀ w ∈ v.toList, ∀ items, w ≠ .array items) :
    v.toList.foldl (fun held w => some (merged w held)) none = some v := by
  cases v with
  | array items =>
    match items, several items rfl, flat with
    | first :: second :: rest, _, flat =>
      have begun : merged second (some first) = .array [first, second] := by
        have single := flat first (by simp [Value.toList])
        cases first <;> simp_all [merged]
      simp only [Value.toList, List.foldl_cons, merged_none, begun, foldl_merged, List.cons_append,
        List.nil_append]
  | _ => rfl

end ExtensionAdmin.Xml
