import ExtensionAdmin.Proofs.Xml.Conversion
import ExtensionAdmin.Proofs.Xml.TreeRoundTrip

/-! The object of a tree groups what the tree holds by name. An object is built attribute by
attribute and child by child, and a name that is met again turns what is under it into a sequence.
What comes of this can be read off each name alone: it is the value of the last attribute with that
name and the values of the children with it, in their order. So children with different names may
change places. -/

namespace ExtensionAdmin.Xml

open Json (Value Members)

/-- Values under one name as one: none at all, the only one, or a sequence of them. A sequence that
comes first takes up the others. -/
def grouped : List Value → Option Value
  | [] => none
  | [v] => some v
  | .array items :: rest => some (.array (items ++ rest))
  | vs => some (.array vs)

theorem grouped_cons_cons (first v : Value) (rest : List Value) :
    grouped (first :: v :: rest) = some (.array (first.toList ++ v :: rest)) := by
  cases first <;> rfl

theorem merged_some (v first : Value) :
    merged v (some first) = .array (first.toList ++ [v]) := by
  cases first <;> rfl

theorem grouped_eq_none_iff (vs : List Value) : grouped vs = none ↔ vs = [] := by
  match vs with
  | [] => simp [grouped]
  | [v] => simp [grouped]
  | first :: v :: rest => simp [grouped_cons_cons]

/-- Values that are merged one by one with what was there before are grouped. -/
theorem foldl_merged_grouped (vs : List Value) (held : Option Value) :
    vs.foldl (fun held v => some (merged v held)) held = grouped (held.toList ++ vs) := by
  induction vs generalizing held with
  | nil => cases held <;> rfl
  | cons v rest ih =>
    cases held with
    | none => exact ih (some v)
    | some first =>
      -- From the second value on there is a sequence, to which the others are added.
      rw [List.foldl_cons, merged_some, foldl_merged, Option.toList_some, List.singleton_append,
        grouped_cons_cons, List.append_assoc, List.singleton_append]

theorem toList_of_flat {v : Value} (flat : ∀ items, v ≠ .array items) : v.toList = [v] := by
  cases v with
  | array items => exact absurd rfl (flat items)
  | _ => rfl

/-- Values that are no sequences are the items of what they are grouped to. -/
theorem grouped_toList {vs : List Value} (flat : ∀ v ∈ vs, ∀ items, v ≠ .array items)
    (filled : vs ≠ []) : (grouped vs).map Value.toList = some vs := by
  match vs with
  | [] => exact absurd rfl filled
  | [v] =>
    have single : v.toList = [v] := toList_of_flat (flat v List.mem_cons_self)
    rw [grouped, Option.map_some, single]
  | first :: v :: rest =>
    have single : first.toList = [first] := toList_of_flat (flat first List.mem_cons_self)
    rw [grouped_cons_cons, single]
    rfl

namespace Node

/-- The values under a name in a node, in order: that of the last attribute with the name, and those
of the children with it. -/
def under (n : Node) (k : String) : List Value :=
  ((n.attributes.filter (fun a => a.1 = k)).getLast?.map fun a => literal a.2).toList ++
    (n.children.filter (fun c => c.name = k)).map toValue

theorem toValue_of_markup {n : Node} (markup : n.isText = false) :
    n.toValue = .object (mergeChildren (attributeMembers n.attributes) n.children) := by
  cases n with
  | text content => cases markup
  | document children => rfl
  | element name attributes children => rfl

theorem get?_grouped (n : Node) (k : String) :
    Members.get? k (mergeChildren (attributeMembers n.attributes) n.children) =
      grouped (n.under k) := by
  obtain ⟨ascending, attributes⟩ := get?_attributeMembers n.attributes
  obtain ⟨-, held⟩ := get?_mergeChildren ascending n.children
  rw [held, attributes, under, ← foldl_merged_grouped, List.foldl_map]

/-- Only text is not taken for an object, and text has one name. -/
theorem toValue_flat {c : Node} (other : c.name ≠ textName) (items : List Value) :
    c.toValue ≠ .array items := by
  cases c with
  | text content => exact absurd rfl other
  | document children => simp [toValue]
  | element name attributes children => simp [toValue]

theorem under_eq_nil_iff (n : Node) (k : String) :
    n.under k = [] ↔ (∀ a ∈ n.attributes, a.1 ≠ k) ∧ ∀ c ∈ n.children, c.name ≠ k := by
  simp [under, List.filter_eq_nil_iff]

/-- Children that share their name with no attribute and no text are the items of what is under
it. -/
theorem grouped_children {n : Node} {k : String} (other : k ≠ textName)
    (free : ∀ a ∈ n.attributes, a.1 ≠ k) (named : ∃ c ∈ n.children, c.name = k) :
    (grouped (n.under k)).map Value.toList =
      some ((n.children.filter fun c => c.name = k).map toValue) := by
  have unset : n.attributes.filter (fun a => a.1 = k) = [] := by
    simpa [List.filter_eq_nil_iff] using free
  have alone : n.under k = (n.children.filter fun c => c.name = k).map toValue := by
    rw [under, unset]
    rfl
  rw [alone]
  apply grouped_toList
  · intro v member
    obtain ⟨c, found, rfl⟩ := List.mem_map.mp member
    have name : c.name = k := by simpa using (List.mem_filter.mp found).2
    exact toValue_flat (name ▸ other)
  · obtain ⟨c, member, name⟩ := named
    have found : c ∈ n.children.filter fun c => c.name = k :=
      List.mem_filter.mpr ⟨member, decide_eq_true name⟩
    exact List.ne_nil_of_mem (List.mem_map_of_mem found)

/-- The object of a tree has under each name the values that the tree has under it, grouped. So it
has no other names, the children of one name are the items under it, and the order of children with
different names does not matter. -/
theorem toValue_grouped (n : Node) (markup : n.isText = false) : ∃ ms : Members,
    n.toValue = .object ms ∧ ms.Ascending ∧ (∀ k, ms.get? k = grouped (n.under k)) ∧
    (∀ k, ms.get? k = none ↔
      (∀ a ∈ n.attributes, a.1 ≠ k) ∧ ∀ c ∈ n.children, c.name ≠ k) ∧
    (∀ k, k ≠ textName → (∀ a ∈ n.attributes, a.1 ≠ k) → (∃ c ∈ n.children, c.name = k) →
      (ms.get? k).map Value.toList =
        some ((n.children.filter fun c => c.name = k).map toValue)) ∧
    ∀ m : Node, m.isText = false → m.attributes = n.attributes →
      (∀ k, (m.children.filter fun c => c.name = k) = n.children.filter fun c => c.name = k) →
      m.toValue = .object ms := by
  refine ⟨_, toValue_of_markup markup, ?_, get?_grouped n, ?_, ?_, ?_⟩
  · exact (get?_mergeChildren (get?_attributeMembers n.attributes).1 n.children).1
  · intro k
    rw [get?_grouped, grouped_eq_none_iff, under_eq_nil_iff]
  · intro k other free named
    rw [get?_grouped]
    exact grouped_children other free named
  · intro m element attributes rearranged
    rw [toValue_of_markup element]
    have ascending := fun x : Node =>
      (get?_mergeChildren (get?_attributeMembers x.attributes).1 x.children).1
    refine congrArg Value.object ((ascending m).ext (ascending n) fun k => ?_)
    rw [get?_grouped, get?_grouped, under, under, attributes, rearranged]

def shelf : Node :=
  .element "shelf" [("book", "none"), ("book", "[\"b\"]")]
    [.element "book" [] [], .element "disc" [] [], .text "new", .element "book" [("id", "a")] []]

def tidyShelf : Node :=
  .element "shelf" [("book", "none"), ("book", "[\"b\"]")]
    [.text "new", .element "book" [] [], .element "book" [("id", "a")] [], .element "disc" [] []]

theorem tidyShelf_rearranged (k : String) :
    (tidyShelf.children.filter fun c => c.name = k) =
      shelf.children.filter fun c => c.name = k := by
  by_cases book : "book" = k
  · subst book
    rfl
  · by_cases disc : "disc" = k
    · subst disc
      rfl
    · simp [tidyShelf, shelf, children, List.filter_cons, name, book, disc]

theorem shelf_grouped : shelf.isText = false ∧ ∃ ms : Members, shelf.toValue = .object ms ∧
    ms.get? "book" = some (.array [.string "b", .object [], .object [("id", .string "a")]]) ∧
    ms.get? "shelf" = none ∧ (ms.get? "disc").map Value.toList = some [.object []] ∧
    tidyShelf.toValue = .object ms := by
  obtain ⟨ms, whole, -, held, absent, listed, rearranged⟩ := toValue_grouped shelf rfl
  refine ⟨rfl, ms, whole, ?_, ?_, ?_, rearranged tidyShelf rfl rfl tidyShelf_rearranged⟩
  · -- The last attribute is read as a sequence, which the books join.
    have seed : literal "[\"b\"]" = .array [.string "b"] := by cbv
    have books : shelf.under "book" =
        [literal "[\"b\"]", .object [], .object [("id", literal "a")]] := rfl
    rw [held, books, seed]
    rfl
  · exact (absent "shelf").mpr (by decide)
  · rw [listed "disc" (by decide) (by decide) (by decide)]
    rfl

end Node

end ExtensionAdmin.Xml
