import ExtensionAdmin.Proofs.Xml.Conversion
import ExtensionAdmin.Proofs.Xml.TreeRoundTrip

/-! Values are read as they were written. An object is written as the text of a tree: an element
with its scalars as attributes, its text, and an element for each object in it. Such a tree is told
by its text, and what it is taken for is the object: each name of the object is that of one
attribute, of the text, or of children that merge to what is under the name. -/

namespace ExtensionAdmin.Xml

open Json (Value Members)

def textNodes (ms : Members) : List Node :=
  ((scalarText? ms).map Node.text).toList

mutual

/-- The tree that a value is written as. -/
def tree (name : String) : Value → Node
  | .object ms => .element name (scalarAttributes ms) (textNodes ms ++ memberNodes ms)
  | v => .element name [] [.text v.plainText]

def memberNodes : List (String × Value) → List Node
  | [] => []
  | (name, .object ms) :: rest => tree name (.object ms) :: memberNodes rest
  | (name, .array items) :: rest => itemNodes name items ++ memberNodes rest
  | _ :: rest => memberNodes rest

def itemNodes (name : String) : List Value → List Node
  | [] => []
  | v :: rest => tree name v :: itemNodes name rest

end

@[simp] theorem tree_name (name : String) (v : Value) : (tree name v).name = name := by
  cases v <;> simp [tree, Node.name]

@[simp] theorem tree_isText (name : String) (v : Value) : (tree name v).isText = false := by
  cases v <;> simp [tree, Node.isText]

theorem itemNodes_eq (name : String) (items : List Value) :
    itemNodes name items = items.map (tree name) := by
  induction items with
  | nil => simp [itemNodes]
  | cons v rest ih => simp [itemNodes, ih]

def nodesOf (m : String × Value) : List Node :=
  if m.2.isScalar then [] else m.2.toList.map (tree m.1)

theorem memberNodes_eq (ms : Members) : memberNodes ms = ms.flatMap nodesOf := by
  induction ms with
  | nil => simp [memberNodes]
  | cons m ms ih =>
    obtain ⟨name, v⟩ := m
    cases v <;>
      simp [memberNodes, nodesOf, ih, Value.isScalar, Value.toList, itemNodes_eq]

theorem mem_nodesOf {m : String × Value} {n : Node} :
    n ∈ nodesOf m ↔ m.2.isScalar = false ∧ ∃ v ∈ m.2.toList, n = tree m.1 v := by
  by_cases scalar : m.2.isScalar
  · simp [nodesOf, scalar]
  · simp [nodesOf, scalar, eq_comm]

theorem mem_memberNodes {ms : Members} {n : Node} (member : n ∈ memberNodes ms) :
    ∃ m ∈ ms, m.2.isScalar = false ∧ ∃ v ∈ m.2.toList, n = tree m.1 v := by
  rw [memberNodes_eq, List.mem_flatMap] at member
  obtain ⟨m, held, inside⟩ := member
  exact ⟨m, held, mem_nodesOf.mp inside⟩

/-- An object that its text tells: its names are valid and in order, a scalar in it is told by its
text, a string that stands as the text itself is not blank (the empty string is), and a sequence has
two or more items. What is no scalar is such an object again, or a sequence of such objects. -/
inductive Recoverable : Value → Prop
  | object (ms : Members) (ascending : ms.Ascending) (named : ∀ m ∈ ms, ValidName m.1)
      (lossless : ∀ m ∈ ms, m.2.isScalar = true → Lossless m.2)
      (visible : ∀ s, (Node.textName, .string s) ∈ ms → Text.blank s = false)
      (several : ∀ m ∈ ms, ∀ items, m.2 = .array items → 2 ≤ items.length)
      (each : ∀ m ∈ ms, m.2.isScalar = false → ∀ v ∈ m.2.toList, Recoverable v) :
      Recoverable (.object ms)

theorem renderList_append (as bs : List Node) :
    Node.renderList (as ++ bs) = Node.renderList as ++ Node.renderList bs := by
  induction as with
  | nil => rfl
  | cons n ns ih => simp [Node.renderList, ih]

theorem render_childless (name : String) (attributes : List Attribute) :
    (Node.element name attributes []).render = emptyTag name attributes := by
  rw [Node.render]

theorem render_element (name : String) (attributes : List Attribute) {children : List Node}
    (nonempty : children ≠ []) : (Node.element name attributes children).render =
      startTag name attributes ++ Node.renderList children ++ endTag name := by
  cases children with
  | nil => contradiction
  | cons c cs => rw [Node.render]

def Written (v : Value) : Prop :=
  (∀ items, v ≠ .array items) ∧ ∀ name, writeValue name v = .ok (tree name v).render

theorem writeItems_eq (name : String) (items : List Value) (each : ∀ v ∈ items, Written v) :
    writeItems name items = .ok (Node.renderList (itemNodes name items)) := by
  induction items with
  | nil => simp [writeItems, itemNodes, Node.renderList]
  | cons v rest ih =>
    obtain ⟨⟨single, here⟩, after⟩ := List.forall_mem_cons.mp each
    rw [writeItems, here, ih after]
    · simp [itemNodes, Node.renderList]
      rfl
    · exact single

theorem writeMembers_eq (ms : Members)
    (each : ∀ m ∈ ms, m.2.isScalar = false → ∀ v ∈ m.2.toList, Written v) :
    writeMembers ms = .ok (Node.renderList (memberNodes ms)) := by
  induction ms with
  | nil => simp [writeMembers, memberNodes, Node.renderList]
  | cons m ms ih =>
    obtain ⟨here, after⟩ := List.forall_mem_cons.mp each
    obtain ⟨name, v⟩ := m
    cases v with
    | object inner =>
      obtain ⟨-, written⟩ := here rfl (.object inner) (by simp [Value.toList])
      rw [writeMembers, written, ih after]
      simp [memberNodes, Node.renderList]
      rfl
    | array items =>
      rw [writeMembers, writeItems_eq name items (here rfl), ih after]
      simp [memberNodes, renderList_append]
      rfl
    | _ => simp [writeMembers, memberNodes, ih after]

/-- An object has child elements exactly when an element is written for one of its members. -/
theorem hasChildren_iff (ms : Members)
    (several : ∀ m ∈ ms, ∀ items, m.2 = .array items → 2 ≤ items.length) :
    hasChildren ms = true ↔ memberNodes ms ≠ [] := by
  have shown : ∀ m ∈ ms, m.2.isScalar = false ↔ nodesOf m ≠ [] := by
    rintro ⟨name, v⟩ member
    cases v with
    | array items =>
      have long := several _ member items rfl
      have nonempty : items ≠ [] := by
        rintro rfl
        simp at long
      simpa [nodesOf, Value.isScalar, Value.toList] using nonempty
    | _ => simp [nodesOf, Value.isScalar, Value.toList]
  simp only [hasChildren, memberNodes_eq, ne_eq, List.flatMap_eq_nil_iff, not_forall,
    List.any_eq_true, Bool.not_eq_true']
  constructor
  · rintro ⟨m, member, element⟩
    exact ⟨m, member, (shown m member).mp element⟩
  · rintro ⟨m, member, nonempty⟩
    exact ⟨m, member, (shown m member).mpr nonempty⟩

theorem renderList_textNodes (ms : Members) :
    Node.renderList (textNodes ms) = escape ((scalarText? ms).getD "").toList := by
  cases text : scalarText? ms <;> simp [textNodes, text, Node.renderList, Node.render, escape]

theorem Recoverable.written {v : Value} (recoverable : Recoverable v) : Written v := by
  induction recoverable with
  | object ms ascending named lossless visible several each ih =>
    refine ⟨by simp, fun name => ?_⟩
    have children := hasChildren_iff ms several
    rw [writeValue, tree]
    split
    case h_1 noText noChildren =>
      have texts : textNodes ms = [] := by simp [textNodes, noText]
      have elements : memberNodes ms = [] := by simpa [noChildren] using children
      rw [texts, elements, List.append_nil, render_childless]
    case h_2 something =>
      have nonempty : textNodes ms ++ memberNodes ms ≠ [] := by
        intro empty
        obtain ⟨texts, elements⟩ := List.append_eq_nil_iff.mp empty
        refine something ?_ ?_
        · simpa [textNodes] using texts
        · simpa [elements] using children
      rw [writeMembers_eq ms ih, render_element name _ nonempty, renderList_append,
        renderList_textNodes]
      simp

theorem scalarAttributes_eq (ms : Members) : scalarAttributes ms =
    (ms.filter fun m => m.2.isScalar && m.1 ≠ Node.textName).map fun m => (m.1, m.2.plainText) := by
  induction ms with
  | nil => rfl
  | cons m ms ih =>
    rw [scalarAttributes] at ih ⊢
    by_cases kept : m.2.isScalar = true ∧ ¬m.1 = Node.textName
    · simpa [kept] using ih
    · simpa [List.filter_cons, kept] using ih

theorem scalarAttributes_valid {ms : Members} (ascending : ms.Ascending)
    (named : ∀ m ∈ ms, ValidName m.1) : ValidAttributes (scalarAttributes ms) := by
  rw [scalarAttributes_eq]
  constructor
  · intro a member
    obtain ⟨m, kept, rfl⟩ := List.mem_map.mp member
    exact named m (List.mem_of_mem_filter kept)
  · rw [List.map_map]
    have distinct := (ascending.filter fun m => m.2.isScalar && m.1 ≠ Node.textName).imp
      fun below => below.ne
    exact List.pairwise_map.mpr distinct

theorem mem_textNodes {ms : Members} {n : Node} (member : n ∈ textNodes ms) :
    ∃ v, (Node.textName, v) ∈ ms ∧ v.isScalar = true ∧ n = .text v.plainText := by
  simp only [textNodes, scalarText?, Option.mem_toList, Option.map_map, Option.map_eq_some_iff]
    at member
  obtain ⟨m, found, rfl⟩ := member
  have sort := List.find?_some found
  simp only [Bool.and_eq_true, decide_eq_true_eq] at sort
  exact ⟨m.2, sort.2 ▸ List.mem_of_find?_eq_some found, sort.1, rfl⟩

/-- Only the first child of an object's element is a text. -/
theorem children_apart (ms : Members) : Node.Apart (textNodes ms ++ memberNodes ms) := by
  have elements : ∀ n ∈ memberNodes ms, n.isText = false := by
    intro n member
    obtain ⟨m, -, -, v, -, rfl⟩ := mem_memberNodes member
    exact tree_isText m.1 v
  have alone : Node.Apart (memberNodes ms) := by
    refine List.Pairwise.isChain (List.pairwise_of_forall_mem_list fun m member n _ => ?_)
    simp [elements m member]
  cases text : scalarText? ms with
  | none => simpa [textNodes, text] using alone
  | some content =>
    cases rest : memberNodes ms with
    | nil => simp [textNodes, text, Node.Apart]
    | cons n ns =>
      rw [rest] at alone elements
      simpa [textNodes, text, Node.Apart, elements n List.mem_cons_self] using alone

theorem Recoverable.faithful {v : Value} (recoverable : Recoverable v) :
    ∀ {name : String}, ValidName name → (tree name v).Faithful := by
  induction recoverable with
  | object ms ascending named lossless visible several each ih =>
    intro name valid
    rw [tree]
    refine .element _ _ _ valid (scalarAttributes_valid ascending named) (children_apart ms) ?_
    intro n member
    rcases List.mem_append.mp member with text | element
    · obtain ⟨v, held, scalar, rfl⟩ := mem_textNodes text
      refine .text _ (blank_plainText (lossless _ held scalar) ?_)
      rintro s rfl
      exact visible s held
    · obtain ⟨m, held, nested, v, item, rfl⟩ := mem_memberNodes element
      exact ih m held nested v item (named m held)

theorem scalarAttributes_named (ms : Members) (k : String) :
    (scalarAttributes ms).filter (fun a => a.1 = k) =
      scalarAttributes (ms.filter fun m => m.1 = k) := by
  simp only [scalarAttributes_eq, List.filter_map, List.filter_filter]
  congr 2
  funext m
  exact Bool.and_comm _ _

theorem textNodes_named (ms : Members) (k : String) :
    (textNodes ms).filter (fun n => n.name = k) = textNodes (ms.filter fun m => m.1 = k) := by
  by_cases same : k = Node.textName
  · have found : scalarText? (ms.filter fun m => m.1 = k) = scalarText? ms := by
      rw [scalarText?, scalarText?, List.find?_filter]
      congr 2
      funext m
      simp [same, Bool.and_comm]
    rw [textNodes, textNodes, found]
    cases scalarText? ms <;> simp [Node.name, same]
  · have missing : scalarText? (ms.filter fun m => m.1 = k) = none := by
      rw [scalarText?, List.find?_filter, Option.map_eq_none_iff, List.find?_eq_none]
      intro m _ both
      simp only [Bool.and_eq_true, decide_eq_true_eq] at both
      exact same (both.1.symm.trans both.2.2)
    rw [textNodes, textNodes, missing]
    cases scalarText? ms <;> simp [Node.name, Ne.symm same]

theorem memberNodes_named (ms : Members) (k : String) :
    (memberNodes ms).filter (fun n => n.name = k) = memberNodes (ms.filter fun m => m.1 = k) := by
  have own : ∀ m : String × Value, ∀ n ∈ nodesOf m, n.name = m.1 := by
    intro m n member
    obtain ⟨-, v, -, rfl⟩ := mem_nodesOf.mp member
    exact tree_name m.1 v
  simp only [memberNodes_eq, List.filter_flatMap]
  induction ms with
  | nil => rfl
  | cons m ms ih =>
    by_cases same : m.1 = k
    · have all : (nodesOf m).filter (fun n => n.name = k) = nodesOf m :=
        List.filter_eq_self.mpr fun n member => by simp [own m n member, same]
      rw [List.filter_cons_of_pos (by simpa using same), List.flatMap_cons, List.flatMap_cons, all,
        ih]
    · have nothing : (nodesOf m).filter (fun n => n.name = k) = [] :=
        List.filter_eq_nil_iff.mpr fun n member => by simp [own m n member, same]
      rw [List.filter_cons_of_neg (by simpa using same), List.flatMap_cons, nothing, ih,
        List.nil_append]

def recovered (ms : Members) : Members :=
  Node.mergeChildren (attributeMembers (scalarAttributes ms)) (textNodes ms ++ memberNodes ms)

theorem recovered_ascending (ms : Members) : (recovered ms).Ascending :=
  (Node.get?_mergeChildren (get?_attributeMembers _).1 _).1

/-- What is recovered under a name is what the members with that name were written as, merged. -/
theorem get?_recovered (ms : Members) (k : String) :
    (recovered ms).get? k =
      (textNodes (ms.filter fun m => m.1 = k) ++ memberNodes (ms.filter fun m => m.1 = k)).foldl
        (fun held n => some (merged n.toValue held))
        ((scalarAttributes (ms.filter fun m => m.1 = k)).getLast?.map fun a => literal a.2) := by
  obtain ⟨ascending, said⟩ := get?_attributeMembers (scalarAttributes ms)
  obtain ⟨-, children⟩ := Node.get?_mergeChildren ascending (textNodes ms ++ memberNodes ms)
  rw [recovered, children k, said k, List.filter_append, textNodes_named, memberNodes_named,
    scalarAttributes_named]

theorem get?_recovered_filter (ms : Members) (k : String) :
    (recovered ms).get? k = (recovered (ms.filter fun m => m.1 = k)).get? k := by
  rw [get?_recovered, get?_recovered (ms.filter fun m => m.1 = k), List.filter_filter]
  simp only [Bool.and_self]

/-- A scalar is recovered from its attribute, or from the text. -/
theorem get?_recovered_scalar (k : String) {v : Value} (scalar : v.isScalar = true)
    (lossless : Lossless v) : (recovered [(k, v)]).get? k = some v := by
  have elements : memberNodes [(k, v)] = [] := by simp [memberNodes_eq, nodesOf, scalar]
  rw [get?_recovered, List.filter_cons_of_pos (by simp), List.filter_nil, elements,
    scalarAttributes, textNodes, scalarText?]
  by_cases text : k = Node.textName
  · simp [scalar, text, Node.toValue, literal_plainText lossless]
  · simp [scalar, text, literal_plainText lossless]

/-- An object, or a sequence of objects, is recovered from the elements of its name. -/
theorem get?_recovered_nested (k : String) {v : Value} (nested : v.isScalar = false)
    (several : ∀ items, v = .array items → 2 ≤ items.length)
    (flat : ∀ w ∈ v.toList, ∀ items, w ≠ .array items)
    (each : ∀ w ∈ v.toList, (tree k w).toValue = w) : (recovered [(k, v)]).get? k = some v := by
  have elements : memberNodes [(k, v)] = v.toList.map (tree k) := by
    simp [memberNodes_eq, nodesOf, nested]
  have texts : textNodes [(k, v)] = [] := by simp [textNodes, scalarText?, nested]
  have attributes : scalarAttributes [(k, v)] = [] := by simp [scalarAttributes, nested]
  have merges : ∀ items : List Value, (∀ w ∈ items, (tree k w).toValue = w) → ∀ held,
      (items.map (tree k)).foldl (fun held n => some (merged n.toValue held)) held =
        items.foldl (fun held w => some (merged w held)) held := by
    intro items each held
    rw [List.foldl_map]
    exact List.foldl_ext _ _ _ fun held w member => by rw [each w member]
  rw [get?_recovered, List.filter_cons_of_pos (by simp), List.filter_nil, elements, texts,
    attributes, List.nil_append, merges _ each]
  exact merged_toList several flat

theorem Recoverable.toValue_tree {v : Value} (recoverable : Recoverable v) (name : String) :
    (tree name v).toValue = v := by
  induction recoverable generalizing name with
  | object ms ascending named lossless visible several each ih =>
    rw [tree, Node.toValue]
    congr 1
    refine (recovered_ascending ms).ext ascending fun k => ?_
    rw [get?_recovered_filter, ascending.filter_name]
    cases held : ms.get? k with
    | none => rfl
    | some v =>
      have member : (k, v) ∈ ms := Members.mem_of_get? held
      cases scalar : v.isScalar with
      | true => exact get?_recovered_scalar k scalar (lossless _ member scalar)
      | false =>
        refine get?_recovered_nested k scalar (several _ member) ?_ ?_
        · intro w item
          exact (each _ member scalar w item).written.1
        · intro w item
          exact ih _ member scalar w item k

/-- The text of one element alone is read as a document of it. -/
theorem parse_render (n : Node) (faithful : n.Faithful) (markup : n.isText = false) :
    Node.parse (String.ofList n.render) = .ok (.document [n]) := by
  have siblings : ∀ m ∈ [n], m.Faithful := by simpa using faithful
  have opens := faithful.render_head markup
  obtain ⟨rest, spelled⟩ : ∃ rest, n.render = '<' :: rest :=
    ⟨n.render.tail, (List.cons_head?_tail opens).symm⟩
  have unmarked : withoutMark n.render = n.render := by
    rw [spelled]
    rfl
  have whole : Node.parse (String.ofList n.render) = readInto .fresh (Node.renderList [n]) := by
    rw [Node.parse, String.toList_ofList, Node.read, scan, unmarked, Node.renderList,
      Node.renderList, List.append_nil]
    rfl
  rw [whole]
  exact Node.read_renderList [n] siblings (.singleton n)

/-- An object that its text tells is written, and what is written is read as the object under the
name of the root, at any depth. -/
theorem readValue_writeDocument {root : String} {v : Value} (named : ValidName root)
    (recoverable : Recoverable v) :
    ∃ xml, writeDocument root v = .ok xml ∧ readValue xml = .ok (.object [(root, v)]) := by
  refine ⟨String.ofList (tree root v).render, ?_, ?_⟩
  · rw [writeDocument, recoverable.written.2 root]
    rfl
  · rw [readValue, parse_render _ (recoverable.faithful named) (tree_isText root v)]
    simp [Except.map, Node.toValue, Node.mergeChildren, merge, Members.alter, tree_name,
      recoverable.toValue_tree root]

def contract : Members :=
  [("#text", .string "as <agreed> & \"signed\"\n"), ("id", .number (.int (-7))),
    ("item", .array [.object [("n", .null)], .object []]), ("open", .bool true),
    ("owner", .object [("name", .string "J. O'Hara")])]

theorem contract_recoverable : Recoverable (.object contract) := by
  have first : Recoverable (.object [("n", .null)]) :=
    .object _ (by decide) (by decide) (by simp [Lossless]) (by simp) (by simp)
      (by simp [Value.isScalar])
  have second : Recoverable (.object []) :=
    .object _ (by decide) (by simp) (by simp) (by simp) (by simp) (by simp)
  have owner : Recoverable (.object [("name", .string "J. O'Hara")]) := by
    have name : Plain "J. O'Hara" := by decide
    exact .object _ (by decide) (by decide) (by simp [Lossless, name]) (by simp [Node.textName])
      (by simp) (by simp [Value.isScalar])
  refine .object contract (by decide) (by decide) ?_ ?_ ?_ ?_
  · have note : Plain "as <agreed> & \"signed\"\n" := by decide
    simp [contract, Value.isScalar, Lossless, Json.Exact, note]
  · simp [contract, Node.textName]
    decide
  · simp [contract]
  · simp [contract, Value.isScalar, Value.toList, first, second, owner]

theorem contract_read : ValidName "contract" ∧ Recoverable (.object contract) ∧
    ∃ xml, writeDocument "contract" (.object contract) = .ok xml ∧
      readValue xml = .ok (.object [("contract", .object contract)]) :=
  have named : ValidName "contract" := by decide
  ⟨named, contract_recoverable, readValue_writeDocument named contract_recoverable⟩

end ExtensionAdmin.Xml
