import Mathlib.Data.List.Chain
import ExtensionAdmin.Proofs.Xml.Building
import ExtensionAdmin.Xml.Node

/-! Trees are read as they were written. What was written for a node, read with some elements still
open, leaves the same elements open and the node attached to the innermost of them. So a written
document gives back its tree. -/

namespace ExtensionAdmin.Xml

theorem declaration_scanned (rest : List Char) :
    ∃ content, scanFrom .fresh (declaration ++ rest) =
      (scanFrom .fresh rest).cons (.instruction content) :=
  ⟨_, rfl⟩

namespace Node

def isText : Node → Bool
  | .text _ => true
  | _ => false

def Apart (ns : List Node) : Prop :=
  ns.IsChain fun m n => ¬(m.isText ∧ n.isText)

/-- A tree whose text tells it: its tags have valid names, no text is blank (the empty text is), and
no two texts stand next to each other. -/
inductive Faithful : Node → Prop
  | text (content : String) (visible : Text.blank content = false) : Faithful (.text content)
  | element (name : String) (attributes : List Attribute) (children : List Node)
      (named : ValidName name) (admitted : ValidAttributes attributes) (apart : Apart children)
      (each : ∀ n ∈ children, Faithful n) : Faithful (.element name attributes children)

/-- What is written for a node, up to the end of its text, is read as that node. -/
def Read (n : Node) : Prop :=
  ∀ b rest, (n.isText → ∀ c ∈ rest.head?, c = '<') →
    readInto b (n.render ++ rest) = readInto (b.attach n) rest

theorem Faithful.render_head {n : Node} (faithful : Faithful n) (markup : n.isText = false) :
    n.render.head? = some '<' := by
  cases faithful with
  | text => simp [isText] at markup
  | element name attributes children =>
    cases children <;> simp [render, emptyTag, startTag]

/-- Siblings are read one after the other: markup or the end follows a text. -/
theorem list_read (ns : List Node) (faithful : ∀ n ∈ ns, Faithful n) (apart : Apart ns)
    (each : ∀ n ∈ ns, Read n) (b : Builder) (rest : List Char)
    (ended : ∀ c ∈ rest.head?, c = '<') :
    readInto b (renderList ns ++ rest) = readInto (ns.foldl Builder.attach b) rest := by
  induction ns generalizing b with
  | nil => rfl
  | cons n ns ih =>
    obtain ⟨-, later⟩ := List.forall_mem_cons.mp faithful
    obtain ⟨here, after⟩ := List.forall_mem_cons.mp each
    have stops : n.isText → ∀ c ∈ (renderList ns ++ rest).head?, c = '<' := by
      intro text
      cases ns with
      | nil => exact ended
      | cons m ns =>
        have markup : m.isText = false := by
          simpa [text] using (List.isChain_cons_cons.mp apart).1
        have opens := (later m List.mem_cons_self).render_head markup
        simp [renderList, opens]
    rw [renderList, List.append_assoc, here b _ stops, ih later apart.tail after]
    rfl

/-- The induction is on the tree: an element's children are read while it is open, and its end tag
attaches it with them. -/
theorem Faithful.read {n : Node} (faithful : Faithful n) : Read n := by
  induction faithful with
  | text content visible =>
    intro b rest ended
    exact text_read b visible rest (ended rfl)
  | element name attributes children named admitted apart faithful ih =>
    intro b rest _
    have tag := (tagContent_spelled name attributes).written
    cases children with
    | nil => simpa [render, emptyTag] using emptyElement_read named admitted tag b rest
    | cons c cs =>
      have blank : Gap [] := by decide
      have inside : ∀ b rest, readInto b (renderList (c :: cs) ++ '<' :: rest) =
          readInto ((c :: cs).foldl Builder.attach b) ('<' :: rest) := fun b rest =>
        list_read (c :: cs) faithful apart ih b ('<' :: rest) (by simp)
      simpa [render, startTag, endTag] using element_read named admitted tag blank inside b rest

/-- The text of siblings alone is read as a document of them. -/
theorem read_renderList (ns : List Node) (faithful : ∀ n ∈ ns, Faithful n) (apart : Apart ns) :
    readInto .fresh (renderList ns) = .ok (.document ns) := by
  have siblings := list_read ns faithful apart (fun n member => (faithful n member).read)
    .fresh [] (by simp)
  rw [List.append_nil] at siblings
  rw [siblings, Builder.fresh, foldl_attach_roots]
  simp [readInto, scanFrom, Mode.fresh, Mode.finish, Builder.finish]

/-- A document of elements and texts is read back from its own text, at any depth and width. -/
theorem parse_toXml (children : List Node) (faithful : ∀ n ∈ children, Faithful n)
    (apart : Apart children) :
    Node.parse (Node.document children).toXml = .ok (.document children) := by
  obtain ⟨content, scanned⟩ := declaration_scanned (renderList children)
  have whole : Node.parse (Node.document children).toXml =
      readInto .fresh (declaration ++ renderList children) := by
    simp only [Node.parse, Node.toXml, Node.write, String.toList_ofList]
    rfl
  have skipped : readInto .fresh (declaration ++ renderList children) =
      readInto .fresh (renderList children) := readInto_token scanned rfl
  rw [whole, skipped]
  exact read_renderList children faithful apart

def greeting : List Node :=
  [.element "note" [("to", "<\"R&D\">\n'all'"), ("by", "")]
    [.text " hello & ", .element "br" [] [], .element "em" [("id", "1")] [.text "world"],
      .text "!\t"],
    .text "bye"]

theorem greeting_faithful : ∀ n ∈ greeting, Faithful n := by
  simp only [greeting, List.forall_mem_cons]
  refine ⟨.element _ _ _ (by decide) (by decide) ?_ ?_, .text _ (by decide), by simp⟩
  · simp [Apart, isText]
  · simp only [List.forall_mem_cons]
    refine ⟨.text _ (by decide), .element _ _ _ (by decide) (by decide) .nil (by simp),
      .element _ _ _ (by decide) (by decide) (.singleton _) ?_, .text _ (by decide), by simp⟩
    simpa using Faithful.text "world" (by decide)

theorem greeting_parsed : (∀ n ∈ greeting, Faithful n) ∧ Apart greeting ∧
    Node.parse (Node.document greeting).toXml = .ok (.document greeting) :=
  have apart : Apart greeting := by simp [Apart, greeting, isText]
  ⟨greeting_faithful, apart, parse_toXml greeting greeting_faithful apart⟩

end Node

end ExtensionAdmin.Xml
