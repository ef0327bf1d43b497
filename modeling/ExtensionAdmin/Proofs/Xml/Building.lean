import Mathlib.Data.List.DropRight
import ExtensionAdmin.Proofs.Fallible
import ExtensionAdmin.Proofs.Xml.Scanning
import ExtensionAdmin.Xml.Node

/-! Trees are built token by token. What a scan comes to, read into a tree under construction, is
what its first token makes of that tree, with the rest of the scan read into it. Each kind of token
that is spelled as a document spells it is taken: a text or an empty element is attached, a start
tag opens an element, and the end tag of the innermost open element attaches that element with its
children. So an element is attached when what is inside of it is read up to its end tag. -/

namespace ExtensionAdmin.Xml

open Fallible (bind_eq_ok)

def Scan.into (s : Scan) (b : Builder) : Except Fault Node := do
  let b ← s.tokens.foldlM Builder.take b
  match s.fault with
  | some f => throw f
  | none => b.finish

theorem Node.read_eq (cs : List Char) : Node.read cs = (scan cs).into .fresh := rfl

theorem Scan.cons_into (t : Token) (s : Scan) (b : Builder) :
    (s.cons t).into b = b.take t >>= s.into := by
  simp only [Scan.into, Scan.cons, List.foldlM_cons, bind_assoc]
  rfl

theorem Builder.finish_eq_ok {b : Builder} {n : Node} :
    b.finish = .ok n ↔ b.frames = [] ∧ n = .document b.roots.reverse := by
  unfold Builder.finish
  cases b.frames <;> simp [eq_comm]

theorem Builder.close_eq_ok {b next : Builder} {written : String} (closed : b.close written = .ok next) :
    ∃ f frames, b.frames = f :: frames ∧ next = { b with frames }.attach f.element := by
  cases opened : b.frames with
  | nil => simp [Builder.close, opened] at closed
  | cons f frames =>
    simp only [Builder.close, opened] at closed
    split at closed
    · exact ⟨f, frames, rfl, (Except.ok.inj closed).symm⟩
    · cases closed

/-- A scan comes to a document when it has no fault, its tokens are taken, and no element is left
open. -/
theorem Scan.into_eq_ok {s : Scan} {b : Builder} {n : Node} :
    s.into b = .ok n ↔ ∃ last, s.tokens.foldlM Builder.take b = .ok last ∧ s.fault = none ∧
      last.frames = [] ∧ n = .document last.roots.reverse := by
  simp only [Scan.into, bind_eq_ok]
  refine exists_congr fun last => and_congr_right fun _ => ?_
  cases s.fault <;> simp [Builder.finish_eq_ok, throw, throwThe, MonadExceptOf.throw]

def readInto (b : Builder) (cs : List Char) : Except Fault Node := do
  let s := scanFrom .fresh cs
  let b ← s.tokens.foldlM Builder.take b
  match s.fault with
  | some f => throw f
  | none => b.finish

/-- A token that the tree takes leaves the rest of the text to be read into the new tree. -/
theorem readInto_token {b next : Builder} {cs rest : List Char} {t : Token}
    (scanned : scanFrom .fresh cs = (scanFrom .fresh rest).cons t) (taken : b.take t = .ok next) :
    readInto b cs = readInto next rest := by
  rw [readInto, scanned, Scan.cons, List.foldlM_cons, taken]
  rfl

theorem textEvent?_eq_ok {raw : List Char} {made : Option Event}
    (event : textEvent? raw = .ok made) : ∃ cs, unescape raw = .ok cs ∧
      made = if Text.allBlank cs then none else some (.text (String.ofList cs)) := by
  unfold textEvent? at event
  split at event
  · cases event
  · exact ⟨_, ‹_›, (Except.ok.inj event).symm⟩

theorem take_event (b : Builder) {t : Token} {e : Event} (made : t.event? = .ok (some e)) :
    b.take t = b.push e := by
  rw [Builder.take, made]
  rfl

theorem take_text (b : Builder) {content : String} (visible : Text.blank content = false) :
    b.take (.text (escape content.toList)) = .ok (b.attach (.text content)) := by
  apply take_event (e := .text content)
  have blank : Text.allBlank content.toList = false := visible
  simp [Token.event?, textEvent?, unescape_escape, blank]

section Written

variable {name : String} {attributes : List Attribute} {content : List Char}

theorem take_start (b : Builder) (named : ValidName name) (admitted : ValidAttributes attributes)
    (written : WrittenTag name attributes content) :
    b.take (.start content) = .ok { b with frames := ⟨name, attributes, []⟩ :: b.frames } := by
  apply take_event (e := .start name attributes)
  rw [Token.event?, tagAttributes_written named admitted written, tagName_written named written,
    String.ofList_toList]
  rfl

theorem take_empty (b : Builder) (named : ValidName name) (admitted : ValidAttributes attributes)
    (written : WrittenTag name attributes content) :
    b.take (.empty content) = .ok (b.attach (.element name attributes [])) := by
  apply take_event (e := .empty name attributes)
  rw [Token.event?, tagAttributes_written named admitted written, tagName_written named written,
    String.ofList_toList]
  rfl

end Written

/-- A closing tag is for the name that is written in it, white space after that aside. -/
theorem closedName_eq {name : String} (named : ValidName name) {gap : List Char}
    (blank : Gap gap) : closedName (String.ofList (name.toList ++ gap)) = name := by
  have kept : Text.dropEndWhile Text.isSeparator name.toList = name.toList :=
    List.rdropWhile_eq_self_iff.mpr fun nonempty => by
      simp [named.separator (List.getLast_mem nonempty)]
  have dropped : Text.dropEndWhile Text.isSeparator (name.toList ++ gap) = name.toList := by
    rw [Text.dropEndWhile] at kept ⊢
    rw [List.reverse_append, List.dropWhile_append_of_pos (by simpa [Gap] using blank), kept]
  have nonempty : name.toList ≠ [] := fun empty => named.1 (String.toList_eq_nil_iff.mp empty)
  simp [closedName, dropped, nonempty]

theorem take_close (roots : List Node) (f : Frame) (frames : List Frame)
    (named : ValidName f.name) {gap : List Char} (blank : Gap gap) :
    Builder.take ⟨roots, f :: frames⟩ (.close (f.name.toList ++ gap)) =
      .ok (Builder.attach ⟨roots, frames⟩ f.element) := by
  rw [take_event (e := .close (String.ofList (f.name.toList ++ gap))) _ rfl, Builder.push,
    Builder.close]
  simp only [closedName_eq named blank, if_true]

theorem foldl_attach_roots (ns roots : List Node) :
    ns.foldl Builder.attach ⟨roots, []⟩ = ⟨ns.reverse ++ roots, []⟩ := by
  induction ns generalizing roots with
  | nil => rfl
  | cons n ns ih => simp [Builder.attach, ih]

theorem foldl_attach_frame (ns roots : List Node) (f : Frame) (frames : List Frame) :
    ns.foldl Builder.attach ⟨roots, f :: frames⟩ =
      ⟨roots, { f with children := ns.reverse ++ f.children } :: frames⟩ := by
  induction ns generalizing f with
  | nil => rfl
  | cons n ns ih => simp [Builder.attach, ih]

/-- An escaped text is read up to the markup or the end that follows it. -/
theorem text_read (b : Builder) {content : String} (visible : Text.blank content = false)
    (rest : List Char) (ended : ∀ c ∈ rest.head?, c = '<') :
    readInto b (escape content.toList ++ rest) = readInto (b.attach (.text content)) rest := by
  have nonempty : content.toList ≠ [] := by
    intro empty
    simp [Text.blank, Text.allBlank, empty] at visible
  have plain : '<' ∉ escape content.toList := not_mem_escape (by decide) _
  exact readInto_token (text_scanned _ rest (escape_ne_nil nonempty) plain ended)
    (take_text b visible)

section Elements

variable {name : String} {attributes : List Attribute} {content : List Char}

theorem emptyElement_read (named : ValidName name) (admitted : ValidAttributes attributes)
    (tag : WrittenTag name attributes content) (b : Builder) (rest : List Char) :
    readInto b ('<' :: content ++ ['/', '>'] ++ rest) =
      readInto (b.attach (.element name attributes [])) rest := by
  rw [List.append_assoc]
  exact readInto_token (emptyTag_scanned named admitted tag rest) (take_empty b named admitted tag)

/-- An element is read with its children when they are read up to its end tag. -/
theorem element_read {children : List Node} {inside space : List Char} (named : ValidName name)
    (admitted : ValidAttributes attributes) (tag : WrittenTag name attributes content)
    (blank : Gap space) (read : ∀ b rest, readInto b (inside ++ '<' :: rest) =
      readInto (children.foldl Builder.attach b) ('<' :: rest)) (b : Builder) (rest : List Char) :
    readInto b ('<' :: content ++ ['>'] ++ inside ++
        ('<' :: '/' :: name.toList ++ space ++ ['>']) ++ rest) =
      readInto (b.attach (.element name attributes children)) rest := by
  let opened : Builder := { b with frames := ⟨name, attributes, []⟩ :: b.frames }
  let held : Frame := ⟨name, attributes, children.reverse⟩
  have close := take_close b.roots held b.frames named blank
  calc readInto b ('<' :: content ++ ['>'] ++ inside ++
          ('<' :: '/' :: name.toList ++ space ++ ['>']) ++ rest)
    _ = readInto b ('<' :: content ++ '>' ::
          (inside ++ '<' :: ('/' :: name.toList ++ space ++ '>' :: rest))) := by simp
    _ = readInto opened (inside ++ '<' :: ('/' :: name.toList ++ space ++ '>' :: rest)) :=
      readInto_token (startTag_scanned named admitted tag _) (take_start b named admitted tag)
    _ = readInto ⟨b.roots, held :: b.frames⟩
          ('<' :: '/' :: name.toList ++ space ++ '>' :: rest) := by
      rw [read, foldl_attach_frame, List.append_nil]
      rfl
    _ = readInto (b.attach (.element name attributes children)) rest := by
      rw [readInto_token (endTag_scanned named blank rest) close, Frame.element,
        List.reverse_reverse]

end Elements

end ExtensionAdmin.Xml
