import ExtensionAdmin.Proofs.Xml.Building
import ExtensionAdmin.Xml.Conversion

/-! The many ways to spell a document. Between elements there may be white space, comments and
instructions; tags may hold white space and quotes of either kind; an element without children may
be an empty element or a start tag with its end tag; a text may be escaped or be character data.
Whichever is chosen where, what is read is the same tree. -/

namespace ExtensionAdmin.Xml

open Fallible (map_eq_ok)

/-- What stands between elements and makes no node. White space may be written by references. -/
inductive Filler : List Char → Prop
  | nil : Filler []
  | space {raw cs rest : List Char} (plain : '<' ∉ raw) (read : unescape raw = .ok cs)
      (blank : Text.allBlank cs = true) (more : Filler rest) : Filler (raw ++ rest)
  | comment {content rest : List Char} (clean : ¬['-', '-'] <:+: content)
      (more : Filler rest) :
      Filler ('<' :: '!' :: '-' :: '-' :: content ++ '-' :: '-' :: '>' :: rest)
  | instruction {content rest : List Char} (nonempty : content ≠ []) (plain : '>' ∉ content)
      (more : Filler rest) : Filler ('<' :: '?' :: content ++ '?' :: '>' :: rest)

/-- A text that stands alone in an element: escaped, or as one section of character data. -/
inductive SpelledText (text : String) : List Char → Prop
  | escaped : SpelledText text (escape text.toList)
  | cdata (clean : ¬[']', ']', '>'] <:+: text.toList) :
      SpelledText text ('<' :: '!' :: cdataMark ++ text.toList ++ [']', ']', '>'])

/-- Elements that stand side by side, with what is between them. Each holds elements in turn, or a
text alone. -/
inductive Spelled : List Node → List Char → Prop
  | nil {cs : List Char} (filler : Filler cs) : Spelled [] cs
  | empty {name : String} {attributes : List Attribute} {gap content : List Char}
      {siblings : List Node} {rest : List Char} (filler : Filler gap) (named : ValidName name)
      (admitted : ValidAttributes attributes) (tag : SpelledTag name attributes content)
      (others : Spelled siblings rest) :
      Spelled (.element name attributes [] :: siblings)
        (gap ++ ('<' :: content ++ ['/', '>']) ++ rest)
  | text {name : String} {attributes : List Attribute} {text : String}
      {gap content inside space : List Char} {siblings : List Node} {rest : List Char}
      (filler : Filler gap) (named : ValidName name) (admitted : ValidAttributes attributes)
      (tag : SpelledTag name attributes content) (visible : Text.blank text = false)
      (written : SpelledText text inside) (blank : Gap space) (others : Spelled siblings rest) :
      Spelled (.element name attributes [.text text] :: siblings)
        (gap ++ ('<' :: content ++ ['>'] ++ inside ++
          ('<' :: '/' :: name.toList ++ space ++ ['>'])) ++ rest)
  | element {name : String} {attributes : List Attribute} {children : List Node}
      {gap content inside space : List Char} {siblings : List Node} {rest : List Char}
      (filler : Filler gap) (named : ValidName name) (admitted : ValidAttributes attributes)
      (tag : SpelledTag name attributes content) (written : Spelled children inside)
      (blank : Gap space) (others : Spelled siblings rest) :
      Spelled (.element name attributes children :: siblings)
        (gap ++ ('<' :: content ++ ['>'] ++ inside ++
          ('<' :: '/' :: name.toList ++ space ++ ['>'])) ++ rest)

theorem escape_of_blank {cs : List Char} (blank : Text.allBlank cs = true) : escape cs = cs := by
  induction cs with
  | nil => rfl
  | cons c cs ih =>
    obtain ⟨here, after⟩ := List.forall_mem_cons.mp (List.all_eq_true.mp blank)
    have plain : escapeChar c = [c] := by
      have special : c ∉ ['<', '>', '&', '\'', '"'] := by
        intro mark
        simp only [List.mem_cons, List.not_mem_nil, or_false] at mark
        rcases mark with rfl | rfl | rfl | rfl | rfl <;> cases here
      simp only [List.mem_cons, not_or] at special
      simp [escapeChar, special]
    rw [escape, List.flatMap_cons, plain, ← escape, ih (List.all_eq_true.mpr after)]
    rfl

theorem Filler.blank {cs rest : List Char} (blank : Text.allBlank cs = true) (more : Filler rest) :
    Filler (cs ++ rest) := by
  have same := escape_of_blank blank
  apply Filler.space _ _ blank more
  · rw [← same]
    exact not_mem_escape (by decide) cs
  · nth_rewrite 1 [← same]
    exact unescape_escape cs

def Pending (seen : List Char) : Prop :=
  ∃ cs, unescape seen.reverse = .ok cs ∧ Text.allBlank cs = true

theorem take_pending (b : Builder) {seen : List Char} (pending : Pending seen) :
    b.take (.text seen.reverse) = .ok b := by
  obtain ⟨cs, read, blank⟩ := pending
  have silent : (Token.text seen.reverse).event? = .ok none := by
    simp [Token.event?, textEvent?, read, blank]
  rw [Builder.take, silent]
  rfl

/-- White space before markup is dropped. -/
theorem pending_markup (b : Builder) {seen : List Char} (pending : Pending seen)
    (rest : List Char) :
    (scanFrom (.text seen) ('<' :: rest)).into b = readInto b ('<' :: rest) := by
  by_cases empty : seen = []
  · subst empty
    rfl
  · have ended : scanFrom (.text seen) ('<' :: rest) =
        (scanFrom .opened rest).cons (.text seen.reverse) := by
      simp [scanFrom, Mode.step, empty]
    rw [ended, Scan.cons_into, take_pending b pending]
    rfl

theorem pending_end (b : Builder) {seen : List Char} (pending : Pending seen) :
    (scanFrom (.text seen) []).into b = b.finish := by
  by_cases empty : seen = []
  · subst empty
    rfl
  · have ended : scanFrom (.text seen) [] = (Scan.mk [] none).cons (.text seen.reverse) := by
      simp [scanFrom, Mode.finish, Scan.cons, empty]
    rw [ended, Scan.cons_into, take_pending b pending]
    rfl

def Reads (cs : List Char) (ns : List Node) : Prop :=
  ∀ seen, Pending seen → ∃ left, Pending left ∧ ∀ b rest,
    (scanFrom (.text seen) (cs ++ rest)).into b =
      (scanFrom (.text left) rest).into (ns.foldl Builder.attach b)

theorem pending_nil : Pending [] :=
  ⟨[], rfl, rfl⟩

theorem Reads.nil : Reads [] [] :=
  fun seen pending => ⟨seen, pending, fun _ _ => rfl⟩

theorem Reads.append {cs ds : List Char} {ms ns : List Node} (first : Reads cs ms)
    (second : Reads ds ns) : Reads (cs ++ ds) (ms ++ ns) := by
  intro seen pending
  obtain ⟨middle, between, reads⟩ := first seen pending
  obtain ⟨left, last, later⟩ := second middle between
  refine ⟨left, last, fun b rest => ?_⟩
  rw [List.append_assoc, reads, later, List.foldl_append]

/-- Markup that is read from a fresh start is read after white space, too. -/
theorem Reads.markup {cs : List Char} {ns : List Node}
    (read : ∀ b rest, readInto b ('<' :: cs ++ rest) = readInto (ns.foldl Builder.attach b) rest) :
    Reads ('<' :: cs) ns :=
  fun _ pending => ⟨[], pending_nil, fun b rest =>
    (pending_markup b pending (cs ++ rest)).trans (read b rest)⟩

theorem space_reads {raw cs : List Char} (plain : '<' ∉ raw) (read : unescape raw = .ok cs)
    (blank : Text.allBlank cs = true) : Reads raw [] := by
  rintro seen ⟨before, readBefore, blankBefore⟩
  refine ⟨raw.reverse ++ seen, ?_, ?_⟩
  · refine ⟨before ++ cs, ?_, ?_⟩
    · rw [List.reverse_append, List.reverse_reverse]
      exact unescape_append readBefore read
    · rw [Text.allBlank, List.all_append, Bool.and_eq_true]
      exact ⟨blankBefore, blank⟩
  · intro b rest
    rw [scanFrom_upto .text '<' (fun c other seen => by simp [Mode.step, other]) plain rest seen]
    rfl

theorem Filler.reads {cs : List Char} (filler : Filler cs) : Reads cs [] := by
  induction filler with
  | nil => exact .nil
  | space plain read blank more ih => exact (space_reads plain read blank).append ih
  | @comment content rest clean more ih =>
    have first : Reads ('<' :: '!' :: '-' :: '-' :: content ++ ['-', '-', '>']) [] :=
      .markup fun b rest => readInto_token (by simpa using comment_scanned clean rest) rfl
    simpa using first.append ih
  | @instruction content rest nonempty plain more ih =>
    have first : Reads ('<' :: '?' :: content ++ ['?', '>']) [] :=
      .markup fun b rest =>
        readInto_token (by simpa using instruction_scanned nonempty plain rest) rfl
    simpa using first.append ih

theorem SpelledText.read {text : String} {cs : List Char} (written : SpelledText text cs)
    (visible : Text.blank text = false) (b : Builder) (rest : List Char) :
    readInto b (cs ++ '<' :: rest) = readInto (b.attach (.text text)) ('<' :: rest) := by
  cases written with
  | escaped => exact text_read b visible ('<' :: rest) (by simp)
  | cdata clean =>
    apply readInto_token (t := .cdata text.toList)
    · simpa using cdata_scanned clean ('<' :: rest)
    · rw [take_event (e := .text text) b (by simp [Token.event?])]
      rfl

theorem element_reads {name : String} {attributes : List Attribute} {children : List Node}
    {content inside space : List Char} (named : ValidName name)
    (admitted : ValidAttributes attributes) (tag : SpelledTag name attributes content)
    (blank : Gap space) (read : ∀ b rest, readInto b (inside ++ '<' :: rest) =
      readInto (children.foldl Builder.attach b) ('<' :: rest)) :
    Reads ('<' :: content ++ ['>'] ++ inside ++ ('<' :: '/' :: name.toList ++ space ++ ['>']))
      [.element name attributes children] :=
  .markup (element_read named admitted tag.written blank read)

/-- The induction is on the spelling: what is between elements, then an element with what is inside
of it, then its siblings. -/
theorem Spelled.reads {ns : List Node} {cs : List Char} (spelled : Spelled ns cs) : Reads cs ns := by
  induction spelled with
  | nil filler => exact filler.reads
  | @empty name attributes gap content siblings rest filler named admitted tag others ih =>
    have here : Reads ('<' :: content ++ ['/', '>']) [.element name attributes []] :=
      .markup (emptyElement_read named admitted tag.written)
    exact (filler.reads.append here).append ih
  | @text name attributes text gap content inside space siblings rest filler named admitted tag
      visible written blank others ih =>
    have read : ∀ b rest, readInto b (inside ++ '<' :: rest) =
        readInto ([Node.text text].foldl Builder.attach b) ('<' :: rest) :=
      written.read visible
    have here := element_reads named admitted tag blank read
    exact (filler.reads.append here).append ih
  | element filler named admitted tag written blank others inner ih =>
    obtain ⟨left, pending, reads⟩ := inner [] pending_nil
    have here := element_reads named admitted tag blank fun b rest =>
      (reads b ('<' :: rest)).trans (pending_markup _ pending rest)
    exact (filler.reads.append here).append ih

theorem withoutMark_eq {cs : List Char} (unmarked : cs.head? ≠ some '\uFEFF') :
    withoutMark cs = cs := by
  cases cs with
  | nil => rfl
  | cons c cs =>
    have other : c ≠ '\uFEFF' := by simpa using unmarked
    simp [withoutMark, other]

theorem Filler.unmarked {cs : List Char} (filler : Filler cs) : cs.head? ≠ some '\uFEFF' := by
  induction filler with
  | nil => simp
  | @space raw cs rest plain read blank more ih =>
    cases raw with
    | nil => exact ih
    | cons c raw =>
      intro mark
      obtain rfl : c = '\uFEFF' := by simpa using mark
      have kept : unescapeFrom (Text.byteLength ('\uFEFF' :: raw)) 0 none ('\uFEFF' :: raw) =
          .ok cs := read
      simp only [unescapeFrom, show ¬ '\uFEFF' = '&' by decide, if_false, map_eq_ok] at kept
      obtain ⟨ds, -, rfl⟩ := kept
      simp [Text.allBlank, show Text.isBlank '\uFEFF' = false by decide] at blank
  | comment => simp
  | instruction => simp

theorem Spelled.unmarked {ns : List Node} {cs : List Char} (spelled : Spelled ns cs) :
    cs.head? ≠ some '\uFEFF' := by
  have front : ∀ gap piece, Filler gap → piece.head? = some '<' →
      (gap ++ piece).head? ≠ some '\uFEFF' := by
    intro gap piece filler markup
    cases gap with
    | nil => simp [markup]
    | cons c gap => simpa using filler.unmarked
  cases spelled with
  | nil filler => exact filler.unmarked
  | empty filler => simpa only [List.append_assoc] using front _ _ filler (by simp)
  | text filler => simpa only [List.append_assoc] using front _ _ filler (by simp)
  | element filler => simpa only [List.append_assoc] using front _ _ filler (by simp)

theorem Spelled.parsed {ns : List Node} {s : String} (spelled : Spelled ns s.toList) :
    Node.parse s = .ok (.document ns) := by
  obtain ⟨left, pending, reads⟩ := spelled.reads [] pending_nil
  have whole := reads .fresh []
  rw [List.append_nil, pending_end _ pending, Builder.fresh, foldl_attach_roots] at whole
  rw [Node.parse, Node.read, scan, withoutMark_eq spelled.unmarked]
  exact whole.trans (by simp [Builder.finish])

namespace Node

inductive Uniform : Node → Prop
  | text {name : String} {attributes : List Attribute} {content : String} (named : ValidName name)
      (admitted : ValidAttributes attributes) (visible : Text.blank content = false) :
      Uniform (.element name attributes [.text content])
  | element {name : String} {attributes : List Attribute} {children : List Node}
      (named : ValidName name) (admitted : ValidAttributes attributes)
      (each : ∀ n ∈ children, Uniform n) : Uniform (.element name attributes children)

/-- What is written for such an element is one of its spellings. -/
theorem Uniform.render_spelled {n : Node} (uniform : Uniform n) {siblings : List Node}
    {rest : List Char} (others : Spelled siblings rest) :
    Spelled (n :: siblings) (n.render ++ rest) := by
  have none : Gap [] := by decide
  induction uniform generalizing siblings rest with
  | @text name attributes content named admitted visible =>
    have spelled := Spelled.text .nil named admitted (tagContent_spelled name attributes) visible
      .escaped none others
    simpa [render, renderList, startTag, endTag] using spelled
  | @element name attributes children named admitted each ih =>
    have tag := tagContent_spelled name attributes
    cases children with
    | nil => simpa [render, emptyTag] using Spelled.empty .nil named admitted tag others
    | cons c cs =>
      -- Each child is spelled in front of those that come after it.
      have inside : ∀ ns : List Node, (∀ n ∈ ns, n ∈ c :: cs) → Spelled ns (renderList ns) := by
        intro ns among
        induction ns with
        | nil => exact .nil .nil
        | cons n ns each =>
          obtain ⟨here, after⟩ := List.forall_mem_cons.mp among
          exact ih n here (each after)
      have spelled := Spelled.element .nil named admitted tag (inside _ fun _ => id) none others
      simpa [render, startTag, endTag] using spelled

end Node

/-- An element tree has a spelling, and is read from each of its spellings, whatever is chosen in
it; so it is taken for the same value. -/
theorem spelling_parsed {root : Node} (uniform : root.Uniform) :
    Spelled [root] root.render ∧ ∀ s : String, Spelled [root] s.toList →
      Node.parse s = .ok (.document [root]) ∧ readValue s = .ok (Node.document [root]).toValue := by
  constructor
  · have alone := uniform.render_spelled (.nil .nil)
    rwa [List.append_nil] at alone
  · intro s spelled
    constructor
    · exact spelled.parsed
    · rw [readValue, spelled.parsed]
      rfl

def note : Node :=
  .element "note" [("to", "<R&D>")] [.element "br" [] [], .element "em" [] [.text "a<b"]]

theorem note_uniform : note.Uniform := by
  apply Node.Uniform.element (by decide) (by decide)
  simp only [List.forall_mem_cons]
  exact ⟨.element (by decide) (by decide) (by simp),
    .text (by decide) (by decide) (by decide), by simp⟩

def spelledNote : String :=
  "<!--n-->\n<note\tto = '&lt;R&amp;D&gt;' ><br></br >&#32;<em><![CDATA[a<b]]></em></note>"

theorem spelledNote_spelled : Spelled [note] spelledNote.toList := by
  have newline : Filler "\n".toList := .blank (show Text.allBlank ['\n'] = true by decide) .nil
  have comment : Filler "<!--n-->\n".toList :=
    .comment (show ¬['-', '-'] <:+: "n".toList by decide) newline
  have space : Filler "&#32;".toList :=
    .space (by decide) (show unescape "&#32;".toList = .ok [' '] by rfl) (by rfl) .nil
  have field : SpelledAttribute ("to", "<R&D>") "\tto = '&lt;R&amp;D&gt;'".toList :=
    .quoted ['\t'] [' '] [' '] '\'' (by simp) (by decide) (by decide) (by decide) (by decide)
  have tag : SpelledTag "note" [("to", "<R&D>")] "note\tto = '&lt;R&amp;D&gt;' ".toList :=
    ⟨_, .cons field (.nil (show Gap " ".toList by decide)), rfl⟩
  have none : Gap [] := by decide
  have em : Spelled [.element "em" [] [.text "a<b"]] "&#32;<em><![CDATA[a<b]]></em>".toList :=
    .text space (by decide) (by decide) (tagContent_spelled "em" []) (by decide)
      (.cdata (by decide)) none (.nil .nil)
  have br : Spelled [.element "br" [] [], .element "em" [] [.text "a<b"]]
      "<br></br >&#32;<em><![CDATA[a<b]]></em>".toList :=
    .element .nil (by decide) (by decide) (tagContent_spelled "br" []) (.nil .nil)
      (show Gap " ".toList by decide) em
  have whole : spelledNote.toList = "<!--n-->\n".toList ++
      ('<' :: "note\tto = '&lt;R&amp;D&gt;' ".toList ++ ['>'] ++
        "<br></br >&#32;<em><![CDATA[a<b]]></em>".toList ++
        ('<' :: '/' :: "note".toList ++ [] ++ ['>'])) ++ [] := by decide
  rw [whole]
  exact .element comment (by decide) (by decide) tag br none (.nil .nil)

theorem note_parsed : note.Uniform ∧ Spelled [note] spelledNote.toList ∧
    Node.parse spelledNote = .ok (.document [note]) :=
  have spelled := spelledNote_spelled
  ⟨note_uniform, spelled, ((spelling_parsed note_uniform).2 spelledNote spelled).1⟩

end ExtensionAdmin.Xml
