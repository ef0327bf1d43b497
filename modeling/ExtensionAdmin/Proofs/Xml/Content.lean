import ExtensionAdmin.Proofs.Xml.Spelling

/-! Mixed content is read as it stands. Text, character data, comments, instructions and elements
may follow one another in any order, in a document and in each of its elements. Every text that is
not blank and every section of character data becomes a text node of its own, comments and
instructions become nothing, and an element holds what its own content comes to. -/

namespace ExtensionAdmin.Xml

def stretchNodes (cs : List Char) : List Node :=
  if Text.allBlank cs then [] else [.text (String.ofList cs)]

/-- Content of any kind, with the nodes that it is read as. A text goes on up to the next markup. -/
inductive Content : List Node → List Char → Prop
  | nil : Content [] []
  | text {raw cs rest : List Char} {ns : List Node} (nonempty : raw ≠ []) (plain : '<' ∉ raw)
      (read : unescape raw = .ok cs) (ended : ∀ c ∈ rest.head?, c = '<') (more : Content ns rest) :
      Content (stretchNodes cs ++ ns) (raw ++ rest)
  | cdata {content rest : List Char} {ns : List Node} (clean : ¬[']', ']', '>'] <:+: content)
      (more : Content ns rest) :
      Content (.text (String.ofList content) :: ns)
        ('<' :: '!' :: cdataMark ++ content ++ ']' :: ']' :: '>' :: rest)
  | comment {content rest : List Char} {ns : List Node} (clean : ¬['-', '-'] <:+: content)
      (more : Content ns rest) :
      Content ns ('<' :: '!' :: '-' :: '-' :: content ++ '-' :: '-' :: '>' :: rest)
  | instruction {content rest : List Char} {ns : List Node} (nonempty : content ≠ [])
      (plain : '>' ∉ content) (more : Content ns rest) :
      Content ns ('<' :: '?' :: content ++ '?' :: '>' :: rest)
  | empty {name : String} {attributes : List Attribute} {tag rest : List Char} {ns : List Node}
      (named : ValidName name) (admitted : ValidAttributes attributes)
      (written : WrittenTag name attributes tag) (more : Content ns rest) :
      Content (.element name attributes [] :: ns) ('<' :: tag ++ ['/', '>'] ++ rest)
  | element {name : String} {attributes : List Attribute} {children : List Node}
      {tag inside space rest : List Char} {ns : List Node} (named : ValidName name)
      (admitted : ValidAttributes attributes) (written : WrittenTag name attributes tag)
      (inner : Content children inside) (blank : Gap space) (more : Content ns rest) :
      Content (.element name attributes children :: ns)
        ('<' :: tag ++ ['>'] ++ inside ++ ('<' :: '/' :: name.toList ++ space ++ ['>']) ++ rest)

theorem Content.admitted {ns : List Node} {cs : List Char} (content : Content ns cs) :
    ∀ n ∈ ns, ValidAttributes n.attributes := by
  have none : ∀ t, ValidAttributes (Node.text t).attributes := fun _ =>
    (by decide : ValidAttributes [])
  induction content with
  | nil => simp
  | @text raw cs rest ns nonempty plain read ended more ih =>
    intro n member
    rcases List.mem_append.mp member with here | later
    · obtain ⟨t, rfl⟩ : ∃ t, n = .text t := by
        unfold stretchNodes at here
        split at here
        · cases here
        · exact ⟨_, List.mem_singleton.mp here⟩
      exact none t
    · exact ih n later
  | cdata clean more ih => exact List.forall_mem_cons.mpr ⟨none _, ih⟩
  | comment clean more ih => exact ih
  | instruction nonempty plain more ih => exact ih
  | empty named admitted written more ih => exact List.forall_mem_cons.mpr ⟨admitted, ih⟩
  | element named admitted written inner blank more _ ih =>
    exact List.forall_mem_cons.mpr ⟨admitted, ih⟩

theorem take_raw (b : Builder) {raw cs : List Char} (read : unescape raw = .ok cs) :
    b.take (.text raw) = .ok ((stretchNodes cs).foldl Builder.attach b) := by
  cases blank : Text.allBlank cs with
  | false =>
    rw [take_event b (e := .text (String.ofList cs))]
    · simp [Builder.push, stretchNodes, blank]
    · simp [Token.event?, textEvent?, read, blank]
  | true =>
    have silent : (Token.text raw).event? = .ok none := by
      simp [Token.event?, textEvent?, read, blank]
    rw [Builder.take, silent, stretchNodes, blank]
    rfl

/-- The induction is on the content: its first piece is taken by the tree under construction, an
element once what is inside of it has been read. -/
theorem Content.read {ns : List Node} {cs : List Char} (content : Content ns cs) (b : Builder)
    (after : List Char) (markup : ∀ c ∈ after.head?, c = '<') :
    readInto b (cs ++ after) = readInto (ns.foldl Builder.attach b) after := by
  induction content generalizing b after with
  | nil => rfl
  | @text raw cs rest ns nonempty plain read ended more ih =>
    -- A stretch of text ends where markup begins, be it in the content or behind it.
    have stops : ∀ c ∈ (rest ++ after).head?, c = '<' := by
      cases rest with
      | nil => exact markup
      | cons c rest => simpa using ended
    rw [List.append_assoc, List.foldl_append, ← ih _ after markup]
    exact readInto_token (text_scanned raw _ nonempty plain stops) (take_raw b read)
  | @cdata content rest ns clean more ih =>
    have taken : b.take (.cdata content) = .ok (b.attach (.text (String.ofList content))) :=
      take_event b (e := .text (String.ofList content)) rfl
    rw [List.foldl_cons, ← ih _ after markup]
    exact readInto_token (by simpa using cdata_scanned clean (rest ++ after)) taken
  | @comment content rest ns clean more ih =>
    rw [← ih _ after markup]
    exact readInto_token (by simpa using comment_scanned clean (rest ++ after)) rfl
  | @instruction content rest ns nonempty plain more ih =>
    rw [← ih _ after markup]
    exact readInto_token (by simpa using instruction_scanned nonempty plain (rest ++ after)) rfl
  | empty named admitted written more ih =>
    rw [List.foldl_cons, ← ih _ after markup, List.append_assoc]
    exact emptyElement_read named admitted written b _
  | element named admitted written inner blank more ihInside ih =>
    have inside := fun b rest => ihInside b ('<' :: rest) (by simp)
    rw [List.foldl_cons, ← ih _ after markup, List.append_assoc]
    exact element_read named admitted written blank inside b _

theorem Content.parsed {ns : List Node} {cs : List Char} (content : Content ns cs)
    (unmarked : cs.head? ≠ some '\uFEFF') : Node.read cs = .ok (.document ns) := by
  have whole := content.read .fresh [] (by simp)
  rw [List.append_nil, Builder.fresh, foldl_attach_roots] at whole
  rw [Node.read, scan, withoutMark_eq unmarked]
  exact whole.trans (by simp [readInto, scanFrom, Mode.fresh, Mode.finish, Builder.finish])

end ExtensionAdmin.Xml
