import ExtensionAdmin.Proofs.Xml.Tag
import ExtensionAdmin.Xml.Token

/-! Tokens are scanned as they were spelled. A text goes on up to the next `<`, a tag up to its `>`
outside of quotes, a comment up to the first `-->`, a character data section up to the first `]]>`.
So each piece of a document that is spelled as one token is that token, and the scan goes on fresh
after it. -/

namespace ExtensionAdmin.Xml

attribute [local simp] scanFrom

/-- In a mode that only extends its token, a run of characters is held, newest first. Whether a
character extends the token may depend on what stands before it. -/
theorem scanFrom_held (mode : List Char → Mode) (cs rest seen : List Char)
    (held : ∀ before c after, cs = before ++ c :: after →
      (mode (before.reverse ++ seen)).step c = .continue (mode (c :: (before.reverse ++ seen)))) :
    scanFrom (mode seen) (cs ++ rest) = scanFrom (mode (cs.reverse ++ seen)) rest := by
  induction cs generalizing seen with
  | nil => rfl
  | cons c cs ih =>
    have here : (mode seen).step c = .continue (mode (c :: seen)) := held [] c cs rfl
    have later := ih (c :: seen) fun before d after split => by
      simpa using held (c :: before) d after (by rw [split, List.cons_append])
    simp [here, later]

theorem scanFrom_run (mode : List Char → Mode) (cs rest : List Char)
    (held : ∀ c ∈ cs, ∀ seen, (mode seen).step c = .continue (mode (c :: seen)))
    (seen : List Char) :
    scanFrom (mode seen) (cs ++ rest) = scanFrom (mode (cs.reverse ++ seen)) rest :=
  scanFrom_held mode cs rest seen fun _ c _ split => held c (by simp [split]) _

/-- A mode that only one character ends holds all others. -/
theorem scanFrom_upto (mode : List Char → Mode) (mark : Char)
    (held : ∀ c, c ≠ mark → ∀ seen, (mode seen).step c = .continue (mode (c :: seen)))
    {cs : List Char} (plain : mark ∉ cs) (rest seen : List Char) :
    scanFrom (mode seen) (cs ++ rest) = scanFrom (mode (cs.reverse ++ seen)) rest :=
  scanFrom_run mode cs rest (fun c member => held c fun same => plain (same ▸ member)) seen

/-- A text that markup or the end follows is one token. -/
theorem text_scanned (cs rest : List Char) (nonempty : cs ≠ []) (plain : '<' ∉ cs)
    (ended : ∀ c ∈ rest.head?, c = '<') :
    scanFrom .fresh (cs ++ rest) = (scanFrom .fresh rest).cons (.text cs) := by
  have run := scanFrom_upto .text '<' (fun c other seen => by simp [Mode.step, other]) plain rest []
  rw [Mode.fresh, run]
  cases rest with
  | nil => simp [Mode.finish, Scan.cons, nonempty]
  | cons c rest =>
    obtain rfl : c = '<' := ended c rfl
    simp [Mode.step, nonempty]

/-- Characters that a tag goes on with, outside of quotes before them and after them. -/
def Enclosed (cs : List Char) : Prop :=
  ∀ seen rest, scanFrom (.tag seen none) (cs ++ rest) = scanFrom (.tag (cs.reverse ++ seen) none) rest

theorem Enclosed.append {as bs : List Char} (left : Enclosed as) (right : Enclosed bs) :
    Enclosed (as ++ bs) := by
  intro seen rest
  rw [List.append_assoc, left, right, List.reverse_append, List.append_assoc]

theorem enclosed_plain {cs : List Char} (plain : ∀ c ∈ cs, c ∉ ['>', '"', '\'']) : Enclosed cs := by
  intro seen rest
  apply scanFrom_run (.tag · none)
  intro c member seen
  have other := plain c member
  simp_all [Mode.step, tagStep]

theorem enclosed_quoted {quote : Char} (mark : quote ∈ ['"', '\'']) {cs : List Char}
    (inside : quote ∉ cs) : Enclosed (quote :: cs ++ [quote]) := by
  intro seen rest
  have opened : (Mode.tag seen none).step quote = .continue (.tag (quote :: seen) (some quote)) := by
    simp only [List.mem_cons, List.not_mem_nil, or_false] at mark
    rcases mark with rfl | rfl <;> rfl
  have run := scanFrom_upto (.tag · (some quote)) quote
    (fun c other seen => by simp [Mode.step, tagStep, other]) inside (quote :: rest) (quote :: seen)
  have closed : (Mode.tag (cs.reverse ++ quote :: seen) (some quote)).step quote =
      .continue (.tag (quote :: (cs.reverse ++ quote :: seen)) none) := by
    simp [Mode.step, tagStep]
  simp [opened, run, closed]

theorem Gap.enclosed {gap : List Char} (blank : Gap gap) : Enclosed gap := by
  apply enclosed_plain
  intro c member mark
  have plain : Text.isSeparator c = false := by
    simp only [List.mem_cons, List.not_mem_nil, or_false] at mark
    rcases mark with rfl | rfl | rfl <;> rfl
  simp [blank c member] at plain

theorem ValidName.enclosed {name : String} (valid : ValidName name) : Enclosed name.toList := by
  have among : ['>', '"', '\''] ⊆ delimiters := by decide
  exact enclosed_plain fun c member mark => valid.2 c member (among mark)

theorem WrittenAttribute.enclosed {a : Attribute} {cs : List Char}
    (written : WrittenAttribute a cs) (valid : ValidName a.1) : Enclosed cs := by
  obtain ⟨gap, before, after, raw, quote, -, blank, blankBefore, blankAfter, mark, inside, -⟩ :=
    written
  have parts : gap ++ a.1.toList ++ before ++ '=' :: after ++ quote :: raw ++ [quote] =
      gap ++ a.1.toList ++ before ++ ['='] ++ after ++ (quote :: raw ++ [quote]) := by
    simp
  rw [parts]
  have equals : Enclosed ['='] := enclosed_plain (by simp)
  have value := enclosed_quoted mark inside
  exact ((((blank.enclosed.append valid.enclosed).append blankBefore.enclosed).append
    equals).append blankAfter.enclosed).append value

theorem WrittenAttributes.enclosed {attributes : List Attribute} {cs : List Char}
    (written : WrittenAttributes attributes cs) (names : ∀ a ∈ attributes, ValidName a.1) :
    Enclosed cs := by
  induction written with
  | nil blank => exact blank.enclosed
  | cons first others ih =>
    obtain ⟨here, after⟩ := List.forall_mem_cons.mp names
    exact (first.enclosed here).append (ih after)

/-- Attributes end with a quote or with white space. -/
theorem WrittenAttributes.last {attributes : List Attribute} {cs : List Char}
    (written : WrittenAttributes attributes cs) : cs.getLast? ≠ some '/' := by
  induction written with
  | nil blank =>
    intro slash
    exact absurd (blank '/' (List.mem_of_getLast? slash)) (by decide)
  | @cons a rest cs ds first others ih =>
    rw [List.getLast?_append]
    cases ended : ds.getLast? with
    | some c => simpa [ended] using ih
    | none =>
      obtain ⟨gap, before, after, raw, quote, -, -, -, -, mark, -, -⟩ := first
      rw [Option.none_or, List.getLast?_concat]
      simp only [List.mem_cons, List.not_mem_nil, or_false] at mark
      rcases mark with rfl | rfl <;> simp

section Written

variable {name : String} {attributes : List Attribute} {content : List Char}

theorem tag_opened (named : ValidName name) (written : WrittenTag name attributes content)
    (rest : List Char) : scanFrom .fresh ('<' :: content ++ rest) =
      scanFrom (.tag [] none) (content ++ rest) := by
  obtain ⟨ds, -, rfl⟩ := written
  obtain ⟨c, cs, letters⟩ := named.toList_eq
  have plain := named.2 c (by simp [letters])
  simp only [delimiters, List.mem_cons, not_or] at plain
  simp [letters, Mode.step, Mode.fresh, plain]

theorem tag_enclosed (named : ValidName name) (admitted : ValidAttributes attributes)
    (written : WrittenTag name attributes content) : Enclosed content := by
  obtain ⟨cs, written, rfl⟩ := written
  exact named.enclosed.append (written.enclosed admitted.1)

/-- The inside of a tag never ends with a slash: it ends with a name or as attributes do. -/
theorem tagToken_written (named : ValidName name) (written : WrittenTag name attributes content) :
    tagToken content.reverse = .start content := by
  have ending : content.reverse.head? ≠ some '/' := by
    obtain ⟨cs, written, rfl⟩ := written
    rw [List.head?_reverse, List.getLast?_append]
    have last := written.last
    cases ended : cs.getLast? with
    | some c => simpa [ended] using last
    | none =>
      rw [Option.none_or]
      intro slash
      exact named.2 '/' (List.mem_of_getLast? slash) (by decide)
  unfold tagToken
  split
  · simp_all
  · simp

theorem startTag_scanned (named : ValidName name) (admitted : ValidAttributes attributes)
    (written : WrittenTag name attributes content) (rest : List Char) :
    scanFrom .fresh ('<' :: content ++ '>' :: rest) =
      (scanFrom .fresh rest).cons (.start content) := by
  rw [tag_opened named written, tag_enclosed named admitted written]
  simp [Mode.step, tagStep, tagToken_written named written]

theorem emptyTag_scanned (named : ValidName name) (admitted : ValidAttributes attributes)
    (written : WrittenTag name attributes content) (rest : List Char) :
    scanFrom .fresh ('<' :: content ++ '/' :: '>' :: rest) =
      (scanFrom .fresh rest).cons (.empty content) := by
  rw [tag_opened named written, tag_enclosed named admitted written]
  simp [Mode.step, tagStep, tagToken]

end Written

theorem endTag_scanned {name : String} (named : ValidName name) {gap : List Char}
    (blank : Gap gap) (rest : List Char) :
    scanFrom .fresh ('<' :: '/' :: name.toList ++ gap ++ '>' :: rest) =
      (scanFrom .fresh rest).cons (.close (name.toList ++ gap)) := by
  have inside : '>' ∉ name.toList ++ gap := by
    intro member
    rcases List.mem_append.mp member with letter | space
    · exact named.2 '>' letter (by decide)
    · exact absurd (blank '>' space) (by decide)
  have run := scanFrom_upto .closing '>' (fun c other seen => by simp [Mode.step, other]) inside
    ('>' :: rest) []
  simp only [List.append_assoc] at run
  simp [Mode.step, Mode.fresh, run]

theorem instruction_scanned {content : List Char} (nonempty : content ≠ []) (plain : '>' ∉ content)
    (rest : List Char) :
    scanFrom .fresh ('<' :: '?' :: content ++ '?' :: '>' :: rest) =
      (scanFrom .fresh rest).cons (.instruction content) := by
  have run := scanFrom_upto .instruction '>' (fun c other seen => by simp [Mode.step, other]) plain
    ('?' :: '>' :: rest) []
  have token : instructionToken ('?' :: content.reverse) = .ok (.instruction content) := by
    obtain ⟨c, seen, held⟩ := List.exists_cons_of_ne_nil
      (fun empty => nonempty (List.reverse_eq_nil_iff.mp empty))
    rw [held, instructionToken, ← held, List.reverse_reverse]
  simp [Mode.step, Mode.fresh, run, token, Step.ofToken]

/-- What is read newest first ends with what stands on top. -/
theorem suffix_of_reverse {cs rest : List Char} (top : List Char) (held : cs.reverse = top ++ rest) :
    top.reverse <:+ cs :=
  ⟨rest.reverse, by rw [← List.reverse_append, ← held, List.reverse_reverse]⟩

/-- A comment ends at the first `-->` after its `<!--`, and no part of its content is one. -/
theorem comment_scanned {content : List Char} (clean : ¬['-', '-'] <:+: content)
    (rest : List Char) :
    scanFrom .fresh ('<' :: '!' :: '-' :: '-' :: content ++ '-' :: '-' :: '>' :: rest) =
      (scanFrom .fresh rest).cons (.comment content) := by
  have run := scanFrom_held .comment content ('-' :: '-' :: '>' :: rest) ['-', '-'] <| by
    rintro before c after rfl
    have inside : ¬(4 ≤ (before.reverse ++ ['-', '-']).length ∧
        (before.reverse ++ ['-', '-']).take 2 = ['-', '-']) := by
      rintro ⟨long, dashes⟩
      match held : before.reverse, long, dashes with
      | x :: y :: others, _, dashes =>
        obtain ⟨rfl, rfl⟩ : x = '-' ∧ y = '-' := by simpa using dashes
        have ending : ['-', '-'] <:+ before := suffix_of_reverse ['-', '-'] held
        exact clean (ending.isInfix.trans (List.prefix_append _ _).isInfix)
    simp only [Mode.step]
    rw [if_neg (by simpa [and_assoc] using fun _ => not_and.mp inside)]
  have token : commentToken ('-' :: '-' :: (content.reverse ++ ['-', '-'])) =
      .ok (.comment content) := by
    simp [commentToken]
  have opened : scanFrom .fresh ('<' :: '!' :: '-' :: '-' :: content ++ '-' :: '-' :: '>' :: rest) =
      scanFrom (.comment ['-', '-']) (content ++ '-' :: '-' :: '>' :: rest) := by
    simp [Mode.step, Mode.fresh]
  rw [opened, run]
  simp [Mode.step, token, Step.ofToken]

def cdataMark : List Char :=
  ['[', 'C', 'D', 'A', 'T', 'A', '[']

/-- A character data section ends at its first `]]>`, and no part of its content is one. -/
theorem cdata_scanned {content : List Char} (clean : ¬[']', ']', '>'] <:+: content)
    (rest : List Char) :
    scanFrom .fresh ('<' :: '!' :: cdataMark ++ content ++ ']' :: ']' :: '>' :: rest) =
      (scanFrom .fresh rest).cons (.cdata content) := by
  have run := scanFrom_held .cdata content (']' :: ']' :: '>' :: rest) cdataMark.reverse <| by
    rintro before c after rfl
    have inside : ¬(c = '>' ∧ (before.reverse ++ cdataMark.reverse).take 2 = [']', ']']) := by
      rintro ⟨rfl, brackets⟩
      match held : before.reverse, brackets with
      | x :: y :: others, brackets =>
        obtain ⟨rfl, rfl⟩ : x = ']' ∧ y = ']' := by simpa [cdataMark] using brackets
        have ending : [']', ']'] <:+ before := suffix_of_reverse [']', ']'] held
        obtain ⟨first, rfl⟩ := ending
        exact clean ⟨first, after, by simp⟩
    simp only [Mode.step]
    rw [if_neg (by simpa using inside)]
  have token : cdataToken (']' :: ']' :: (content.reverse ++ cdataMark.reverse)) =
      .ok (.cdata content) := by
    simp [cdataToken, cdataMark, Text.lowered]
    decide
  have opened : scanFrom .fresh ('<' :: '!' :: cdataMark ++ content ++ ']' :: ']' :: '>' :: rest) =
      scanFrom (.cdata cdataMark.reverse) (content ++ ']' :: ']' :: '>' :: rest) := by
    simp [Mode.step, Mode.fresh, cdataMark]
  rw [opened, run]
  simp [Mode.step, token, Step.ofToken]

end ExtensionAdmin.Xml
