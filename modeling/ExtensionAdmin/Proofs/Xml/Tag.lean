import ExtensionAdmin.Proofs.Xml.Escape
import ExtensionAdmin.Xml.Node

/-! Tags are read as they were written. A name that holds no delimiter ends where its tag's
attributes begin, and an attribute is read up to its closing quote. So a tag gives back its name and
its attributes, whatever separators stand between them and whichever quotes are used; the tag that
is written for an element is one such tag. -/

namespace ExtensionAdmin.Xml

def delimiters : List Char :=
  [' ', '\t', '\r', '\n', '<', '>', '/', '=', '\'', '"', '&', '!', '?']

def ValidName (name : String) : Prop :=
  name ≠ "" ∧ ∀ c ∈ name.toList, c ∉ delimiters

/-- Attributes that one tag can hold: with valid names, each used once. Their values may be any
text. -/
def ValidAttributes (attributes : List Attribute) : Prop :=
  (∀ a ∈ attributes, ValidName a.1) ∧ (attributes.map Prod.fst).Nodup

instance (name : String) : Decidable (ValidName name) :=
  @instDecidableAnd _ _ _ (List.decidableBAll _ name.toList)

instance (attributes : List Attribute) : Decidable (ValidAttributes attributes) :=
  inferInstanceAs (Decidable (_ ∧ _))

namespace ValidName

variable {name : String}

theorem separator (valid : ValidName name) {c : Char} (member : c ∈ name.toList) :
    Text.isSeparator c = false := by
  have plain := valid.2 c member
  simp only [delimiters, List.mem_cons, not_or] at plain
  simp [Text.isSeparator, plain]

theorem toList_eq (valid : ValidName name) : ∃ c cs, name.toList = c :: cs :=
  List.exists_cons_of_ne_nil fun empty => valid.1 (String.toList_eq_nil_iff.mp empty)

end ValidName

def Gap (cs : List Char) : Prop :=
  ∀ c ∈ cs, Text.isSeparator c = true

instance (cs : List Char) : Decidable (Gap cs) :=
  List.decidableBAll _ cs

/-- An attribute with white space before it, perhaps more around its equals sign, and its value
escaped between quotes of either kind. -/
inductive SpelledAttribute (a : Attribute) : List Char → Prop
  | quoted (gap before after : List Char) (quote : Char) (apart : gap ≠ []) (blank : Gap gap)
      (blankBefore : Gap before) (blankAfter : Gap after) (mark : quote ∈ ['"', '\'']) :
      SpelledAttribute a
        (gap ++ a.1.toList ++ before ++ '=' :: after ++ quote :: escape a.2.toList ++ [quote])

inductive SpelledAttributes : List Attribute → List Char → Prop
  | nil {gap : List Char} (blank : Gap gap) : SpelledAttributes [] gap
  | cons {a : Attribute} {rest : List Attribute} {cs ds : List Char}
      (first : SpelledAttribute a cs) (others : SpelledAttributes rest ds) :
      SpelledAttributes (a :: rest) (cs ++ ds)

def SpelledTag (name : String) (attributes : List Attribute) (content : List Char) : Prop :=
  ∃ cs, SpelledAttributes attributes cs ∧ content = name.toList ++ cs

/-- An attribute whose value stands between quotes of either kind in any way in which it is read,
with references for as many of its characters as one likes. -/
inductive WrittenAttribute (a : Attribute) : List Char → Prop
  | quoted (gap before after raw : List Char) (quote : Char) (apart : gap ≠ []) (blank : Gap gap)
      (blankBefore : Gap before) (blankAfter : Gap after) (mark : quote ∈ ['"', '\''])
      (inside : quote ∉ raw) (read : unescape raw = .ok a.2.toList) :
      WrittenAttribute a
        (gap ++ a.1.toList ++ before ++ '=' :: after ++ quote :: raw ++ [quote])

inductive WrittenAttributes : List Attribute → List Char → Prop
  | nil {gap : List Char} (blank : Gap gap) : WrittenAttributes [] gap
  | cons {a : Attribute} {rest : List Attribute} {cs ds : List Char}
      (first : WrittenAttribute a cs) (others : WrittenAttributes rest ds) :
      WrittenAttributes (a :: rest) (cs ++ ds)

def WrittenTag (name : String) (attributes : List Attribute) (content : List Char) : Prop :=
  ∃ cs, WrittenAttributes attributes cs ∧ content = name.toList ++ cs

theorem SpelledAttribute.written {a : Attribute} {cs : List Char}
    (spelled : SpelledAttribute a cs) : WrittenAttribute a cs := by
  obtain ⟨gap, before, after, quote, apart, blank, blankBefore, blankAfter, mark⟩ := spelled
  have special : ['"', '\''] ⊆ ['<', '>', '\'', '"'] := by decide
  exact .quoted gap before after _ quote apart blank blankBefore blankAfter mark
    (not_mem_escape (special mark) _) (unescape_escape _)

theorem SpelledAttributes.written {attributes : List Attribute} {cs : List Char}
    (spelled : SpelledAttributes attributes cs) : WrittenAttributes attributes cs := by
  induction spelled with
  | nil blank => exact .nil blank
  | cons first others ih => exact .cons first.written ih

theorem SpelledTag.written {name : String} {attributes : List Attribute} {content : List Char}
    (spelled : SpelledTag name attributes content) : WrittenTag name attributes content := by
  obtain ⟨cs, attributes, rfl⟩ := spelled
  exact ⟨cs, attributes.written, rfl⟩

theorem renderAttribute_spelled (a : Attribute) : SpelledAttribute a (renderAttribute a) := by
  have spelled : SpelledAttribute a _ := .quoted [' '] [] [] '"' (by simp) (by decide) (by decide)
    (by decide) (by decide)
  simpa [renderAttribute] using spelled

theorem tagContent_spelled (name : String) (attributes : List Attribute) :
    SpelledTag name attributes (tagContent name attributes) := by
  refine ⟨attributes.flatMap renderAttribute, ?_, rfl⟩
  induction attributes with
  | nil => exact .nil (by decide)
  | cons a rest ih => exact .cons (renderAttribute_spelled a) ih

attribute [local simp] attributesFrom

theorem gap_read {known : List (List Char × Nat)} {mode : TagMode}
    (skips : ∀ pos c cs, Text.isSeparator c = true →
      attributesFrom known pos mode (c :: cs) = attributesFrom known (pos + c.utf8Size) mode cs)
    {gap : List Char} (blank : Gap gap) (rest : List Char) (pos : Nat) :
    attributesFrom known pos mode (gap ++ rest) =
      attributesFrom known (pos + Text.byteLength gap) mode rest := by
  induction gap generalizing pos with
  | nil => rfl
  | cons c gap ih =>
    obtain ⟨here, after⟩ := List.forall_mem_cons.mp blank
    simp [skips pos c (gap ++ rest) here, ih after, Text.byteLength, Nat.add_assoc]

theorem key_read (known : List (List Char × Nat)) (start : Nat) (cs rest : List Char)
    (plain : ∀ c ∈ cs, c ≠ '=' ∧ Text.isSeparator c = false) (pos : Nat) (seen : List Char) :
    attributesFrom known pos (.key start seen) (cs ++ rest) =
      attributesFrom known (pos + Text.byteLength cs) (.key start (cs.reverse ++ seen)) rest := by
  induction cs generalizing pos seen with
  | nil => rfl
  | cons c cs ih =>
    obtain ⟨here, after⟩ := List.forall_mem_cons.mp plain
    simp [here, ih after, Text.byteLength, Nat.add_assoc]

theorem value_read (known : List (List Char × Nat)) (start : Nat) (key : List Char) (q : Char)
    (cs rest : List Char) (inside : q ∉ cs) (pos : Nat) (seen : List Char) :
    attributesFrom known pos (.value start key q seen) (cs ++ rest) =
      attributesFrom known (pos + Text.byteLength cs) (.value start key q (cs.reverse ++ seen))
        rest := by
  induction cs generalizing pos seen with
  | nil => rfl
  | cons c cs ih =>
    obtain ⟨here, after⟩ := List.ne_and_not_mem_of_not_mem_cons inside
    simp [Ne.symm here, ih after, Text.byteLength, Nat.add_assoc]

theorem firstUse?_eq_none {key : List Char} {known : List (List Char × Nat)}
    (unused : key ∉ known.map Prod.fst) : firstUse? key known = none := by
  simp only [firstUse?, Option.map_eq_none_iff, List.find?_eq_none]
  intro k member same
  exact unused (List.mem_map.mpr ⟨k, member, by simpa using same⟩)

theorem between_read (known : List (List Char × Nat)) {gap : List Char} (blank : Gap gap)
    (rest : List Char) (pos : Nat) :
    attributesFrom known pos .between (gap ++ rest) =
      attributesFrom known (pos + Text.byteLength gap) .between rest := by
  refine gap_read (fun pos c cs separator => ?_) blank rest pos
  simp [separator]

/-- After white space a name begins, and goes on up to its last character. -/
theorem key_begun (known : List (List Char × Nat)) {name : String} (valid : ValidName name)
    {gap : List Char} (blank : Gap gap) (rest : List Char) (pos : Nat) :
    ∃ start next, attributesFrom known pos .between (gap ++ name.toList ++ rest) =
      attributesFrom known next (.key start name.toList.reverse) rest := by
  obtain ⟨c, cs, spelled⟩ := valid.toList_eq
  have plain : ∀ x ∈ name.toList, x ≠ '=' ∧ Text.isSeparator x = false := fun x member =>
    ⟨fun same => valid.2 x member (by simp [delimiters, same]), valid.separator member⟩
  rw [spelled] at plain ⊢
  obtain ⟨first, others⟩ := List.forall_mem_cons.mp plain
  refine ⟨pos + Text.byteLength gap,
    pos + Text.byteLength gap + c.utf8Size + Text.byteLength cs, ?_⟩
  rw [List.append_assoc, between_read known blank, List.cons_append, attributesFrom, first.2,
    if_neg (by simp), key_read _ _ cs _ others, List.reverse_cons]

/-- A name that is new is taken at its equals sign, with white space before that or not. -/
theorem equals_read {known : List (List Char × Nat)} {key : List Char}
    (unused : key ∉ known.map Prod.fst) {before : List Char} (blank : Gap before)
    (rest : List Char) (start pos : Nat) :
    ∃ next, attributesFrom known pos (.key start key.reverse) (before ++ '=' :: rest) =
      attributesFrom known next (.afterEquals start key) rest := by
  have new := firstUse?_eq_none unused
  have unlike : ∀ c, Text.isSeparator c = true → c ≠ '=' := by
    rintro c separator rfl
    exact absurd separator (by decide)
  -- The first white space ends the name, and any more is skipped behind it.
  cases before with
  | nil => exact ⟨pos + '='.utf8Size, by simp [new]⟩
  | cons c before =>
    obtain ⟨here, after⟩ := List.forall_mem_cons.mp blank
    have skips : ∀ pos c cs, Text.isSeparator c = true →
        attributesFrom known pos (.afterKey start key) (c :: cs) =
          attributesFrom known (pos + c.utf8Size) (.afterKey start key) cs := by
      intro pos c cs separator
      simp [separator, unlike c separator]
    have ended : attributesFrom known pos (.key start key.reverse) (c :: before ++ '=' :: rest) =
        attributesFrom known (pos + c.utf8Size) (.afterKey start key) (before ++ '=' :: rest) := by
      simp [here, unlike c here]
    refine ⟨pos + c.utf8Size + Text.byteLength before + '='.utf8Size, ?_⟩
    rw [ended, gap_read skips after]
    simp [new]

theorem quoted_read (known : List (List Char × Nat)) (start : Nat) (key : List Char)
    {quote : Char} (mark : quote ∈ ['"', '\'']) {after value : List Char} (blank : Gap after)
    (inside : quote ∉ value) (rest : List Char) (pos : Nat) :
    ∃ next, attributesFrom known pos (.afterEquals start key)
        (after ++ quote :: value ++ [quote] ++ rest) =
      (attributesFrom (known ++ [(key, start)]) next .between rest).cons ⟨key, start, value⟩ := by
  have skips : ∀ pos c cs, Text.isSeparator c = true →
      attributesFrom known pos (.afterEquals start key) (c :: cs) =
        attributesFrom known (pos + c.utf8Size) (.afterEquals start key) cs := by
    intro pos c cs separator
    simp [separator]
  have opened : attributesFrom known (pos + Text.byteLength after) (.afterEquals start key)
      (quote :: (value ++ quote :: rest)) =
        attributesFrom known (pos + Text.byteLength after + quote.utf8Size)
          (.value start key quote []) (value ++ quote :: rest) := by
    simp only [List.mem_cons, List.not_mem_nil, or_false] at mark
    rcases mark with rfl | rfl <;> simp [Text.isSeparator]
  refine ⟨pos + Text.byteLength after + quote.utf8Size + Text.byteLength value + quote.utf8Size, ?_⟩
  simp only [List.append_assoc, List.cons_append, List.nil_append]
  rw [gap_read skips blank, opened, value_read _ _ _ _ _ _ inside]
  simp

/-- An attribute with a new name is read up to its closing quote, and its value as it stands
there. -/
theorem attribute_read (known : List (List Char × Nat)) {a : Attribute} {cs : List Char}
    (written : WrittenAttribute a cs) (valid : ValidName a.1)
    (unused : a.1.toList ∉ known.map Prod.fst) (pos : Nat) (rest : List Char) :
    ∃ start next raw, unescape raw = .ok a.2.toList ∧
      attributesFrom known pos .between (cs ++ rest) =
        (attributesFrom (known ++ [(a.1.toList, start)]) next .between rest).cons
          ⟨a.1.toList, start, raw⟩ := by
  obtain ⟨gap, before, after, raw, quote, -, blank, blankBefore, blankAfter, mark, inside, read⟩ :=
    written
  obtain ⟨start, pos₁, name⟩ := key_begun known valid blank
    (before ++ '=' :: (after ++ quote :: raw ++ [quote] ++ rest)) pos
  obtain ⟨pos₂, equals⟩ := equals_read unused blankBefore
    (after ++ quote :: raw ++ [quote] ++ rest) start pos₁
  obtain ⟨next, value⟩ := quoted_read known start a.1.toList mark blankAfter inside rest pos₂
  refine ⟨start, next, raw, read, ?_⟩
  rw [← value, ← equals, ← name]
  simp only [List.append_assoc, List.cons_append]

theorem decode_written (a : Attribute) (start : Nat) {raw : List Char}
    (read : unescape raw = .ok a.2.toList) :
    RawAttribute.decode ⟨a.1.toList, start, raw⟩ = .ok a := by
  simp [RawAttribute.decode, read]

theorem attributes_read {attributes : List Attribute} {cs : List Char}
    (written : WrittenAttributes attributes cs) (valid : ValidAttributes attributes)
    (known : List (List Char × Nat))
    (unused : ∀ a ∈ attributes, a.1.toList ∉ known.map Prod.fst) (pos : Nat) :
    (attributesFrom known pos .between cs).decode = .ok attributes := by
  -- What is read has no fault, and each value is decoded to what it was written for. The names that
  -- are known grow with each attribute, so they are any names that the attributes do not have.
  suffices ∃ raws, attributesFrom known pos .between cs = ⟨raws, none⟩ ∧
      raws.mapM RawAttribute.decode = .ok attributes by
    obtain ⟨raws, read, decoded⟩ := this
    simp [read, RawAttributes.decode, decoded]
  induction written generalizing known pos with
  | nil blank =>
    refine ⟨[], ?_, rfl⟩
    have skipped := between_read known blank [] pos
    rw [List.append_nil] at skipped
    rw [skipped, attributesFrom]
  | @cons a rest cs ds first others ih =>
    obtain ⟨names, once⟩ := valid
    obtain ⟨new, once⟩ := List.nodup_cons.mp once
    obtain ⟨start, next, raw, value, step⟩ := attribute_read known first
      (names a List.mem_cons_self) (unused a List.mem_cons_self) pos ds
    have later : ∀ b ∈ rest, b.1.toList ∉ (known ++ [(a.1.toList, start)]).map Prod.fst := by
      intro b member used
      rw [List.map_append, List.mem_append] at used
      rcases used with before | same
      · exact unused b (List.mem_cons_of_mem a member) before
      · have same : b.1 = a.1 := String.toList_inj.mp (by simpa using same)
        exact new (List.mem_map.mpr ⟨b, member, same⟩)
    obtain ⟨raws, read, decoded⟩ :=
      ih ⟨fun b member => names b (List.mem_cons_of_mem a member), once⟩ _ later next
    refine ⟨⟨a.1.toList, start, raw⟩ :: raws, ?_, ?_⟩
    · rw [step, read]
      rfl
    · rw [List.mapM_cons, decode_written a start value, decoded]
      rfl

/-- After the name of a tag comes nothing, or the white space before its first attribute. -/
theorem WrittenAttributes.head {attributes : List Attribute} {cs : List Char}
    (written : WrittenAttributes attributes cs) :
    ∀ c ∈ cs.head?, Text.isSeparator c = true := by
  intro c begins
  cases written with
  | nil blank => exact blank c (List.mem_of_mem_head? begins)
  | cons first others =>
    obtain ⟨gap, before, after, raw, quote, apart, blank⟩ := first
    obtain ⟨d, gap, rfl⟩ := List.exists_cons_of_ne_nil apart
    obtain rfl : d = c := by simpa using begins
    exact blank d List.mem_cons_self

section Written

variable {name : String} {attributes : List Attribute} {content : List Char}

theorem tagName_written (valid : ValidName name) (written : WrittenTag name attributes content) :
    tagName content = name.toList := by
  obtain ⟨cs, written, rfl⟩ := written
  have ended := written.head
  rw [tagName, List.takeWhile_append_of_pos (by simpa using fun c => valid.separator)]
  cases cs <;> simp_all

theorem tagRest_written (valid : ValidName name) {cs : List Char}
    (written : WrittenAttributes attributes cs) : tagRest (name.toList ++ cs) = cs := by
  have ended := written.head
  rw [tagRest, List.dropWhile_append_of_pos (by simpa using fun c => valid.separator)]
  cases cs <;> simp_all

theorem tagAttributes_written (valid : ValidName name) (admitted : ValidAttributes attributes)
    (written : WrittenTag name attributes content) : tagAttributes content = .ok attributes := by
  obtain ⟨cs, written, rfl⟩ := written
  rw [tagAttributes, rawAttributes, tagRest_written valid written]
  exact attributes_read written admitted [] (by simp) _

end Written

end ExtensionAdmin.Xml
