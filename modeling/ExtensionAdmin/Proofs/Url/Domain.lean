import ExtensionAdmin.Proofs.Url.LowerCase
import ExtensionAdmin.Proofs.Url.Percent
import ExtensionAdmin.Proofs.Url.Punycode

/-! Domains in ASCII, read once more. A domain that has been brought to ASCII is in lower case, and
a label of it stands for the same text as the label that it was written from. So it is read as it
is, as long as each of its encoded labels is short enough to be looked into. -/

namespace ExtensionAdmin.Url

open Text (isAscii splitOn)
open Domain (isCapital)

variable {c : Char} {cs name out label written text : List Char}

theorem normalized?_ascii (ascii : ∀ c ∈ cs, isAscii c = true)
    (lower : ∀ c ∈ cs, isCapital c.toNat = false) : Domain.normalized? cs = some cs := by
  have forms : ∀ c ∈ cs, Domain.form? c = some [c] := by
    intro c member
    rw [Domain.form?, if_pos (ascii c member), Domain.lowerAscii_eq (lower c member)]
  rw [Domain.normalized?_of_forms forms, Text.canonical, if_pos (List.all_eq_true.mpr ascii)]

/-- What an encoded label is written with: characters of its text, hyphens and digits. -/
theorem mem_punycode (short : label.length ≤ 1000) (member : c ∈ Punycode.encode label) :
    (c ∈ label ∧ isAscii c = true) ∨ c = '-' ∨ Punycode.IsDigit c := by
  obtain ⟨digits, last, wrote, reads, -⟩ := Punycode.encode_reads short
  rw [wrote, List.mem_append] at member
  rcases member with basic | digit
  · split at basic
    · cases basic
    · rcases List.mem_append.mp basic with basic | hyphen
      · exact Or.inl (List.mem_filter.mp basic)
      · exact Or.inr (Or.inl (List.mem_singleton.mp hyphen))
  · exact Or.inr (Or.inr (reads.digits c digit))

def isAdded (c : Char) : Bool :=
  isAscii c && !isCapital c.toNat && c != '.' && !isForbidden c

theorem isAdded_digit (digit : Punycode.IsDigit c) : isAdded c = true := by
  obtain ⟨d, small, rfl⟩ := digit
  have all : ∀ e ∈ List.range 36, isAdded (Punycode.digit e) = true := by decide
  exact all d (List.mem_range.mpr small)

theorem mem_asciiLabel? (found : asciiLabel? label = some written) (member : c ∈ written) :
    (c ∈ label ∧ isAscii c = true) ∨ isAdded c = true := by
  unfold asciiLabel? at found
  split at found
  case isTrue ascii =>
    cases found
    exact Or.inl ⟨member, List.all_eq_true.mp ascii c member⟩
  case isFalse =>
    split at found
    case isFalse => cases found
    case isTrue short =>
      cases found
      rcases List.mem_append.mp member with mark | encoded
      · have all : ∀ d ∈ ['x', 'n', '-', '-'], isAdded d = true := List.all_eq_true.mp (by decide)
        exact Or.inr (all c mark)
      · rcases mem_punycode short encoded with kept | rfl | digit
        · exact Or.inl kept
        · exact Or.inr (by decide)
        · exact Or.inr (isAdded_digit digit)

theorem asciiLabel?_ascii (found : asciiLabel? label = some written) :
    written.all isAscii = true := by
  refine List.all_eq_true.mpr fun c member => ?_
  rcases mem_asciiLabel? found member with ⟨-, ascii⟩ | added
  · exact ascii
  · simp only [isAdded, Bool.and_eq_true] at added
    exact added.1.1.1

/-- Whether a label is encoded and too long to be looked into. -/
def isOverlongLabel (label : List Char) : Bool := isEncodedLabel label && 2004 < label.length

theorem decodeLabel?_overlong (long : 2004 < label.length) : decodeLabel? label = none := by
  rw [decodeLabel?, if_neg]
  simp [Nat.not_le.mpr long]

theorem labelText?_overlong (long : isOverlongLabel label = true) : labelText? label = none := by
  rw [isOverlongLabel, Bool.and_eq_true, decide_eq_true_iff] at long
  rw [labelText?, if_pos long.1, decodeLabel?_overlong long.2]

/-- The text of an encoded label is what it was encoded from. -/
theorem labelText?_encode (short : label.length ≤ 1000) (beyond : label.all isAscii = false)
    (ascii : (['x', 'n', '-', '-'] ++ Punycode.encode label).all isAscii = true)
    (fits : isOverlongLabel (['x', 'n', '-', '-'] ++ Punycode.encode label) = false) :
    labelText? (['x', 'n', '-', '-'] ++ Punycode.encode label) = some label := by
  have encoded : isEncodedLabel (['x', 'n', '-', '-'] ++ Punycode.encode label) = true := rfl
  have room : (['x', 'n', '-', '-'] ++ Punycode.encode label).length ≤ 2004 := by
    rw [isOverlongLabel, encoded, Bool.true_and, decide_eq_false_iff_not] at fits
    omega
  have body : (['x', 'n', '-', '-'] ++ Punycode.encode label).drop 4 = Punycode.encode label := rfl
  have back : (label.map Char.toNat).map Char.ofNat = label := by
    simp [Function.comp_def]
  rw [labelText?, if_pos encoded, decodeLabel?, if_pos (by simp only [ascii, room]; decide), body,
    Punycode.decode?_encode short, Option.map_some, back, Option.filter_some, if_pos]
  simp [beyond]

/-- A label that is written in ASCII stands for the text of the label that it was written from. -/
theorem labelText?_again (found : labelText? label = some text)
    (wrote : asciiLabel? label = some written) (fits : isOverlongLabel written = false) :
    labelText? written = some text := by
  have ascii := asciiLabel?_ascii wrote
  unfold asciiLabel? at wrote
  split at wrote
  case isTrue =>
    cases wrote
    exact found
  case isFalse beyond =>
    split at wrote
    case isFalse => cases wrote
    case isTrue short =>
      cases wrote
      have same : label = text := by
        rw [labelText?] at found
        split at found
        · simp [decodeLabel?, beyond] at found
        · exact Option.some.inj found
      rw [← same]
      exact labelText?_encode short (Bool.eq_false_iff.mpr beyond) ascii fits

theorem asciiName?_eq_some : asciiName? name = some out ↔ ∃ texts labels,
    (splitOn '.' name).mapM labelText? = some texts ∧ texts.all isLabelText = true ∧
      Domain.directionsAgree texts = true ∧ (splitOn '.' name).mapM asciiLabel? = some labels ∧
      ['.'].intercalate labels = out ∧ out.any isForbidden = false := by
  unfold asciiName?
  simp only [Option.bind_eq_bind, Option.bind_eq_some_iff, Option.pure_def]
  constructor
  · rintro ⟨texts, read, checked⟩
    split at checked
    case isTrue => cases checked
    case isFalse fit =>
      obtain ⟨labels, wrote, checked⟩ := Option.bind_eq_some_iff.mp checked
      split at checked
      case isTrue => cases checked
      case isFalse allowed =>
        cases checked
        simp only [Bool.or_eq_true, Bool.not_eq_true', not_or, Bool.not_eq_false] at fit
        exact ⟨texts, labels, read, fit.1, fit.2, wrote, rfl, Bool.eq_false_iff.mpr allowed⟩
  · rintro ⟨texts, labels, read, fit, agree, wrote, rfl, allowed⟩
    refine ⟨texts, read, ?_⟩
    rw [if_neg (by simp [fit, agree])]
    exact Option.bind_eq_some_iff.mpr ⟨labels, wrote, by rw [if_neg (by simp [allowed])]⟩

structure IsPlain (name : List Char) : Prop where
  ascii : ∀ c ∈ name, isAscii c = true
  lower : ∀ c ∈ name, isCapital c.toNat = false
  allowed : ∀ c ∈ name, isForbidden c = false

def hasOverlongLabel (name : List Char) : Bool := (splitOn '.' name).any isOverlongLabel

variable {labels texts : List (List Char)}

theorem splitOn_written (wrote : (splitOn '.' name).mapM asciiLabel? = some labels) :
    splitOn '.' (['.'].intercalate labels) = labels := by
  have pairs := Fallible.mapM_eq_some.mp wrote
  refine Text.splitOn_intercalate ?_ ?_
  · rintro rfl
    exact Text.splitOn_ne_nil '.' name (List.forall₂_nil_right_iff.mp pairs)
  · intro written member dot
    obtain ⟨label, among, found⟩ := Fallible.paired_of_mem pairs member
    rcases mem_asciiLabel? found dot with ⟨kept, -⟩ | added
    · exact Text.not_mem_of_mem_splitOn among kept
    · exact absurd added (by decide)

theorem mem_written (wrote : (splitOn '.' name).mapM asciiLabel? = some labels)
    (member : c ∈ ['.'].intercalate labels) :
    (c ∈ name ∧ isAscii c = true) ∨ isAdded c = true ∨ c = '.' := by
  rcases Text.mem_intercalate.mp member with ⟨written, among, within⟩ | ⟨dot, -⟩
  · obtain ⟨label, part, found⟩ := Fallible.paired_of_mem (Fallible.mapM_eq_some.mp wrote) among
    rcases mem_asciiLabel? found within with ⟨kept, ascii⟩ | added
    · exact Or.inl ⟨Text.mem_of_mem_splitOn part kept, ascii⟩
    · exact Or.inr (Or.inl added)
  · exact Or.inr (Or.inr dot)

theorem asciiName?_plain (lower : ∀ c ∈ name, isCapital c.toNat = false)
    (found : asciiName? name = some out) : IsPlain out := by
  obtain ⟨texts, labels, -, -, -, wrote, rfl, allowed⟩ := asciiName?_eq_some.mp found
  have written : ∀ c ∈ ['.'].intercalate labels, isAscii c = true ∧ isCapital c.toNat = false := by
    intro c member
    rcases mem_written wrote member with ⟨kept, ascii⟩ | added | rfl
    · exact ⟨ascii, lower c kept⟩
    · simp only [isAdded, Bool.and_eq_true, Bool.not_eq_true'] at added
      exact added.1.1
    · decide
  exact ⟨fun c member => (written c member).1, fun c member => (written c member).2, fun c member =>
    Bool.eq_false_iff.mpr (List.any_eq_false.mp allowed c member)⟩

/-- Labels in ASCII stand for the texts of those that they were written from. -/
theorem mapM_labelText?_again {parts : List (List Char)} (read : parts.mapM labelText? = some texts)
    (wrote : parts.mapM asciiLabel? = some labels)
    (fit : ∀ label ∈ labels, isOverlongLabel label = false) :
    labels.mapM labelText? = some texts := by
  rw [Fallible.mapM_eq_some] at read wrote ⊢
  induction read generalizing labels with
  | nil =>
    cases wrote
    exact .nil
  | cons here later ih =>
    cases wrote with
    | cons first others =>
      obtain ⟨fits, fit⟩ := List.forall_mem_cons.mp fit
      exact .cons (labelText?_again here first fits) (ih others fit)

theorem mapM_asciiLabel?_again {parts : List (List Char)}
    (wrote : parts.mapM asciiLabel? = some labels) : labels.mapM asciiLabel? = some labels := by
  rw [Fallible.mapM_eq_some] at wrote ⊢
  refine List.forall₂_same.mpr fun label member => ?_
  obtain ⟨part, -, found⟩ := Fallible.paired_of_mem wrote member
  rw [asciiLabel?, if_pos (asciiLabel?_ascii found)]

theorem mapM_labelText?_overlong {label : List Char} (member : label ∈ labels)
    (long : isOverlongLabel label = true) : labels.mapM labelText? = none := by
  cases read : labels.mapM labelText? with
  | none => rfl
  | some texts =>
    obtain ⟨text, -, found⟩ := Fallible.mapM_some_mem read member
    rw [labelText?_overlong long] at found
    cases found

theorem asciiName?_again (found : asciiName? name = some out) :
    asciiName? out = if hasOverlongLabel out then none else some out := by
  obtain ⟨texts, labels, read, fit, agree, wrote, rfl, allowed⟩ := asciiName?_eq_some.mp found
  have parts := splitOn_written wrote
  rw [hasOverlongLabel, parts]
  split
  case isTrue long =>
    obtain ⟨label, member, long⟩ := List.any_eq_true.mp long
    rw [asciiName?, parts, mapM_labelText?_overlong member long]
    rfl
  case isFalse short =>
    have fits : ∀ label ∈ labels, isOverlongLabel label = false := by simpa using short
    refine asciiName?_eq_some.mpr ⟨texts, labels, ?_, fit, agree, ?_, rfl, allowed⟩
    · rw [parts]
      exact mapM_labelText?_again read wrote fits
    · rw [parts]
      exact mapM_asciiLabel?_again wrote

theorem asciiDomain_eq_ok {bytes : List Nat} : asciiDomain bytes = .ok out ↔
    ∃ cs, ofUtf8? bytes = some cs ∧ ∃ name, Domain.normalized? cs = some name ∧
      asciiName? name = some out := by
  have chain : asciiDomain bytes = .ok out ↔
      ((ofUtf8? bytes).bind Domain.normalized?).bind asciiName? = some out := by
    unfold asciiDomain
    cases ((ofUtf8? bytes).bind Domain.normalized?).bind asciiName? <;> simp
  rw [chain, Option.bind_assoc, Option.bind_eq_some_iff]
  simp only [Option.bind_eq_some_iff]

theorem asciiDomain_plain {bytes : List Nat} (found : asciiDomain bytes = .ok name) :
    IsPlain name := by
  obtain ⟨cs, -, formed, normalized, named⟩ := asciiDomain_eq_ok.mp found
  exact asciiName?_plain (Domain.normalized?_uncapital normalized) named

theorem decode_plain (plain : IsPlain name) : decode name = name.flatMap utf8 :=
  decode_unescaped fun c member escape => by
    have allowed := plain.allowed c member
    rw [escape] at allowed
    exact absurd allowed (by decide)

/-- A domain is read once more as it is, unless a label of it is too long by now. -/
theorem asciiDomain_again {bytes : List Nat} (found : asciiDomain bytes = .ok name) :
    asciiDomain (decode name) =
      if hasOverlongLabel name then .error .invalidDomain else .ok name := by
  have plain := asciiDomain_plain found
  obtain ⟨cs, -, formed, normalized, named⟩ := asciiDomain_eq_ok.mp found
  rw [decode_plain plain, asciiDomain, ofUtf8?_utf8, Option.bind_some,
    normalized?_ascii plain.ascii plain.lower, Option.bind_some, asciiName?_again named]
  cases hasOverlongLabel name <;> rfl

/-- A plain name without encoded labels is a domain as it is. -/
theorem asciiDomain_unencoded (plain : IsPlain name)
    (unencoded : ∀ label ∈ splitOn '.' name, isEncodedLabel label = false) :
    asciiDomain (decode name) = .ok name := by
  have ascii : ∀ label ∈ splitOn '.' name, label.all isAscii = true := fun label member =>
    List.all_eq_true.mpr fun c within => plain.ascii c (Text.mem_of_mem_splitOn member within)
  -- A label in ASCII that is not encoded is its own text and its own code, so the name passes each
  -- of the checks and comes back label by label.
  have texts : (splitOn '.' name).mapM labelText? = some (splitOn '.' name) := by
    refine Fallible.mapM_eq_some.mpr (List.forall₂_same.mpr fun label member => ?_)
    rw [labelText?, unencoded label member]
    rfl
  have labels : (splitOn '.' name).mapM asciiLabel? = some (splitOn '.' name) := by
    refine Fallible.mapM_eq_some.mpr (List.forall₂_same.mpr fun label member => ?_)
    rw [asciiLabel?, if_pos (ascii label member)]
  have fit : (splitOn '.' name).all isLabelText = true := by
    refine List.all_eq_true.mpr fun label member => ?_
    rw [isLabelText, ascii label member]
    rfl
  have unturned : ∀ label ∈ splitOn '.' name, ∀ c ∈ label, Domain.isFromRight c = false := by
    intro label member c within
    have low := List.all_eq_true.mp (ascii label member) c within
    rw [isAscii, decide_eq_true_iff] at low
    simp [Domain.isFromRight, Nat.not_le.mpr low]
  have agree : Domain.directionsAgree (splitOn '.' name) = true := by
    simp only [Domain.directionsAgree, Bool.or_eq_true, Bool.not_eq_true', List.any_eq_false]
    exact Or.inl fun label member turned => by
      obtain ⟨c, within, right⟩ := List.any_eq_true.mp turned
      rw [unturned label member c within] at right
      cases right
  have named : asciiName? name = some name :=
    asciiName?_eq_some.mpr ⟨_, _, texts, fit, agree, labels, Text.intercalate_splitOn '.' name,
      List.any_eq_false.mpr fun c member => Bool.eq_false_iff.mp (plain.allowed c member)⟩
  refine asciiDomain_eq_ok.mpr ⟨name, ?_, name, normalized?_ascii plain.ascii plain.lower, named⟩
  rw [decode_plain plain, ofUtf8?_utf8]

end ExtensionAdmin.Url
