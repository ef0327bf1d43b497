import ExtensionAdmin.Proofs.Url.Host

/-! Ideographs in names. The first ideographs beyond the 16-bit numbers have themselves as their
form, go together with no other character, and have no direction. So a label of them is in the form
of names as it is. -/

namespace ExtensionAdmin.Url.Domain

open Text

variable {c d : Char} {cs : List Char}

theorem isIdeograph_iff : isIdeograph c.toNat = true ↔ 0x20000 ≤ c.toNat ∧ c.toNat ≤ 0x2A6DF := by
  simp [isIdeograph]

theorem not_mem_apart {first last : Nat} (apart : isApart first last = true)
    (ideograph : isIdeograph c.toNat = true) : ¬ (first ≤ c.toNat ∧ c.toNat ≤ last) := by
  have span := isIdeograph_iff.mp ideograph
  simp only [isApart, Bool.or_eq_true, Nat.ble_eq] at apart
  omega

theorem rangeTable_ideograph {ranges : Ranges} (table : ranges ∈ rangeTables)
    (ideograph : isIdeograph c.toNat = true) : ranges.has c = false := by
  refine List.any_eq_false.mpr fun range member within => ?_
  simp only [Bool.and_eq_true, decide_eq_true_iff] at within
  exact not_mem_apart (rangeTables_apart ranges table range member) ideograph within

theorem lookup_ideograph {rows : Rows} (absent : ∀ row ∈ rows, isIdeograph row.1 = false)
    (ideograph : isIdeograph c.toNat = true) : rows.lookup c.toNat = none := by
  refine List.lookup_eq_none_iff.mpr fun row member => bne_iff_ne.mpr ?_
  intro same
  rw [same, absent row member] at ideograph
  cases ideograph

theorem form?_ideograph (ideograph : isIdeograph c.toNat = true) : form? c = some [c] := by
  have span := isIdeograph_iff.mp ideograph
  have beyond : isAscii c = false := by
    rw [isAscii, decide_eq_false_iff_not]
    omega
  -- No shift, no row and no range touches the ideographs; each of them was checked for that.
  have unshifted : shifts.findSome? (fun s => s.apply? c) = none := by
    refine List.findSome?_eq_none_iff.mpr fun s member => ?_
    have formed := shifts_formed s member
    rw [Shift.isFormed, Bool.and_eq_true] at formed
    unfold Shift.apply?
    rw [if_neg]
    simp only [Bool.and_eq_true, decide_eq_true_iff]
    exact fun within => not_mem_apart formed.1 ideograph within.1
  have unlisted : formTables.findSome? (row? c) = none := by
    refine List.findSome?_eq_none_iff.mpr fun rows member => ?_
    refine Option.map_eq_none_iff.mpr (lookup_ideograph (fun row among => ?_) ideograph)
    have formed := formTables_formed rows member row among
    simp only [isFormed, Bool.and_eq_true, Bool.not_eq_true'] at formed
    exact formed.2
  have kept : ignored.has c = false := rangeTable_ideograph (by simp [rangeTables]) ideograph
  have allowed : disallowed.has c = false := rangeTable_ideograph (by simp [rangeTables]) ideograph
  rw [form?, if_neg (by simp [beyond]), if_neg (by simp [kept]), if_neg (by simp [allowed]),
    unshifted]
  exact congrArg (fun found : Option (List Char) => some (found.getD [c])) unlisted

theorem parts?_ideograph (ideograph : isIdeograph c.toNat = true) : parts? c = none := by
  have pair : pairs.lookup c.toNat = none := by
    refine lookup_ideograph (fun row member => ?_) ideograph
    have told := pairs_told row member
    simp only [Bool.and_eq_true, Bool.not_eq_true'] at told
    exact told.1.2
  have spelling : spellings.lookup c.toNat = none := by
    refine lookup_ideograph (fun row member => ?_) ideograph
    have told := spellings_told row member
    simp only [Bool.and_eq_true, Bool.not_eq_true'] at told
    exact told.2
  rw [parts?, pair, spelling]
  split <;> rfl

theorem apart_ideograph (ideograph : isIdeograph c.toNat = true) : apart c = [c] := by
  have span := isIdeograph_iff.mp ideograph
  have letterless : letters? c = none := by
    rw [letters?, if_neg]
    simp only [Bool.and_eq_true, decide_eq_true_iff]
    omega
  rw [apart, letterless, Option.getD_none, takeApart, parts?_ideograph ideograph]

theorem combiningClass_ideograph (ideograph : isIdeograph c.toNat = true) :
    combiningClass c = 0 := by
  have unmarked : combiningClasses.find? (fun p => p.2.has c) = none := by
    refine List.find?_eq_none.mpr fun p member => ?_
    have table : p.2 ∈ rangeTables := by
      simp only [rangeTables, List.mem_append, List.mem_map]
      exact Or.inr ⟨p, member, rfl⟩
    simp [rangeTable_ideograph table ideograph]
  rw [combiningClass, unmarked]
  split <;> rfl

theorem together?_ideograph (ideograph : isIdeograph d.toNat = true) : together? c d = none := by
  have span := isIdeograph_iff.mp ideograph
  have letterless : syllable? c d = none := by
    simp only [syllable?]
    rw [if_neg, if_neg]
    · simp only [Bool.and_eq_true, decide_eq_true_iff, beq_iff_eq]
      omega
    · simp only [Bool.and_eq_true, decide_eq_true_iff]
      omega
  have unpaired : ofParts? c d = none := by
    refine Option.map_eq_none_iff.mpr (List.find?_eq_none.mpr fun row member same => ?_)
    have told := pairs_told row member
    simp only [Bool.and_eq_true, Bool.not_eq_true', List.any_eq_false] at told
    rw [beq_iff_eq] at same
    exact told.2 d.toNat (by simp [same]) ideograph
  rw [together?, letterless, unpaired]
  rfl

theorem isMark_ideograph (ideograph : isIdeograph c.toNat = true) : isMark c = false := by
  have nonspacing : nonspacingMarks.has c = false :=
    rangeTable_ideograph (by simp [rangeTables]) ideograph
  have spacing : spacingMarks.has c = false :=
    rangeTable_ideograph (by simp [rangeTables]) ideograph
  rw [isMark, nonspacing, spacing]
  simp

theorem isFromRight_ideograph (ideograph : isIdeograph c.toNat = true) : isFromRight c = false := by
  have letter : rightToLeftLetters.has c = false :=
    rangeTable_ideograph (by simp [rangeTables]) ideograph
  have arabic : arabicLetters.has c = false :=
    rangeTable_ideograph (by simp [rangeTables]) ideograph
  have digit : arabicDigits.has c = false :=
    rangeTable_ideograph (by simp [rangeTables]) ideograph
  rw [isFromRight, letter, arabic, digit]
  simp

theorem inOrder_ideographs (ideographs : ∀ c ∈ cs, isIdeograph c.toNat = true) :
    inOrder cs = cs := by
  induction cs with
  | nil => rfl
  | cons c cs ih =>
    obtain ⟨-, later⟩ := List.forall_mem_cons.mp ideographs
    rw [inOrder, List.foldr_cons, ← inOrder, ih later]
    cases cs with
    | nil => rfl
    | cons d cs =>
      have class_zero := combiningClass_ideograph (later d List.mem_cons_self)
      rw [placeMark, class_zero]
      rfl

theorem putTogether_ideographs (letter : Char)
    (ideographs : ∀ c ∈ cs, isIdeograph c.toNat = true) :
    putTogether letter [] cs = letter :: cs := by
  induction cs generalizing letter with
  | nil => rfl
  | cons c cs ih =>
    obtain ⟨here, later⟩ := List.forall_mem_cons.mp ideographs
    have alone : (if reaches [] c then together? letter c else none) = none := by
      rw [together?_ideograph here, ite_self]
    rw [putTogether, alone, combiningClass_ideograph here]
    simp [ih c later]

theorem canonical_ideographs (ideographs : ∀ c ∈ cs, isIdeograph c.toNat = true) :
    canonical cs = cs := by
  have parts : cs.flatMap apart = cs := by
    have each : cs.flatMap apart = cs.flatMap fun c => [c] := by
      refine List.flatMap_congr fun c member => apart_ideograph (ideographs c member)
    rw [each, List.flatMap_singleton']
  rw [canonical, parts, inOrder_ideographs ideographs]
  split
  · rfl
  · cases cs with
    | nil => rfl
    | cons c cs => exact putTogether_ideographs c (List.forall_mem_cons.mp ideographs).2

theorem normalized?_ideographs (ideographs : ∀ c ∈ cs, isIdeograph c.toNat = true) :
    normalized? cs = some cs := by
  rw [normalized?_of_forms fun c member => form?_ideograph (ideographs c member),
    canonical_ideographs ideographs]

theorem joinersFit_ideographs (before : List Char)
    (ideographs : ∀ c ∈ cs, isIdeograph c.toNat = true) : joinersFit before cs = true := by
  induction cs generalizing before with
  | nil => rfl
  | cons c cs ih =>
    obtain ⟨here, later⟩ := List.forall_mem_cons.mp ideographs
    have plain : (c == joiner || c == nonJoiner) = false := by
      simp only [Bool.or_eq_false_iff, beq_eq_false_iff_ne]
      constructor <;> rintro rfl <;> revert here <;> decide
    rw [joinersFit, plain, ih (c :: before) later]
    rfl

end ExtensionAdmin.Url.Domain

namespace ExtensionAdmin.Url

open Domain Text

variable {label : List Char}

theorem splitOn_whole {x : Char} {cs : List Char} (single : x ∉ cs) : splitOn x cs = [cs] := by
  have parts : splitOn x ([x].intercalate [cs]) = [cs] :=
    splitOn_intercalate (by simp) (by simpa using single)
  rwa [List.intercalate_singleton] at parts

theorem not_mem_ideographs {c : Char} (ideographs : ∀ c ∈ label, isIdeograph c.toNat = true)
    (other : isIdeograph c.toNat = false) : c ∉ label := by
  intro member
  rw [ideographs c member] at other
  cases other

theorem all_isAscii_ideographs (ideographs : ∀ c ∈ label, isIdeograph c.toNat = true)
    (filled : label ≠ []) : label.all isAscii = false := by
  obtain ⟨c, cs, rfl⟩ := List.exists_cons_of_ne_nil filled
  have span := isIdeograph_iff.mp (ideographs c List.mem_cons_self)
  have beyond : isAscii c = false := by
    rw [isAscii, decide_eq_false_iff_not]
    omega
  rw [List.all_cons, beyond, Bool.false_and]

theorem isLabelText_ideographs (ideographs : ∀ c ∈ label, isIdeograph c.toNat = true) :
    isLabelText label = true := by
  have unmarked : label.head?.any isMark = false := by
    cases label with
    | nil => rfl
    | cons c cs => simpa using isMark_ideograph (ideographs c List.mem_cons_self)
  rw [isLabelText, normalized?_ideographs ideographs, unmarked, joinersFit_ideographs [] ideographs]
  simp

def encodedName (label : List Char) : List Char := ['x', 'n', '-', '-'] ++ Punycode.encode label

theorem asciiLabel?_ideographs (ideographs : ∀ c ∈ label, isIdeograph c.toNat = true)
    (filled : label ≠ []) (short : label.length ≤ 1000) :
    asciiLabel? label = some (encodedName label) := by
  rw [asciiLabel?, if_neg (by simp [all_isAscii_ideographs ideographs filled]), if_pos short]
  rfl

theorem splitOn_ideographs (ideographs : ∀ c ∈ label, isIdeograph c.toNat = true) :
    splitOn '.' label = [label] :=
  splitOn_whole (not_mem_ideographs ideographs (by decide))

theorem mapM_asciiLabel?_ideographs (ideographs : ∀ c ∈ label, isIdeograph c.toNat = true)
    (filled : label ≠ []) (short : label.length ≤ 1000) :
    (splitOn '.' label).mapM asciiLabel? = some [encodedName label] := by
  simp [splitOn_ideographs ideographs, asciiLabel?_ideographs ideographs filled short]

/-- A label of ideographs is written in Punycode as it is. -/
theorem asciiDomain_ideographs (ideographs : ∀ c ∈ label, isIdeograph c.toNat = true)
    (filled : label ≠ []) (short : label.length ≤ 1000) :
    asciiDomain (decode label) = .ok (encodedName label) := by
  have text : labelText? label = some label := by
    have plain : isEncodedLabel label = false := by
      refine Bool.eq_false_iff.mpr fun encoded => ?_
      rw [isEncodedLabel, beq_iff_eq] at encoded
      exact not_mem_ideographs ideographs (by decide)
        (List.mem_of_mem_take (encoded ▸ List.mem_cons_self : 'x' ∈ label.take 4))
    rw [labelText?, plain]
    rfl
  have agree : directionsAgree [label] = true := by
    have right : label.any isFromRight = false := by
      refine List.any_eq_false.mpr fun c member => ?_
      simp [isFromRight_ideograph (ideographs c member)]
    simp [directionsAgree, right]
  -- What is written consists of the ASCII characters of the label, of which there are none, and of
  -- added ones, which are all allowed.
  have allowed : (encodedName label).any isForbidden = false := by
    refine List.any_eq_false.mpr fun c member => ?_
    rcases mem_asciiLabel? (asciiLabel?_ideographs ideographs filled short) member with
      ⟨kept, ascii⟩ | added
    · have span := isIdeograph_iff.mp (ideographs c kept)
      rw [isAscii, decide_eq_true_iff] at ascii
      omega
    · simp only [isAdded, Bool.and_eq_true, Bool.not_eq_true'] at added
      simp [added.2]
  have named : asciiName? label = some (encodedName label) := by
    refine asciiName?_eq_some.mpr ⟨[label], [encodedName label], ?_, ?_, agree,
      mapM_asciiLabel?_ideographs ideographs filled short, List.intercalate_singleton, allowed⟩
    · simp [splitOn_ideographs ideographs, text]
    · simp [isLabelText_ideographs ideographs]
  refine asciiDomain_eq_ok.mpr ⟨label, ?_, label, normalized?_ideographs ideographs, named⟩
  rw [decode_unescaped fun c member same => ?_, ofUtf8?_utf8]
  exact not_mem_ideographs ideographs (by decide) (same ▸ member)

theorem splitOn_encodedName (ideographs : ∀ c ∈ label, isIdeograph c.toNat = true)
    (filled : label ≠ []) (short : label.length ≤ 1000) :
    splitOn '.' (encodedName label) = [encodedName label] := by
  have parts := splitOn_written (mapM_asciiLabel?_ideographs ideographs filled short)
  rwa [List.intercalate_singleton] at parts

/-- A label of ideographs is a host, which is too long to be read once more when its code is. -/
theorem Host.read_ideographs (ideographs : ∀ c ∈ label, isIdeograph c.toNat = true)
    (filled : label ≠ []) (short : label.length ≤ 1000) :
    Host.read label = .ok (.domain (String.ofList (encodedName label))) ∧
      ((Host.domain (String.ofList (encodedName label))).isOverlong = true ↔
        2000 < (Punycode.encode label).length) := by
  have parts := splitOn_encodedName ideographs filled short
  have named : endsInNumber (encodedName label) = false := by
    have whole : addressParts (encodedName label) = [encodedName label] := by
      simp [addressParts, parts]
    have unread : ipv4Number? (encodedName label) = none := rfl
    have digits : (encodedName label).all Char.isDigit = false := rfl
    simp [endsInNumber, whole, unread, digits]
  constructor
  · have unbracketed : label.head? ≠ some '[' := fun first =>
      not_mem_ideographs ideographs (by decide) (List.mem_of_mem_head? first)
    have some_char : (encodedName label).isEmpty = false := rfl
    rw [read_of_domain unbracketed, asciiDomain_ideographs ideographs filled short]
    simp only [bind, Except.bind, some_char, named]
    rfl
  · have encoded : isEncodedLabel (encodedName label) = true := rfl
    have size : (encodedName label).length = (Punycode.encode label).length + 4 := rfl
    rw [Host.isOverlong, hasOverlongLabel, String.toList_ofList, parts, List.any_cons, List.any_nil,
      Bool.or_false, isOverlongLabel, encoded, Bool.true_and, size, decide_eq_true_iff]
    omega

theorem isFirm_ideograph {c : Char} (ideograph : isIdeograph c.toNat = true) : isFirm c = true := by
  have span := isIdeograph_iff.mp ideograph
  have other : ∀ d : Char, d.toNat < 0x20000 → c ≠ d := by
    rintro d low rfl
    omega
  simp only [isFirm, endsAuthority, Bool.and_eq_true, Bool.not_eq_true', Bool.or_eq_false_iff,
    beq_eq_false_iff_ne, bne_iff_ne, decide_eq_true_iff]
  exact ⟨⟨by omega, ⟨⟨other '/' (by decide), other '\\' (by decide)⟩, other '?' (by decide)⟩,
    other '#' (by decide)⟩, other '@' (by decide)⟩

theorem hostLength_ideographs (ideographs : ∀ c ∈ label, isIdeograph c.toNat = true) :
    hostLength false label = label.length := by
  have plain : ∀ c ∈ label, c ≠ ':' ∧ c ≠ '[' := by
    intro c member
    have ideograph := ideographs c member
    constructor <;> rintro rfl <;> revert ideograph <;> decide
  have whole := hostLength_outside plain []
  rwa [List.append_nil] at whole

end ExtensionAdmin.Url
