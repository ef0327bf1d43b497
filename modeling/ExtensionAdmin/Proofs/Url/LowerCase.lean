import ExtensionAdmin.Proofs.Fallible
import ExtensionAdmin.Proofs.Url.Tables
import ExtensionAdmin.Url.Domain

/-! Names in their form hold no capital letter. The form of a character is never a capital letter,
nor a character that is made of one and some marks. So taking the forms apart brings none about, and
neither does putting them together. -/

namespace ExtensionAdmin.Url.Domain

open Text

variable {c d : Char} {cs ds : List Char} {n : Nat}

theorem isCapital_iff : isCapital n = true ↔ 0x41 ≤ n ∧ n ≤ 0x5A := by
  simp [isCapital]

theorem isAccented_iff : isAccented n = true ↔ 0xC0 ≤ n ∧ n ≤ 0x212B ∧
    ∃ span ∈ accentedSpans, span.first ≤ n ∧ n ≤ span.last ∧
      (n - span.first) % span.step = 0 := by
  simp [isAccented, and_assoc]

theorem isSmall_iff : isSmall n = true ↔ isCapital n = false ∧ isAccented n = false := by
  simp [isSmall]

theorem isSmall_ascii (low : n < 0x80) (small : isCapital n = false) : isSmall n = true := by
  refine isSmall_iff.mpr ⟨small, Bool.eq_false_iff.mpr fun accented => ?_⟩
  have beyond := (isAccented_iff.mp accented).1
  omega

/-- No accented character stands between the Latin letters at the front and those that follow much
later. -/
theorem isSmall_between (low : 0x233 ≤ n) (high : n < 0x1E00) : isSmall n = true := by
  have outside : ∀ span ∈ accentedSpans, span.last < 0x233 ∨ 0x1E00 ≤ span.first := by decide
  refine isSmall_iff.mpr ⟨?_, Bool.eq_false_iff.mpr fun accented => ?_⟩
  · rw [Bool.eq_false_iff, ne_eq, isCapital_iff]
    omega
  · obtain ⟨-, -, span, member, first, last, -⟩ := isAccented_iff.mp accented
    rcases outside span member with before | after <;> omega

theorem toNat_ofNat {n : Nat} (valid : n.isValidChar) : (Char.ofNat n).toNat = n := by
  rw [Char.ofNat, dif_pos valid]
  rfl

/-- A number that stands for no character stands for the first one. -/
theorem isSmall_ofNat (small : isSmall n = true) : isSmall (Char.ofNat n).toNat = true := by
  by_cases valid : n.isValidChar
  · rwa [toNat_ofNat valid]
  · rw [Char.ofNat, dif_neg valid]
    decide

theorem isUpper_iff : ('A' ≤ c && c ≤ 'Z') = true ↔ isCapital c.toNat = true := by
  rw [isCapital_iff, Bool.and_eq_true, decide_eq_true_iff, decide_eq_true_iff]
  rfl

theorem lowerAscii_eq (small : isCapital c.toNat = false) : lowerAscii c = c := by
  rw [lowerAscii, if_neg (by rw [isUpper_iff, small]; decide)]

theorem isCapital_lowerAscii (c : Char) : isCapital (lowerAscii c).toNat = false := by
  cases capital : isCapital c.toNat with
  | false => rwa [lowerAscii_eq capital]
  | true =>
    have span := isCapital_iff.mp capital
    rw [lowerAscii, if_pos (isUpper_iff.mpr capital), toNat_ofNat (Or.inl (by omega)),
      Bool.eq_false_iff, ne_eq, isCapital_iff]
    omega

theorem isAscii_lowerAscii (ascii : isAscii c = true) : isAscii (lowerAscii c) = true := by
  rw [lowerAscii]
  split
  case isTrue upper =>
    have span := isCapital_iff.mp (isUpper_iff.mp upper)
    rw [isAscii, toNat_ofNat (Or.inl (by omega)), decide_eq_true_iff]
    omega
  case isFalse => exact ascii

theorem isCapital_of_beyond (beyond : ¬ isAscii c = true) : isCapital c.toNat = false := by
  rw [isAscii, decide_eq_true_iff] at beyond
  rw [Bool.eq_false_iff, ne_eq, isCapital_iff]
  omega

theorem shift_eq_some {s : Shift} : s.apply? c = some d ↔
    s.has c.toNat = true ∧ Char.ofNat (s.target + (c.toNat - s.first)) = d := by
  simp [Shift.has, Shift.apply?, and_assoc]

theorem shift_small {s : Shift} (member : s ∈ shifts) (found : s.apply? c = some d) :
    isSmall d.toNat = true := by
  obtain ⟨has, rfl⟩ := shift_eq_some.mp found
  have formed := shifts_formed s member
  simp only [Shift.isFormed, Shift.has, Bool.and_eq_true, List.all_eq_true, List.mem_range,
    Nat.ble_eq, Nat.beq_eq, Bool.or_eq_true, Bool.not_eq_true'] at formed has
  rcases formed.2 (c.toNat - s.first) (by omega) with uneven | small
  · simp [has.2] at uneven
  · exact isSmall_ofNat small

theorem mem_of_lookup {rows : Rows} {ns : List Nat} (found : rows.lookup n = some ns) :
    (n, ns) ∈ rows := by
  obtain ⟨before, after, rfl, -⟩ := List.lookup_eq_some_iff.mp found
  simp

theorem row?_small {rows : Rows} (member : rows ∈ formTables) (found : row? c rows = some ds) :
    ∀ d ∈ ds, isSmall d.toNat = true := by
  obtain ⟨ns, looked, rfl⟩ := Option.map_eq_some_iff.mp found
  have formed := formTables_formed rows member _ (mem_of_lookup looked)
  simp only [isFormed, Bool.and_eq_true, List.all_eq_true] at formed
  intro d written
  obtain ⟨n, target, rfl⟩ := List.mem_map.mp written
  exact isSmall_ofNat (formed.1 n target)

/-- A character that no shift and no table knows is not made of a capital letter. -/
theorem isAccented_of_unknown (unshifted : shifts.findSome? (fun s => s.apply? c) = none)
    (unlisted : formTables.findSome? (row? c) = none) : isAccented c.toNat = false := by
  refine Bool.eq_false_iff.mpr fun accented => ?_
  obtain ⟨-, -, span, member, first, last, even⟩ := isAccented_iff.mp accented
  have changed := List.all_eq_true.mp (accented_changed span member) (c.toNat - span.first)
    (List.mem_range.mpr (by omega))
  simp only [even, Nat.add_sub_cancel' first, Nat.beq_eq, Bool.or_eq_true, Bool.not_eq_true',
    List.any_eq_true] at changed
  -- Every capital with an accent is changed by one of the shifts or one of the rows.
  rcases changed with (uneven | ⟨s, among, has⟩) | ⟨row, among, same⟩
  · cases uneven
  · have applied := List.findSome?_eq_none_iff.mp unshifted s among
    rw [shift_eq_some.mpr ⟨has, rfl⟩] at applied
    cases applied
  · have missing := List.findSome?_eq_none_iff.mp unlisted letterForms (by simp [formTables])
    have absent := List.lookup_eq_none_iff.mp (Option.map_eq_none_iff.mp missing) row among
    simp [same] at absent

theorem form?_small (found : form? c = some ds) : ∀ d ∈ ds, isSmall d.toNat = true := by
  unfold form? at found
  split at found
  case isTrue ascii =>
    cases found
    have low := isAscii_lowerAscii ascii
    rw [isAscii, decide_eq_true_iff] at low
    simpa using isSmall_ascii low (isCapital_lowerAscii c)
  -- Beyond ASCII a character is dropped, refused, shifted, replaced by the row of a table, or kept.
  case isFalse beyond =>
    split at found
    · cases found
      simp
    split at found
    · cases found
    split at found
    case h_1 d shifted =>
      cases found
      obtain ⟨s, member, applied⟩ := List.exists_of_findSome?_eq_some shifted
      simpa using shift_small member applied
    case h_2 unshifted =>
      change some ((formTables.findSome? (row? c)).getD [c]) = some ds at found
      cases listed : formTables.findSome? (row? c) with
      | none =>
        rw [listed] at found
        cases found
        have small := isSmall_iff.mpr
          ⟨isCapital_of_beyond beyond, isAccented_of_unknown unshifted listed⟩
        simpa using small
      | some es =>
        rw [listed] at found
        cases found
        obtain ⟨rows, member, row⟩ := List.exists_of_findSome?_eq_some listed
        exact row?_small member row

theorem parts?_small (small : isSmall c.toNat = true) (made : parts? c = some ds) :
    ∀ d ∈ ds, isSmall d.toNat = true := by
  unfold parts? at made
  split at made
  · cases made
  · obtain ⟨ns, looked, rfl⟩ := Option.map_eq_some_iff.mp made
    have told : isTold (c.toNat, ns) = true := by
      rcases Option.or_eq_some_iff.mp looked with found | ⟨-, found⟩
      · have row := pairs_told _ (mem_of_lookup found)
        simp only [Bool.and_eq_true] at row
        exact row.1.1.1
      · have row := spellings_told _ (mem_of_lookup found)
        rw [Bool.and_eq_true] at row
        exact row.1
    intro d written
    obtain ⟨n, part, rfl⟩ := List.mem_map.mp written
    rw [isTold, (isSmall_iff.mp small).2, Bool.false_or, List.all_eq_true] at told
    exact isSmall_ofNat (told n part)

theorem takeApart_small {steps : Nat} (small : isSmall c.toNat = true) :
    ∀ d ∈ takeApart steps c, isSmall d.toNat = true := by
  induction steps generalizing c with
  | zero => simpa [takeApart] using small
  | succ steps ih =>
    unfold takeApart
    split
    case h_1 first marks made =>
      obtain ⟨here, later⟩ := List.forall_mem_cons.mp (parts?_small small made)
      exact List.forall_mem_append.mpr ⟨ih here, later⟩
    case h_2 => simpa using small

theorem letters?_small (made : letters? c = some ds) : ∀ d ∈ ds, isSmall d.toNat = true := by
  unfold letters? at made
  split at made
  case isFalse => cases made
  case isTrue syllable =>
    have letter : ∀ n, 0x1100 ≤ n → n < 0x1200 → isSmall (Char.ofNat n).toNat = true :=
      fun n low high => isSmall_ofNat (isSmall_between (by omega) (by omega))
    simp only [Bool.and_eq_true, decide_eq_true_iff] at syllable
    cases made
    refine List.forall_mem_cons.mpr ⟨letter _ (by omega) (by omega), ?_⟩
    refine List.forall_mem_cons.mpr ⟨letter _ (by omega) (by omega), ?_⟩
    split
    · simp
    · simpa using letter _ (by omega) (by omega)

theorem apart_small (small : isSmall c.toNat = true) : ∀ d ∈ apart c, isSmall d.toNat = true := by
  unfold apart
  cases made : letters? c with
  | none => exact takeApart_small small
  | some ds => exact letters?_small made

theorem mem_placeMark : d ∈ placeMark c cs ↔ d = c ∨ d ∈ cs := by
  induction cs with
  | nil => simp [placeMark]
  | cons e cs ih =>
    rw [placeMark]
    split
    · simp [ih, or_left_comm]
    · simp

theorem mem_inOrder : d ∈ inOrder cs ↔ d ∈ cs := by
  induction cs with
  | nil => rfl
  | cons c cs ih => rw [inOrder, List.foldr_cons, ← inOrder, mem_placeMark, ih, List.mem_cons]

theorem isCapital_syllable {e : Char} (made : syllable? c d = some e) :
    isCapital e.toNat = false := by
  have syllable : ∀ n, 0xAC00 ≤ n → n ≤ 0xD7A3 → isCapital (Char.ofNat n).toNat = false := by
    intro n low high
    rw [toNat_ofNat (Or.inl (by omega)), Bool.eq_false_iff, ne_eq, isCapital_iff]
    omega
  simp only [syllable?] at made
  split at made
  case isTrue letters =>
    simp only [Bool.and_eq_true, decide_eq_true_iff] at letters
    rw [← Option.some.inj made]
    exact syllable _ (by omega) (by omega)
  case isFalse =>
    split at made
    case isTrue letters =>
      simp only [Bool.and_eq_true, decide_eq_true_iff, beq_iff_eq] at letters
      rw [← Option.some.inj made]
      exact syllable _ (by omega) (by omega)
    case isFalse => cases made

/-- What two characters are put together to is no capital letter, whatever they are. -/
theorem isCapital_together {e : Char} (made : together? c d = some e) :
    isCapital e.toNat = false := by
  rcases Option.or_eq_some_iff.mp made with syllable | ⟨-, found⟩
  · exact isCapital_syllable syllable
  · obtain ⟨row, looked, rfl⟩ := Option.map_eq_some_iff.mp found
    have told := pairs_told row (List.mem_of_find?_eq_some looked)
    simp only [Bool.and_eq_true, Bool.not_eq_true'] at told
    by_cases valid : row.1.isValidChar
    · rw [toNat_ofNat valid]
      exact told.1.1.2
    · rw [Char.ofNat, dif_neg valid]
      decide

theorem putTogether_uncapital {letter : Char} {marks : List Char}
    (front : isCapital letter.toNat = false) (between : ∀ d ∈ marks, isCapital d.toNat = false)
    (later : ∀ d ∈ cs, isCapital d.toNat = false) :
    ∀ d ∈ putTogether letter marks cs, isCapital d.toNat = false := by
  induction cs generalizing letter marks with
  | nil => exact List.forall_mem_cons.mpr ⟨front, between⟩
  | cons c cs ih =>
    obtain ⟨here, later⟩ := List.forall_mem_cons.mp later
    unfold putTogether
    split
    case h_1 whole made =>
      refine ih ?_ between later
      split at made
      · exact isCapital_together made
      · cases made
    case h_2 =>
      split
      · exact List.forall_mem_append.mpr
          ⟨List.forall_mem_cons.mpr ⟨front, between⟩, ih here (by simp) later⟩
      · exact ih front (List.forall_mem_append.mpr ⟨between, by simpa using here⟩) later

theorem canonical_uncapital (small : ∀ d ∈ cs, isSmall d.toNat = true) :
    ∀ d ∈ canonical cs, isCapital d.toNat = false := by
  have parts : ∀ d ∈ inOrder (cs.flatMap apart), isCapital d.toNat = false := by
    intro d member
    obtain ⟨c, among, part⟩ := List.mem_flatMap.mp (mem_inOrder.mp member)
    exact (isSmall_iff.mp (apart_small (small c among) d part)).1
  unfold canonical
  split
  · exact fun d member => (isSmall_iff.mp (small d member)).1
  · split
    · simp
    case h_2 c rest ordered =>
      rw [ordered] at parts
      obtain ⟨here, later⟩ := List.forall_mem_cons.mp parts
      exact putTogether_uncapital here (by simp) later

theorem normalized?_of_forms (forms : ∀ c ∈ cs, form? c = some [c]) :
    normalized? cs = some (canonical cs) := by
  have same : cs.mapM form? = some (cs.map fun c => [c]) := by
    rw [Fallible.mapM_eq_some, List.forall₂_map_right_iff]
    exact List.forall₂_same.mpr forms
  rw [normalized?, same, Option.map_some, ← List.flatMap_def, List.flatMap_singleton']

theorem normalized?_uncapital {name : List Char} (formed : normalized? cs = some name) :
    ∀ d ∈ name, isCapital d.toNat = false := by
  obtain ⟨forms, found, rfl⟩ := Option.map_eq_some_iff.mp formed
  refine canonical_uncapital fun d member => ?_
  obtain ⟨ds, among, within⟩ := List.mem_flatten.mp member
  obtain ⟨c, -, form⟩ := Fallible.paired_of_mem (Fallible.mapM_eq_some.mp found) among
  exact form?_small form d within

end ExtensionAdmin.Url.Domain
