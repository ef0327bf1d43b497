import ExtensionAdmin.Proofs.Text.Table
import ExtensionAdmin.Text.Canonical
import ExtensionAdmin.Text.Mark
import ExtensionAdmin.Url.Domain.Direction
import ExtensionAdmin.Url.Domain.Form

/-! What the tables of names hold. Capital letters, and the characters that are made of one and some
marks, stand in the tables only where something is looked up, never as what is found. The first
ideographs beyond the 16-bit numbers stand nowhere in them. Each table is gone through once for all
that is said about it. -/

namespace ExtensionAdmin.Url.Domain

open Text

def isCapital (n : Nat) : Bool := Nat.ble 0x41 n && Nat.ble n 0x5A

structure Span where
  first : Nat
  last : Nat
  step : Nat

def accentedSpans : List Span :=
  [⟨0xC0, 0xD6, 1⟩, ⟨0xD8, 0xDE, 1⟩, ⟨0x100, 0x136, 2⟩, ⟨0x139, 0x147, 2⟩, ⟨0x14A, 0x178, 2⟩,
   ⟨0x179, 0x17D, 2⟩, ⟨0x1A0, 0x1A0, 1⟩, ⟨0x1AF, 0x1AF, 1⟩, ⟨0x1CD, 0x1DB, 2⟩, ⟨0x1DE, 0x1EE, 2⟩,
   ⟨0x1F4, 0x1F4, 1⟩, ⟨0x1F8, 0x232, 2⟩, ⟨0x1E00, 0x1E94, 2⟩, ⟨0x1EA0, 0x1EFE, 2⟩,
   ⟨0x212A, 0x212B, 1⟩]

-- Most characters are outside of all spans, and that is seen at once.
def isAccented (n : Nat) : Bool :=
  Nat.ble 0xC0 n && Nat.ble n 0x212B &&
    accentedSpans.any fun s =>
      Nat.ble s.first n && Nat.ble n s.last && Nat.beq ((n - s.first) % s.step) 0

def isSmall (n : Nat) : Bool := !isCapital n && !isAccented n

def isIdeograph (n : Nat) : Bool := Nat.ble 0x20000 n && Nat.ble n 0x2A6DF

/-- What is asked of a character and its parts: only characters that are told apart as accented have
capitals among them. -/
def isTold (row : Nat × List Nat) : Bool := isAccented row.1 || row.2.all isSmall

def isFormed (row : Nat × List Nat) : Bool := row.2.all isSmall && !isIdeograph row.1

def isApart (first last : Nat) : Bool := Nat.ble last 0x1FFFF || Nat.ble 0x2A6E0 first

def Shift.isFormed (s : Shift) : Bool :=
  isApart s.first s.last &&
    (List.range (s.last - s.first + 1)).all fun k =>
      !Nat.beq (k % s.step) 0 || isSmall (s.target + k)

def Shift.has (s : Shift) (n : Nat) : Bool :=
  Nat.ble s.first n && Nat.ble n s.last && Nat.beq ((n - s.first) % s.step) 0

def formTables : List Rows := [letterForms, ideographForms, presentationForms, supplementaryForms]

def rangeTables : List Ranges :=
  [ignored, disallowed, nonspacingMarks, spacingMarks, rightToLeftLetters, arabicLetters,
    arabicDigits] ++ combiningClasses.map Prod.snd

set_option maxRecDepth 100000 in
theorem pairs_told : ∀ row ∈ pairs, (isTold row && !isCapital row.1 && !isIdeograph row.1 &&
    !row.2.any isIdeograph) = true := by
  unfold pairs
  refine Spelled.rows (by repeat constructor) ?_
  decide +kernel

set_option maxRecDepth 100000 in
theorem spellings_told : ∀ row ∈ spellings, (isTold row && !isIdeograph row.1) = true := by
  unfold spellings
  refine Spelled.rows (by repeat constructor) ?_
  decide +kernel

set_option maxRecDepth 100000 in
theorem formTables_formed : ∀ rows ∈ formTables, ∀ row ∈ rows, isFormed row = true := by
  unfold formTables letterForms ideographForms presentationForms supplementaryForms
  repeat
    refine List.forall_mem_cons.mpr ⟨Spelled.rows (by repeat constructor) (by decide +kernel), ?_⟩
  simp

theorem shifts_spelled {lines : List (List Char)} (spelled : Spelled shiftWords lines) :
    shifts = (lines.flatMap (splitOn ' ')).map Shift.ofWord := by
  rw [shifts, spelled.words]

set_option maxRecDepth 100000 in
theorem shifts_formed : ∀ s ∈ shifts, s.isFormed = true := by
  refine List.all_eq_true.mp ?_
  rw [shifts_spelled (by unfold shiftWords; repeat constructor)]
  decide +kernel

set_option maxRecDepth 100000 in
/-- Every accented character has a form of its own. -/
theorem accented_changed : ∀ span ∈ accentedSpans,
    ((List.range (span.last - span.first + 1)).all fun k =>
      !Nat.beq (k % span.step) 0 || shifts.any (·.has (span.first + k)) ||
        letterForms.any fun row => Nat.beq row.1 (span.first + k)) = true := by
  refine List.all_eq_true.mp ?_
  rw [shifts_spelled (by unfold shiftWords; repeat constructor)]
  unfold letterForms Rows.ofWords
  rw [Spelled.words (by repeat constructor)]
  decide +kernel

set_option maxRecDepth 100000 in
theorem rangeTables_apart :
    ∀ ranges ∈ rangeTables, ∀ range ∈ ranges, isApart range.1 range.2 = true := by
  refine List.forall_mem_append.mpr ⟨?_, List.forall_mem_map.mpr ?_⟩
  · unfold ignored disallowed nonspacingMarks spacingMarks rightToLeftLetters arabicLetters
      arabicDigits
    repeat
      refine List.forall_mem_cons.mpr
        ⟨Spelled.ranges (by repeat constructor) (by decide +kernel), ?_⟩
    simp
  · unfold combiningClasses
    refine List.forall_mem_map.mpr ?_
    repeat
      refine List.forall_mem_cons.mpr
        ⟨Spelled.ranges (by repeat constructor) (by decide +kernel), ?_⟩
    simp

end ExtensionAdmin.Url.Domain
