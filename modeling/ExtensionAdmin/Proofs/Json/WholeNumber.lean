import Mathlib.Tactic.SplitIfs
import ExtensionAdmin.Json.Printer
import ExtensionAdmin.Json.Reader

/-! Whole numbers are read as they are written. The digits of a whole number have no leading zero,
so they are all taken. As long as the number fits in 64 bits they are kept exactly, and the number
comes back with its sign. -/

namespace ExtensionAdmin.Json

def digit (c : Char) : Nat := c.toNat - 0x30

/-- All digits are taken, up to what is none. -/
theorem takeDigits_append {cs rest : List Char} (digits : ∀ c ∈ cs, c.isDigit = true)
    (stop : ∀ c ∈ rest.head?, c.isDigit = false) :
    takeDigits (cs ++ rest) = (cs.map digit, rest) := by
  induction cs with
  | nil =>
    cases rest with
    | nil => rfl
    | cons c rest => simp [takeDigits, stop c rfl]
  | cons c cs ih =>
    obtain ⟨here, after⟩ := List.forall_mem_cons.mp digits
    simp [takeDigits, here, ih after, digit]

theorem takeDigits_eq {cs : List Char} (digits : ∀ c ∈ cs, c.isDigit = true) :
    takeDigits cs = (cs.map digit, []) := by
  have whole : takeDigits (cs ++ []) = (cs.map digit, []) := takeDigits_append digits (by simp)
  rwa [List.append_nil] at whole

theorem le_foldl (ds : List Nat) (s : Nat) : s ≤ ds.foldl (fun n d => n * 10 + d) s := by
  induction ds generalizing s with
  | nil => exact Nat.le_refl s
  | cons d ds ih =>
    have step := ih (s * 10 + d)
    simp only [List.foldl_cons]
    omega

/-- No digit is left over while the number that they write fits in 64 bits. -/
theorem significand_eq (ds : List Nat) (s : Nat)
    (fits : ds.foldl (fun n d => n * 10 + d) s ≤ maxWhole) :
    significand s ds = (ds.foldl (fun n d => n * 10 + d) s, 0) := by
  induction ds generalizing s with
  | nil => rfl
  | cons d ds ih =>
    have step := le_foldl ds (s * 10 + d)
    simp only [List.foldl_cons] at fits ⊢
    rw [significand, if_pos (by omega), ih _ fits]

theorem foldl_toDigits (n : Nat) :
    ((Nat.toDigits 10 n).map digit).foldl (fun n d => n * 10 + d) 0 = n := by
  have read := Nat.ofDigitChars_ten_toDigits (n := n)
  rw [Nat.ofDigitChars_eq_foldl] at read
  simpa [List.foldl_map, digit, Nat.mul_comm] using read

theorem toDigits_isDigit (n : Nat) : ∀ c ∈ Nat.toDigits 10 n, c.isDigit = true :=
  fun _ member => Nat.isDigit_of_mem_toDigits (by decide) (by decide) member

theorem toDigits_head (n : Nat) (positive : 0 < n) :
    ∃ c cs, Nat.toDigits 10 n = c :: cs ∧ digit c ≠ 0 := by
  induction n using Nat.strongRecOn with
  | _ n ih =>
    rcases Nat.lt_or_ge n 10 with small | large
    · refine ⟨n.digitChar, [], Nat.toDigits_of_lt_base small, ?_⟩
      rw [digit, Nat.toNat_digitChar_of_lt_ten small]
      omega
    · obtain ⟨c, cs, spelled, leading⟩ := ih (n / 10) (by omega) (by omega)
      refine ⟨c, cs ++ [(n % 10).digitChar], ?_, leading⟩
      rw [Nat.toDigits_of_base_le (by decide) large, spelled, List.cons_append]

def WholePart (ds : List Nat) : Prop := ds ≠ [] ∧ (ds.head? = some 0 → ds.tail = [])

/-- Digits that can stand before the point are followed by a fraction and an exponent. -/
theorem unsigned?_of_wholePart (negative : Bool) {cs rest : List Char} {ds : List Nat}
    (taken : takeDigits cs = (ds, rest)) (whole : WholePart ds) :
    unsigned? negative cs = (fraction? rest).bind fun f => (exponent? f.2).bind fun x =>
      (assemble negative ds f.1 x.1).map fun n => (n, x.2) := by
  obtain ⟨filled, leading⟩ := whole
  rw [unsigned?, taken]
  split
  case h_1 empty => simp_all
  case h_2 zero => simp_all
  case h_3 whole rest _ _ same =>
    obtain ⟨rfl, rfl⟩ := Prod.mk.inj same
    simp only [Option.map_eq_bind]
    rfl

theorem unsigned?_eq_none (negative : Bool) {cs rest : List Char} {ds : List Nat}
    (taken : takeDigits cs = (ds, rest)) (bad : ¬ WholePart ds) : unsigned? negative cs = none := by
  rw [unsigned?, taken]
  split
  case h_1 => rfl
  case h_2 => rfl
  case h_3 whole rest empty zero same =>
    obtain ⟨rfl, rfl⟩ := Prod.mk.inj same
    rcases ds with _ | ⟨d, _ | ⟨e, ds⟩⟩
    · exact (empty rfl).elim
    · exact absurd ⟨by simp, by simp⟩ bad
    · exact absurd ⟨by simp, fun leading => (zero e ds (by simp_all)).elim⟩ bad

/-- Digits up to the end of a text are a whole number, unless a zero stands before others. -/
theorem unsigned?_eq (negative : Bool) {cs : List Char} {d : Nat} {ds : List Nat}
    (taken : takeDigits cs = (d :: ds, [])) (leading : d = 0 → ds = []) :
    unsigned? negative cs = (assemble negative (d :: ds) none none).map fun x => (x, []) := by
  rw [unsigned?_of_wholePart negative taken ⟨List.cons_ne_nil d ds, by simpa using leading⟩]
  rfl

theorem unsigned?_toDigits (negative : Bool) (n : Nat) :
    unsigned? negative (Nat.toDigits 10 n) =
      (assemble negative ((Nat.toDigits 10 n).map digit) none none).map fun x => (x, []) := by
  have taken := takeDigits_eq (toDigits_isDigit n)
  rcases Nat.eq_zero_or_pos n with rfl | positive
  · exact unsigned?_eq negative taken fun _ => rfl
  · obtain ⟨c, cs, spelled, leading⟩ := toDigits_head n positive
    rw [spelled] at taken ⊢
    exact unsigned?_eq negative taken fun zero => absurd zero leading

theorem assemble_toDigits (n : Nat) (high : n ≤ maxWhole) :
    assemble false ((Nat.toDigits 10 n).map digit) none none = some (.int n) := by
  have whole := significand_eq ((Nat.toDigits 10 n).map digit) 0 (by rwa [foldl_toDigits])
  simp [assemble, whole, foldl_toDigits]

theorem assemble_negative_toDigits (n : Nat) (positive : 0 < n) (low : n ≤ 0x8000000000000000) :
    assemble true ((Nat.toDigits 10 n).map digit) none none = some (.int (-n)) := by
  have whole := significand_eq ((Nat.toDigits 10 n).map digit) 0
    (by rw [foldl_toDigits, maxWhole]; omega)
  have kept : ¬(n = 0 ∨ 0x8000000000000000 < n) := by omega
  simp [assemble, whole, foldl_toDigits, kept]

/-- The whole numbers that are kept exactly: from `-2 ^ 63` to `2 ^ 64 - 1`. -/
def Exact (i : Int) : Prop := -0x8000000000000000 ≤ i ∧ i ≤ 0xFFFFFFFFFFFFFFFF

theorem number?_render {i : Int} (exact : Exact i) :
    number? (Number.int i).render = some (.int i, []) := by
  obtain ⟨low, high⟩ := exact
  rw [Number.render, Int.toString_eq_repr, Int.repr_eq_if]
  split
  case isTrue natural =>
    obtain ⟨n, rfl⟩ := Int.eq_ofNat_of_zero_le natural
    obtain ⟨c, cs, spelled⟩ := List.exists_cons_of_ne_nil (Nat.toDigits_ne_nil (n := n) (b := 10))
    have digit : c.isDigit := toDigits_isDigit n c (by simp [spelled])
    have unsigned : number? (Nat.toDigits 10 n) = unsigned? false (Nat.toDigits 10 n) := by
      rw [spelled, number?]
      intro _ same
      obtain ⟨rfl, -⟩ := List.cons.inj same
      exact absurd digit (by decide)
    rw [Int.toNat_natCast, Nat.toList_repr, unsigned, unsigned?_toDigits,
      assemble_toDigits n (by rw [maxWhole]; omega)]
    rfl
  case isFalse negative =>
    obtain ⟨n, rfl⟩ := Int.exists_eq_neg_ofNat (Int.le_of_lt (Int.not_le.mp negative))
    have signed : ("-" ++ (-(-(n : Int))).toNat.repr).toList = '-' :: Nat.toDigits 10 n := by
      simp
    rw [signed, number?, unsigned?_toDigits, assemble_negative_toDigits n (by omega) (by omega)]
    rfl

def BeginsNumber (c : Char) : Prop := c = '-' ∨ c.isDigit = true ∨ c = '.' ∨ c = 'e'

theorem BeginsNumber.unlike {c : Char} (begins : BeginsNumber c) :
    ∀ x ∈ [' ', '\t', '\n', '\r', '[', ']', '\x7b', '\x7d', 'n', 't', 'f', '"'], c ≠ x := by
  have others : ∀ x ∈ [' ', '\t', '\n', '\r', '[', ']', '\x7b', '\x7d', 'n', 't', 'f', '"'],
      ¬ BeginsNumber x := by simp [BeginsNumber]
  rintro x member rfl
  exact others c member begins

/-- What begins as a number does is a number or nothing. -/
theorem value?_eq_number? (room : Nat) {c : Char} (cs : List Char) (begins : BeginsNumber c) :
    value? room (c :: cs) = (number? (c :: cs)).map fun (n, r) => (.number n, r) := by
  have others := begins.unlike
  simp only [List.forall_mem_cons] at others
  have scalar : value? room (c :: cs) = scalar? (c :: cs) := by
    unfold value?
    split <;> simp_all
  rw [scalar]
  simp [scalar?, others]

theorem BeginsNumber.skipSpace {c : Char} (begins : BeginsNumber c) (cs : List Char) :
    skipSpace (c :: cs) = c :: cs := by
  have others := begins.unlike
  simp only [List.forall_mem_cons] at others
  simp [Json.skipSpace, isSpace, others]

theorem render_plain (i : Int) : ∀ c ∈ (Number.int i).render, c = '-' ∨ c.isDigit = true := by
  rw [Number.render, Int.toString_eq_repr, Int.repr_eq_if]
  intro c member
  split at member
  · exact .inr (toDigits_isDigit _ c (by simpa using member))
  · rw [String.toList_append, List.mem_append] at member
    rcases member with sign | digits
    · exact .inl (by simpa using sign)
    · exact .inr (toDigits_isDigit _ c (by simpa using digits))

theorem render_eq_cons {i : Int} (exact : Exact i) : ∃ c cs, (Number.int i).render = c :: cs := by
  refine List.exists_cons_of_ne_nil fun empty => ?_
  have read := number?_render exact
  rw [empty] at read
  simp [number?, unsigned?, takeDigits] at read

theorem read?_render {i : Int} (exact : Exact i) :
    read? (Number.int i).render = some (.number (.int i)) := by
  have read := number?_render exact
  have plain := render_plain i
  obtain ⟨c, cs, spelled⟩ := render_eq_cons exact
  rw [spelled] at read plain ⊢
  have begins : BeginsNumber c := (plain c List.mem_cons_self).imp_right .inl
  have value := value?_eq_number? maxDepth cs begins
  rw [read] at value
  rw [read?, readVerbatim?, readWithin?, begins.skipSpace, value]
  simp [skipSpace, Value.canonical]

end ExtensionAdmin.Json
