import ExtensionAdmin.Json.Printer
import ExtensionAdmin.Json.Reader
import Mathlib.Tactic.IntervalCases
import Mathlib.Tactic.SplitIfs

/-! A string is read as it is written, and is shorter than the JSON text that it is read from. -/

namespace ExtensionAdmin.Json

theorem push_length {c : Char} {r : Option (List Char × List Char)} {s rest : List Char} {n : Nat}
    (pushed : push c r = some (s, rest))
    (shorter : ∀ {tail}, r = some (tail, rest) → tail.length + rest.length < n) :
    s.length + rest.length < n + 1 := by
  rcases r with _ | ⟨tail, left⟩
  · cases pushed
  · cases pushed
    have below := shorter rfl
    simp only [List.length_cons]
    omega

theorem stringBody_length {cs s rest : List Char} (read : stringBody cs = some (s, rest)) :
    s.length + rest.length < cs.length := by
  fun_induction stringBody cs generalizing s
  case case2 =>
    cases read
    simp
  case case7 ih | case10 ih | case12 ih | case15 ih =>
    have longer := push_length read ih
    simp only [List.length_cons]
    omega
  all_goals cases read

theorem scalar?_string_length {cs rest : List Char} {s : String}
    (read : scalar? cs = some (.string s, rest)) : s.toList.length < cs.length := by
  cases cs with
  | nil => cases read
  | cons c cs =>
    simp only [scalar?] at read
    split_ifs at read
    all_goals
      obtain ⟨left, inside, same⟩ := Option.map_eq_some_iff.mp read
      cases same
    -- Only what begins with a quote is left.
    have shorter := stringBody_length inside
    simp only [String.toList_ofList, List.length_cons]
    omega

theorem value?_string_length {room : Nat} {cs rest : List Char} {s : String}
    (read : value? room cs = some (.string s, rest)) : s.toList.length < cs.length := by
  unfold value? at read
  split at read
  case h_5 => exact scalar?_string_length read
  all_goals simp at read

theorem canonical_eq_string {v : Value} {s : String} (same : v.canonical = .string s) :
    v = .string s := by
  cases v <;> simp_all [Value.canonical]

theorem read?_string_length {cs : List Char} {s : String} (read : read? cs = some (.string s)) :
    s.toList.length < cs.length := by
  obtain ⟨v, verbatim, same⟩ := Option.map_eq_some_iff.mp read
  obtain rfl := canonical_eq_string same
  unfold readVerbatim? readWithin? at verbatim
  split at verbatim
  · cases verbatim
  · rename_i w rest value
    split at verbatim
    · cases verbatim
      have shorter := value?_string_length value
      have skipped : (skipSpace cs).length ≤ cs.length := (List.dropWhile_suffix _).length_le
      omega
    · cases verbatim

theorem stringBody_plain {c : Char} (cs : List Char) (quote : c ≠ '"') (slash : c ≠ '\\')
    (printed : ¬ c.toNat < 0x20) : stringBody (c :: cs) = push c (stringBody cs) := by
  rw [stringBody.eq_def]
  simp only [if_neg quote, if_neg slash, if_neg printed]

theorem stringBody_escape {e c : Char} (cs : List Char) (stands : escaped? e = some c) :
    stringBody ('\\' :: e :: cs) = push c (stringBody cs) := by
  have short : e ≠ 'u' := by
    rintro rfl
    cases stands
  rw [stringBody.eq_def]
  simp [short, stands]

theorem unit?_control {n : Nat} (control : n < 0x20) :
    unit? '0' '0' (Nat.digitChar (n / 16)) (Nat.digitChar (n % 16)) = some n := by
  interval_cases n <;> decide

theorem stringBody_control {c : Char} (cs : List Char) (control : c.toNat < 0x20) :
    stringBody ('\\' :: 'u' :: '0' :: '0' :: Nat.digitChar (c.toNat / 16) ::
      Nat.digitChar (c.toNat % 16) :: cs) = push c (stringBody cs) := by
  have single : isTrailing c.toNat = false ∧ isLeading c.toNat = false := by
    constructor
    · simp only [isTrailing, Bool.and_eq_false_iff, decide_eq_false_iff_not]
      omega
    · simp only [isLeading, Bool.and_eq_false_iff, decide_eq_false_iff_not]
      omega
  rw [stringBody.eq_def]
  simp [unit?_control control, single]

theorem stringBody_escapeChar (c : Char) (cs : List Char) :
    stringBody (escapeChar c ++ cs) = push c (stringBody cs) := by
  unfold escapeChar
  split_ifs with quote slash back feed line carriage tab control
  · exact stringBody_escape cs (by rw [quote]; rfl)
  · exact stringBody_escape cs (by rw [slash]; rfl)
  · exact stringBody_escape cs (by rw [← Char.ofNat_toNat c, back]; rfl)
  · exact stringBody_escape cs (by rw [← Char.ofNat_toNat c, feed]; rfl)
  · exact stringBody_escape cs (by rw [line]; rfl)
  · exact stringBody_escape cs (by rw [carriage]; rfl)
  · exact stringBody_escape cs (by rw [tab]; rfl)
  · exact stringBody_control cs control
  · exact stringBody_plain cs quote slash control

/-- What is written up to the closing quote is read as the characters that were written. -/
theorem stringBody_written (cs rest : List Char) :
    stringBody (cs.flatMap escapeChar ++ '"' :: rest) = some (cs, rest) := by
  induction cs with
  | nil => simp [stringBody.eq_def]
  | cons c cs ih => rw [List.flatMap_cons, List.append_assoc, stringBody_escapeChar, ih, push]

end ExtensionAdmin.Json
