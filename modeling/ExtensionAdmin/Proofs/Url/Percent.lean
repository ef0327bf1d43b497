import Mathlib.Data.List.Basic
import ExtensionAdmin.Url.Domain
import ExtensionAdmin.Url.Path

/-! Percent-encoding, and the bytes of a text. An encoded text stands for the bytes of the text that
it was encoded from, and these stand for the text. So texts without percent signs of their own are
told apart by what they are encoded to. -/

namespace ExtensionAdmin.Url

open Text (isAscii)

variable {c : Char} {cs ds : List Char} {reserved : Char → Bool}

theorem toNat_lt (c : Char) : c.toNat < 0x110000 := by
  have known : c.toNat.isValidChar := c.valid
  rcases known with low | high <;> omega

theorem utf8_toUInt8 (c : Char) : (utf8 c).map Nat.toUInt8 = String.utf8EncodeChar c := by
  have bound := toNat_lt c
  have number : c.val.toNat = c.toNat := rfl
  simp only [utf8, String.utf8EncodeChar, number]
  by_cases one : c.toNat < 0x80
  · rw [if_pos one, if_pos (by omega)]
    rfl
  by_cases two : c.toNat < 0x800
  · rw [if_neg one, if_pos two, if_neg (by omega), if_pos (by omega), Nat.add_comm 0xC0,
      Nat.add_comm 0x80, Nat.mod_eq_of_lt (by omega : c.toNat / 64 < 32)]
    rfl
  by_cases three : c.toNat < 0x10000
  · rw [if_neg one, if_neg two, if_pos three, if_neg (by omega), if_neg (by omega),
      if_pos (by omega), Nat.add_comm 0xE0, Nat.add_comm 0x80, Nat.add_comm 0x80,
      Nat.mod_eq_of_lt (by omega : c.toNat / 4096 < 16)]
    rfl
  · rw [if_neg one, if_neg two, if_neg three, if_neg (by omega), if_neg (by omega),
      if_neg (by omega), Nat.add_comm 0xF0, Nat.add_comm 0x80, Nat.add_comm 0x80,
      Nat.add_comm 0x80, Nat.mod_eq_of_lt (by omega : c.toNat / 262144 < 8)]
    rfl

theorem fromUTF8?_utf8 (cs : List Char) :
    String.fromUTF8? ⟨((cs.flatMap utf8).map Nat.toUInt8).toArray⟩ = some (String.ofList cs) := by
  have bytes : (cs.flatMap utf8).map Nat.toUInt8 = cs.flatMap String.utf8EncodeChar := by
    rw [List.map_flatMap]
    exact List.flatMap_congr fun c _ => utf8_toUInt8 c
  have encoded : (⟨((cs.flatMap utf8).map Nat.toUInt8).toArray⟩ : ByteArray) = cs.utf8Encode := by
    rw [bytes]
    exact ByteArray.ext (List.data_toByteArray).symm
  rw [encoded, String.fromUTF8?, dif_pos ByteArray.isValidUTF8_utf8Encode]
  rfl

theorem utf8_ascii (ascii : isAscii c = true) : utf8 c = [c.toNat] := by
  rw [isAscii, decide_eq_true_iff] at ascii
  rw [utf8, if_pos ascii]

theorem isAscii_of_utf8 (low : ∀ b ∈ utf8 c, b < 0x80) : isAscii c = true := by
  rw [isAscii, decide_eq_true_iff]
  by_contra beyond
  simp only [utf8, if_neg beyond] at low
  split at low
  · have first := low _ List.mem_cons_self
    omega
  split at low
  · have first := low _ List.mem_cons_self
    omega
  · have first := low _ List.mem_cons_self
    omega

theorem flatMap_utf8_ascii (ascii : ∀ c ∈ cs, isAscii c = true) :
    cs.flatMap utf8 = cs.map Char.toNat := by
  rw [List.flatMap_congr fun c member => utf8_ascii (ascii c member), List.map_eq_flatMap]

/-- The bytes of a text stand for the text. -/
theorem ofUtf8?_utf8 (cs : List Char) : ofUtf8? (cs.flatMap utf8) = some cs := by
  rw [ofUtf8?]
  split
  case isTrue low =>
    have ascii : ∀ c ∈ cs, isAscii c = true := by
      intro c member
      refine isAscii_of_utf8 fun b byte => ?_
      simpa using List.all_eq_true.mp low b (List.mem_flatMap.mpr ⟨c, member, byte⟩)
    rw [flatMap_utf8_ascii ascii, List.map_map]
    simp [Function.comp_def]
  case isFalse => rw [fromUTF8?_utf8, Option.map_some, String.toList_ofList]

theorem decode_cons (plain : c ≠ '%') (cs : List Char) :
    decode (c :: cs) = utf8 c ++ decode cs := by
  rw [decode]
  rintro a b rest same -
  exact plain same

theorem decode_unescaped (plain : ∀ c ∈ cs, c ≠ '%') : decode cs = cs.flatMap utf8 := by
  induction cs with
  | nil => rfl
  | cons c cs ih =>
    obtain ⟨here, later⟩ := List.forall_mem_cons.mp plain
    rw [decode_cons here, ih later, List.flatMap_cons]

theorem utf8_lt {n : Nat} (member : n ∈ utf8 c) : n < 256 := by
  have bound := toNat_lt c
  simp only [utf8] at member
  split at member
  · simp at member
    omega
  split at member
  · simp at member
    omega
  split at member
  · simp at member
    omega
  · simp at member
    omega

theorem encode_cons (reserved : Char → Bool) (c : Char) (cs : List Char) :
    encode reserved (c :: cs) =
      (if reserved c then (utf8 c).flatMap percentByte else [c]) ++ encode reserved cs := rfl

theorem encode_append (reserved : Char → Bool) (cs ds : List Char) :
    encode reserved (cs ++ ds) = encode reserved cs ++ encode reserved ds :=
  List.flatMap_append

/-- What is written for a text: characters of it that need no encoding, percent signs and digits. -/
theorem mem_encode (member : c ∈ encode reserved cs) :
    (c ∈ cs ∧ reserved c = false) ∨ c = '%' ∨ ∃ d < 16, c = Text.hexDigit d := by
  obtain ⟨e, among, within⟩ := List.mem_flatMap.mp member
  split at within
  case isTrue =>
    obtain ⟨b, byte, digit⟩ := List.mem_flatMap.mp within
    have small := utf8_lt byte
    simp only [percentByte, List.mem_cons, List.not_mem_nil, or_false] at digit
    rcases digit with rfl | rfl | rfl
    · exact Or.inr (Or.inl rfl)
    · exact Or.inr (Or.inr ⟨_, by omega, rfl⟩)
    · exact Or.inr (Or.inr ⟨_, by omega, rfl⟩)
  case isFalse kept =>
    rw [List.mem_singleton.mp within]
    exact Or.inl ⟨among, Bool.eq_false_iff.mpr kept⟩

/-- What is encoded holds nothing that would have to be encoded. -/
theorem encode_reserved (percent : reserved '%' = false)
    (digits : ∀ d ∈ List.range 16, reserved (Text.hexDigit d) = false)
    (member : c ∈ encode reserved cs) : reserved c = false := by
  rcases mem_encode member with ⟨-, kept⟩ | rfl | ⟨d, small, rfl⟩
  · exact kept
  · exact percent
  · exact digits d (List.mem_range.mpr small)

theorem encode_eq (plain : ∀ c ∈ cs, reserved c = false) : encode reserved cs = cs := by
  induction cs with
  | nil => rfl
  | cons c cs ih =>
    obtain ⟨here, later⟩ := List.forall_mem_cons.mp plain
    rw [encode_cons, if_neg (by simp [here]), ih later]
    rfl

theorem digitValue?_hexDigit {d : Nat} (small : d < 16) :
    Text.digitValue? (Text.hexDigit d) = some d := by
  have all : ∀ e ∈ List.range 16, Text.digitValue? (Text.hexDigit e) = some e := by decide
  exact all d (List.mem_range.mpr small)

theorem decode_percentByte {b : Nat} (byte : b < 256) (cs : List Char) :
    decode (percentByte b ++ cs) = b :: decode cs := by
  rw [percentByte, List.cons_append, List.cons_append, List.cons_append, List.nil_append, decode,
    digitValue?_hexDigit (by omega), digitValue?_hexDigit (by omega)]
  simp only [Nat.div_add_mod']

theorem decode_percentBytes {bs : List Nat} (bytes : ∀ b ∈ bs, b < 256) (cs : List Char) :
    decode (bs.flatMap percentByte ++ cs) = bs ++ decode cs := by
  induction bs with
  | nil => rfl
  | cons b bs ih =>
    obtain ⟨here, later⟩ := List.forall_mem_cons.mp bytes
    rw [List.flatMap_cons, List.append_assoc, decode_percentByte here, ih later]
    rfl

/-- An encoded text stands for the bytes of the text, if that has no percent signs of its own. -/
theorem decode_encode (unescaped : '%' ∉ cs) : decode (encode reserved cs) = cs.flatMap utf8 := by
  induction cs with
  | nil => rfl
  | cons c cs ih =>
    obtain ⟨here, later⟩ := not_or.mp (mt List.mem_cons.mpr unescaped)
    rw [encode_cons, List.flatMap_cons, ← ih later]
    split
    · exact decode_percentBytes (fun b byte => utf8_lt byte) _
    · exact decode_cons (Ne.symm here) _

theorem encode_injective (unescaped : '%' ∉ cs) (unescaped' : '%' ∉ ds)
    (same : encode reserved cs = encode reserved ds) : cs = ds := by
  have bytes : cs.flatMap utf8 = ds.flatMap utf8 := by
    rw [← decode_encode unescaped, same, decode_encode unescaped']
  have texts := congrArg ofUtf8? bytes
  rw [ofUtf8?_utf8, ofUtf8?_utf8] at texts
  exact Option.some.inj texts

end ExtensionAdmin.Url
