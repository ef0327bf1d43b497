import Mathlib.Data.List.Sort
import ExtensionAdmin.Proofs.Url.Punycode
import ExtensionAdmin.Proofs.Url.LowerCase

/-! Labels whose code is long. A distance of a thousand takes three digits, whatever the bias is. In
a label of characters that are far from each other every distance is that long, except for the first
few; so hundreds of them take thousands of digits. -/

namespace ExtensionAdmin.Url.Punycode

variable {n : Nat} {points : List Nat} {e : Encoder}

/-- After one digit of a long distance there is still one that does not fit in a digit. -/
theorem three_le_length (fuel : Nat) {q : Nat} (far : 936 ≤ q) (k bias : Nat) :
    3 ≤ (encodeDistance (fuel + 2) q k bias).length := by
  have low := threshold_pos k bias
  have high := threshold_le k bias
  have left : 26 ≤ (q - threshold k bias) / (36 - threshold k bias) := by
    rw [Nat.le_div_iff_mul_le (by omega)]
    omega
  have next := threshold_le (k + 36) bias
  have some_digit : ∀ r k, 0 < (encodeDistance fuel r k bias).length := fun r k =>
    List.length_pos_iff.mpr (Decoder.encodeDistance_ne_nil fuel r k bias)
  have last := some_digit (((q - threshold k bias) / (36 - threshold k bias) -
    threshold (k + 36) bias) / (36 - threshold (k + 36) bias)) (k + 36 + 36)
  rw [encodeDistance, if_neg (by omega), encodeDistance, if_neg (by omega), List.length_cons,
    List.length_cons]
  omega

theorem Encoder.seen_grows (n : Nat) (e : Encoder) (c : Nat) :
    e.count ≤ (e.seen n c).count ∧ e.output.length ≤ (e.seen n c).output.length := by
  unfold Encoder.seen
  split
  · exact ⟨Nat.le_refl _, Nat.le_refl _⟩
  split
  · exact ⟨Nat.le_succ _, by simp⟩
  · exact ⟨Nat.le_refl _, Nat.le_refl _⟩

theorem Encoder.pass_grows (n : Nat) (e : Encoder) (label : List Nat) :
    e.count ≤ (e.pass n label).count ∧ e.output.length ≤ (e.pass n label).output.length := by
  induction label generalizing e with
  | nil => exact ⟨Nat.le_refl _, Nat.le_refl _⟩
  | cons c label ih =>
    have first := e.seen_grows n c
    have later := ih (e.seen n c)
    rw [Encoder.pass_eq, List.foldl_cons, ← Encoder.pass_eq]
    exact ⟨Nat.le_trans first.1 later.1, Nat.le_trans first.2 later.2⟩

/-- The pass of a character inserts it, with three digits if it begins a long way behind. -/
theorem Encoder.pass_member {label : List Nat} (member : n ∈ label) (e : Encoder) :
    e.count + 1 ≤ (e.pass n label).count ∧
      (936 ≤ e.delta → e.output.length + 3 ≤ (e.pass n label).output.length) := by
  induction label generalizing e with
  | nil => cases member
  | cons c label ih =>
    rw [Encoder.pass_eq, List.foldl_cons, ← Encoder.pass_eq]
    rcases Nat.lt_trichotomy c n with old | rfl | later
    · have rest := ih ((List.mem_cons.mp member).resolve_left (by omega)) (e.seen n c)
      rw [e.seen_before old] at rest ⊢
      exact ⟨rest.1, fun far => rest.2 (Nat.le_succ_of_le far)⟩
    · have rest := (e.seen c c).pass_grows c label
      rw [e.seen_here] at rest ⊢
      refine ⟨rest.1, fun far => Nat.le_trans ?_ rest.2⟩
      obtain ⟨fuel, same⟩ := Nat.exists_eq_add_of_le' (Nat.le_trans (by decide : 2 ≤ 936) far)
      have long := three_le_length fuel far 36 e.bias
      rw [← same] at long
      rw [List.length_append]
      exact Nat.add_le_add_left long _
    · rw [e.seen_beyond later]
      exact ih ((List.mem_cons.mp member).resolve_left (by omega)) e

def spread (i : Nat) : Nat := 0x20000 + 60 * i

/-- The pass of the next ideograph. From the sixteenth on, all distances are long. -/
theorem advanced_spread {acc : Encoder × Nat} {i : Nat} (member : spread i ∈ points)
    (counted : i ≤ acc.1.count) (behind : acc.2 + 59 ≤ spread i) :
    i + 1 ≤ (advanced points acc (spread i)).1.count ∧
      (advanced points acc (spread i)).2 + 59 ≤ spread (i + 1) ∧
      acc.1.output.length ≤ (advanced points acc (spread i)).1.output.length ∧
      (15 ≤ i → acc.1.output.length + 3 ≤ (advanced points acc (spread i)).1.output.length) := by
  have begun := Encoder.pass_member member
    { acc.1 with delta := acc.1.delta + (spread i - acc.2) * (acc.1.count + 1) }
  have grows := Encoder.pass_grows (spread i)
    { acc.1 with delta := acc.1.delta + (spread i - acc.2) * (acc.1.count + 1) } points
  refine ⟨Nat.le_trans (Nat.succ_le_succ counted) begun.1, ?_, grows.2, fun many => begun.2 ?_⟩
  · simp only [advanced, spread]
    omega
  · have long : 59 * 16 ≤ (spread i - acc.2) * (acc.1.count + 1) :=
      Nat.mul_le_mul (by omega) (by omega)
    simp only
    omega

theorem foldl_spread {k i : Nat} (acc : Encoder × Nat)
    (members : ∀ j ∈ List.range' i k, spread j ∈ points) (counted : i ≤ acc.1.count)
    (behind : acc.2 + 59 ≤ spread i) : acc.1.output.length + 3 * k ≤
      (((List.range' i k).map spread).foldl (advanced points) acc).1.output.length +
        3 * (15 - i) := by
  induction k generalizing i acc with
  | zero => exact Nat.le_add_right _ _
  | succ k ih =>
    rw [List.range'_succ] at members ⊢
    obtain ⟨here, later⟩ := List.forall_mem_cons.mp members
    obtain ⟨more, ahead, grown, long⟩ := advanced_spread here counted behind
    have rest := ih _ later more ahead
    rw [List.map_cons, List.foldl_cons]
    by_cases many : 15 ≤ i
    · have step := long many
      omega
    · omega

def spreadLabel : List Char := (List.range 700).map fun i => Char.ofNat (spread i)

theorem spreadLabel_points : spreadLabel.map Char.toNat = (List.range' 0 700).map spread := by
  rw [spreadLabel, List.map_map, List.range_eq_range']
  refine List.map_congr_left fun i member => Domain.toNat_ofNat (Or.inr ?_)
  have small := List.mem_range'_1.mp member
  unfold spread
  omega

theorem beyond_of_ascending (ascending : points.Pairwise (· < ·)) (large : ∀ n ∈ points, 0x80 ≤ n) :
    beyond points = points :=
  (beyond_ascending points).eq_of_mem_iff ascending fun n => by
    rw [mem_beyond]
    exact ⟨fun ⟨member, _⟩ => member, fun member => ⟨member, large n member⟩⟩

theorem encode_spreadLabel : 2000 < (encode spreadLabel).length := by
  have ascending : ((List.range' 0 700).map spread).Pairwise (· < ·) := by
    refine List.pairwise_map.mpr ((List.pairwise_lt_range').imp fun less => ?_)
    unfold spread
    omega
  have large : ∀ n ∈ (List.range' 0 700).map spread, 0x80 ≤ n := by
    intro n member
    obtain ⟨i, -, rfl⟩ := List.mem_map.mp member
    unfold spread
    omega
  have passes : encode spreadLabel = ((beyond (spreadLabel.map Char.toNat)).foldl
      (advanced (spreadLabel.map Char.toNat)) (⟨0, 72, (basicPart spreadLabel).length,
        (basicPart spreadLabel).length,
        if (basicPart spreadLabel).isEmpty then [] else basicPart spreadLabel ++ ['-']⟩,
        0x80)).1.output := rfl
  have members : ∀ j ∈ List.range' 0 700, spread j ∈ (List.range' 0 700).map spread :=
    fun j member => List.mem_map_of_mem member
  have grown := foldl_spread
    (⟨0, 72, (basicPart spreadLabel).length, (basicPart spreadLabel).length,
      if (basicPart spreadLabel).isEmpty then [] else basicPart spreadLabel ++ ['-']⟩, 0x80)
    members (Nat.zero_le _) (by decide)
  rw [passes, spreadLabel_points, beyond_of_ascending ascending large]
  omega

theorem isIdeograph_spreadLabel : ∀ c ∈ spreadLabel, Domain.isIdeograph c.toNat = true := by
  intro c member
  have number : c.toNat ∈ spreadLabel.map Char.toNat := List.mem_map_of_mem member
  rw [spreadLabel_points] at number
  obtain ⟨i, within, same⟩ := List.mem_map.mp number
  have small := List.mem_range'_1.mp within
  rw [← same, spread]
  simp only [Domain.isIdeograph, Bool.and_eq_true, Nat.ble_eq]
  omega

end ExtensionAdmin.Url.Punycode
