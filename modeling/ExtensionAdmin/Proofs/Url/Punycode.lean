import Mathlib.Data.List.TakeWhile
import Mathlib.Tactic.Linarith
import Mathlib.Tactic.Ring
import ExtensionAdmin.Url.Punycode

/-! What is written in Punycode is read back. The encoder goes through all characters and, for each,
through all places of the label; the distance that it keeps is how far it has gone since the last
insertion. The decoder stands where that insertion was. So at every point of the encoder's way the
distance leads from where the decoder stands to that point, and a distance that is read there makes
the decoder insert the very character at the very place. The numbers stay below 32 bits for labels
of at most a thousand characters. -/

namespace ExtensionAdmin.Url.Punycode

theorem value?_digit {d : Nat} (small : d < 36) : value? (digit d) = some d := by
  have all : ∀ e ∈ List.range 36, value? (digit e) = some e := by decide
  exact all d (List.mem_range.mpr small)

def IsDigit (c : Char) : Prop := ∃ d < 36, c = digit d

theorem threshold_pos (k bias : Nat) : 1 ≤ threshold k bias := by
  unfold threshold
  omega

theorem threshold_le (k bias : Nat) : threshold k bias ≤ 26 := by
  unfold threshold
  omega

/-- What is known of the weight of a digit: as long as the thresholds are one it is a power of 35,
and once they are 26 it grows no faster than the number that is left shrinks. -/
def Weighs (bias w k : Nat) : Prop := (∃ m, w = 35 ^ m) ∨ bias + 26 ≤ k

theorem weighs_first (bias k : Nat) : Weighs bias 1 k := .inl ⟨0, rfl⟩

/-- The next digit weighs in the same way, and less than 32 bits. -/
theorem weighs_next {bias w k q : Nat} (weighs : Weighs bias w k) (range : q * w < 35 ^ 6)
    (continued : threshold k bias ≤ q) :
    Weighs bias (w * (36 - threshold k bias)) (k + 36) ∧
      w * (36 - threshold k bias) ≤ 35 ^ 6 := by
  have positive := threshold_pos k bias
  have bounded := threshold_le k bias
  have light : threshold k bias * w < 35 ^ 6 :=
    lt_of_le_of_lt (Nat.mul_le_mul_right w continued) range
  -- The threshold times the weight is below the limit. So early on there is room for one more
  -- factor of 35, and later, with a threshold of 26, for the factor of 10.
  rcases weighs with ⟨m, rfl⟩ | late
  · have few : m < 6 := by
      by_contra many
      have large : 35 ^ 6 ≤ 35 ^ m := Nat.pow_le_pow_right (by decide) (by omega)
      nlinarith
    have next : 35 ^ m * (36 - threshold k bias) ≤ 35 ^ (m + 1) := by
      rw [Nat.pow_succ]
      exact Nat.mul_le_mul_left _ (by omega)
    refine ⟨?_, next.trans (Nat.pow_le_pow_right (by decide) few)⟩
    by_cases early : k ≤ bias
    · have one : threshold k bias = 1 := by unfold threshold; omega
      exact .inl ⟨m + 1, by rw [one, Nat.pow_succ]⟩
    · exact .inr (by omega)
  · have full : threshold k bias = 26 := by unfold threshold; omega
    rw [full] at light ⊢
    exact ⟨.inr (by omega), by omega⟩

theorem decodeDistance_digit {bias i w k d : Nat} (small : d < 36) (light : w < 0x100000000)
    (near : i + d * w < 0x100000000) (cs : List Char) :
    decodeDistance bias i w k (digit d :: cs) =
      if d < threshold k bias then some (i + d * w, cs)
      else decodeDistance bias (i + d * w) (w * (36 - threshold k bias)) (k + 36) cs := by
  have fits : (decide (0x100000000 ≤ i + d * w) || decide (0x100000000 ≤ w)) = false := by
    simp only [Bool.or_eq_false_iff, decide_eq_false_iff_not]
    omega
  simp only [decodeDistance, value?_digit small, Option.bind_eq_bind, Option.bind_some, fits]
  rfl

/-- A distance is read back, with what follows it left over. -/
theorem decodeDistance_encodeDistance {fuel q : Nat} (enough : q ≤ fuel) {bias i w k : Nat}
    (weighs : Weighs bias w k) (light : w ≤ 35 ^ 6) (range : q * w < 35 ^ 6)
    (near : i + q * w < 0x100000000) (rest : List Char) :
    decodeDistance bias i w k (encodeDistance fuel q k bias ++ rest) = some (i + q * w, rest) := by
  induction fuel generalizing q i w k with
  | zero =>
    obtain rfl : q = 0 := by omega
    have positive := threshold_pos k bias
    rw [encodeDistance, List.cons_append, List.nil_append,
      decodeDistance_digit (by decide) (by omega) near, if_pos (by omega)]
  | succ fuel ih =>
    have positive := threshold_pos k bias
    have bounded := threshold_le k bias
    by_cases last : q < threshold k bias
    · rw [encodeDistance, if_pos last, List.cons_append, List.nil_append,
        decodeDistance_digit (by omega) (by omega) near, if_pos last]
    · obtain ⟨weighs, lighter⟩ := weighs_next weighs range (by omega)
      rw [encodeDistance, if_neg last, List.cons_append]
      -- What this digit leaves out is written by the next ones, which weigh `36 - t` times as much.
      set t := threshold k bias
      have parts := Nat.mod_add_div (q - t) (36 - t)
      have below := Nat.mod_lt (q - t) (y := 36 - t) (by omega)
      have whole : t + (q - t) % (36 - t) + (36 - t) * ((q - t) / (36 - t)) = q := by omega
      have value : (t + (q - t) % (36 - t)) * w + (q - t) / (36 - t) * (w * (36 - t)) = q * w := by
        nth_rewrite 3 [← whole]
        ring
      have shrinks : (q - t) / (36 - t) ≤ fuel := by
        have least := Nat.div_le_self (q - t) (36 - t)
        omega
      rw [decodeDistance_digit (by omega) (by omega) (by omega), if_neg (by omega),
        ih shrinks weighs lighter (by omega) (by omega), Nat.add_assoc, value]

/-- What a decoder has done: the character and the place that it counts from, the bias, and the
label so far. -/
structure Decoder where
  n : Nat
  i : Nat
  bias : Nat
  label : List Nat

namespace Decoder

def run (d : Decoder) (fuel : Nat) (cs : List Char) : Option (List Nat) :=
  decodeFrom fuel d.n d.i d.bias d.label cs

structure Reads (d : Decoder) (text : List Char) (next : Decoder) : Prop where
  digits : ∀ c ∈ text, IsDigit c
  goes : ∃ steps, steps ≤ text.length ∧
    ∀ fuel rest, d.run (fuel + steps) (text ++ rest) = next.run fuel rest

theorem Reads.nothing (d : Decoder) : d.Reads [] d where
  digits := by simp
  goes := ⟨0, Nat.le_refl 0, fun _ _ => rfl⟩

theorem Reads.trans {d middle last : Decoder} {text more : List Char} (first : d.Reads text middle)
    (second : middle.Reads more last) : d.Reads (text ++ more) last := by
  obtain ⟨steps, few, goes⟩ := first.goes
  obtain ⟨others, rest, follows⟩ := second.goes
  constructor
  case digits => exact fun c member =>
    (List.mem_append.mp member).elim (first.digits c) (second.digits c)
  case goes =>
    refine ⟨others + steps, ?_, ?_⟩
    · rw [List.length_append]
      omega
    · intro fuel left
      rw [← Nat.add_assoc, List.append_assoc, goes, follows]

/-- A label that is read to its end is there, if there are enough steps. -/
theorem Reads.whole {d last : Decoder} {text : List Char} (reads : d.Reads text last) {fuel : Nat}
    (enough : text.length ≤ fuel) : d.run fuel text = some last.label := by
  obtain ⟨steps, few, goes⟩ := reads.goes
  have whole := goes (fuel - steps) []
  rw [Nat.sub_add_cancel (few.trans enough), List.append_nil] at whole
  rw [whole, run]
  cases fuel - steps <;> rfl

def insert (d : Decoder) (n place distance : Nat) : Decoder where
  n := n
  i := place + 1
  bias := adapt distance (d.label.length + 1) (d.i == 0)
  label := d.label.take place ++ [n] ++ d.label.drop place

theorem encodeDistance_digits {fuel q : Nat} (enough : q ≤ fuel) (k bias : Nat) :
    ∀ c ∈ encodeDistance fuel q k bias, IsDigit c := by
  induction fuel generalizing q k with
  | zero =>
    intro c member
    exact ⟨q, by omega, by simpa [encodeDistance] using member⟩
  | succ fuel ih =>
    have positive := threshold_pos k bias
    have bounded := threshold_le k bias
    intro c member
    rw [encodeDistance] at member
    by_cases last : q < threshold k bias
    · rw [if_pos last] at member
      exact ⟨q, by omega, by simpa using member⟩
    · rw [if_neg last] at member
      set t := threshold k bias
      have below := Nat.mod_lt (q - t) (y := 36 - t) (by omega)
      have least := Nat.div_le_self (q - t) (36 - t)
      rcases List.mem_cons.mp member with rfl | member
      · exact ⟨_, by omega, rfl⟩
      · exact ih (by omega) _ c member

theorem encodeDistance_ne_nil (fuel q k bias : Nat) : encodeDistance fuel q k bias ≠ [] := by
  cases fuel with
  | zero => simp [encodeDistance]
  | succ fuel =>
    rw [encodeDistance]
    split <;> simp

/-- A distance leads to the character and the place that are as far away. -/
theorem reads_insert {d : Decoder} {n place distance : Nat} (inside : place ≤ d.label.length)
    (ahead : d.n ≤ n) (valid : n.isValidChar) (range : distance < 35 ^ 6)
    (near : d.i + distance < 0x100000000)
    (leads : distance + d.i + d.n * (d.label.length + 1) = n * (d.label.length + 1) + place) :
    d.Reads (encodeDistance distance distance 36 d.bias) (d.insert n place distance) := by
  have read := decodeDistance_encodeDistance (Nat.le_refl distance) (weighs_first d.bias 36)
    (by decide) (by omega) (i := d.i) (by omega)
  -- The distance is counted in places: all those of the label for each character that is skipped,
  -- and then as many as there are in front of the insertion.
  have sum : d.i + distance = place + (n - d.n) * (d.label.length + 1) := by
    have apart : n = d.n + (n - d.n) := by omega
    have spread := congrArg (· * (d.label.length + 1)) apart
    simp only [Nat.add_mul] at spread leads ⊢
    omega
  have jumps : (d.i + distance) / (d.label.length + 1) = n - d.n := by
    rw [sum, Nat.add_mul_div_right _ _ (by omega), Nat.div_eq_of_lt (by omega), Nat.zero_add]
  have lands : (d.i + distance) % (d.label.length + 1) = place := by
    rw [sum, Nat.add_mul_mod_self_right, Nat.mod_eq_of_lt (by omega)]
  have filled := encodeDistance_ne_nil distance distance 36 d.bias
  refine ⟨encodeDistance_digits (Nat.le_refl distance) 36 d.bias, 1,
    List.length_pos_iff.mpr filled, ?_⟩
  intro fuel rest
  obtain ⟨c, cs, spelled⟩ := List.exists_cons_of_ne_nil filled
  have one := read rest
  rw [Nat.mul_one, spelled, List.cons_append] at one
  have moved : d.n + (n - d.n) = n := by omega
  simp only [run, spelled, List.cons_append, decodeFrom, one, Option.bind_eq_bind,
    Option.bind_some, jumps, lands, moved]
  simp [valid, insert]

end Decoder

def Encoder.seen (n : Nat) (e : Encoder) (c : Nat) : Encoder :=
  if c < n then { e with delta := e.delta + 1 }
  else if c = n then
    { e with
      output := e.output ++ encodeDistance e.delta e.delta 36 e.bias
      bias := adapt e.delta (e.count + 1) (e.count == e.basic)
      delta := 0
      count := e.count + 1 }
  else e

theorem Encoder.seen_before {n c : Nat} (old : c < n) (e : Encoder) :
    e.seen n c = { e with delta := e.delta + 1 } := by
  rw [Encoder.seen, if_pos old]

theorem Encoder.seen_here (c : Nat) (e : Encoder) :
    e.seen c c = { e with
      output := e.output ++ encodeDistance e.delta e.delta 36 e.bias
      bias := adapt e.delta (e.count + 1) (e.count == e.basic)
      delta := 0
      count := e.count + 1 } := by
  rw [Encoder.seen, if_neg (Nat.lt_irrefl c), if_pos rfl]

theorem Encoder.seen_beyond {n c : Nat} (later : n < c) (e : Encoder) : e.seen n c = e := by
  rw [Encoder.seen, if_neg (Nat.not_lt_of_gt later), if_neg (Nat.ne_of_gt later)]

theorem Encoder.pass_eq (n : Nat) (e : Encoder) (label : List Nat) :
    e.pass n label = label.foldl (Encoder.seen n) e := rfl

/-- In the pass of `n` an encoder is between the characters `before` and `after` of a label, and a
decoder has read what it wrote. The decoder has the characters that were met; the distance leads
from where it stands to where the encoder is. -/
structure Meets (n : Nat) (before after : List Nat) (e : Encoder) (d : Decoder) : Prop where
  label : d.label = before.filter (· ≤ n) ++ after.filter (· < n)
  count : e.count = d.label.length
  basic : e.basic ≤ e.count
  first : d.i = 0 ↔ e.count = e.basic
  bias : e.bias = d.bias
  ahead : d.n ≤ n
  leads : e.delta + d.i + d.n * (e.count + 1) =
    n * (e.count + 1) + (before.filter (· ≤ n)).length

variable {n : Nat} {before after points : List Nat} {e : Encoder} {d : Decoder}

theorem Meets.count_le (meets : Meets n before after e d) :
    e.count ≤ (before ++ after).length := by
  have left := List.length_filter_le (· ≤ n) before
  have right := List.length_filter_le (· < n) after
  rw [meets.count, meets.label, List.length_append, List.length_append]
  omega

/-- The character of the pass is inserted where it stands. -/
theorem Meets.insert (meets : Meets n before (n :: after) e d) (valid : n.isValidChar)
    (short : (before ++ n :: after).length ≤ 1000) :
    ∃ text next, (e.seen n n).output = e.output ++ text ∧ d.Reads text next ∧
      Meets n (before ++ [n]) after (e.seen n n) next := by
  have bounded : n < 0x110000 := by
    unfold Nat.isValidChar at valid
    omega
  have few := meets.count_le
  have leads := meets.leads
  have label : d.label = before.filter (· ≤ n) ++ after.filter (· < n) := by
    simpa using meets.label
  have inside : (before.filter (· ≤ n)).length ≤ d.label.length := by
    rw [label, List.length_append]
    omega
  -- No character is beyond 0x10FFFF and no label longer than a thousand, so nothing overflows.
  have size : n * (e.count + 1) ≤ 0x10FFFF * 1001 := Nat.mul_le_mul (by omega) (by omega)
  have count := meets.count
  have small : e.delta < 35 ^ 6 := by omega
  have reads := Decoder.reads_insert inside meets.ahead valid small (by omega)
    (by rw [← count]; exact leads)
  refine ⟨_, _, by rw [e.seen_here], by rw [meets.bias]; exact reads, ?_⟩
  have basic := meets.basic
  rw [e.seen_here]
  exact {
    label := by simp [Decoder.insert, label]
    count := by simp [Decoder.insert, count, label]; omega
    basic := by simp only; omega
    first := by simp [Decoder.insert]; omega
    bias := by simp [Decoder.insert, count, meets.first, beq_eq_decide]
    ahead := Nat.le_refl n
    leads := by simp [Decoder.insert]; omega }

/-- One character of the label: it stands already, it is inserted, or its pass is still to come. -/
theorem Meets.step {c : Nat} (meets : Meets n before (c :: after) e d) (valid : n.isValidChar)
    (short : (before ++ c :: after).length ≤ 1000) :
    ∃ text next, (e.seen n c).output = e.output ++ text ∧ d.Reads text next ∧
      Meets n (before ++ [c]) after (e.seen n c) next := by
  rcases Nat.lt_trichotomy c n with old | rfl | later
  case inl =>
    have leads := meets.leads
    rw [e.seen_before old]
    refine ⟨[], d, by simp, .nothing d, { meets with label := ?_, leads := ?_ }⟩
    · simp [meets.label, old, Nat.le_of_lt old]
    · simp only [List.filter_append, List.length_append, Nat.le_of_lt old, decide_true,
        List.filter_cons_of_pos, List.filter_nil, List.length_singleton]
      omega
  case inr.inl => exact meets.insert valid short
  case inr.inr =>
    rw [e.seen_beyond later]
    refine ⟨[], d, by simp, .nothing d, { meets with label := ?_, leads := ?_ }⟩
    · simp [meets.label, later, Nat.not_lt_of_gt later]
    · simpa [later] using meets.leads

/-- A whole pass, from the place where it is. -/
theorem Meets.pass (meets : Meets n before after e d) (valid : n.isValidChar)
    (short : (before ++ after).length ≤ 1000) :
    ∃ text next, (after.foldl (Encoder.seen n) e).output = e.output ++ text ∧ d.Reads text next ∧
      Meets n (before ++ after) [] (after.foldl (Encoder.seen n) e) next := by
  induction after generalizing before e d with
  | nil => exact ⟨[], d, by simp, .nothing d, by simpa using meets⟩
  | cons c after ih =>
    obtain ⟨text, middle, wrote, reads, stepped⟩ := meets.step valid short
    obtain ⟨more, last, wroteMore, readsMore, ended⟩ := ih stepped (by simpa using short)
    refine ⟨text ++ more, last, ?_, reads.trans readsMore, by simpa using ended⟩
    rw [List.foldl_cons, wroteMore, wrote, List.append_assoc]

/-- From the end of a pass the encoder goes on to that of a later character, if no character of the
label is between them. -/
theorem Meets.advance {m : Nat} (meets : Meets n [] points e d) (later : n ≤ m)
    (none : ∀ c ∈ points, c < m → c < n) :
    Meets m [] points { e with delta := e.delta + (m - n) * (e.count + 1) } d := by
  have leads := meets.leads
  have apart : m * (e.count + 1) = n * (e.count + 1) + (m - n) * (e.count + 1) := by
    rw [← Nat.add_mul, Nat.add_sub_cancel' later]
  exact { meets with
    label := by
      rw [meets.label, List.filter_nil, List.filter_nil]
      refine congrArg _ (List.filter_congr fun c member => ?_)
      rw [decide_eq_decide]
      exact ⟨fun old => by omega, none c member⟩
    ahead := meets.ahead.trans later
    leads := by simp only [List.filter_nil, List.length_nil] at leads ⊢; omega }

/-- The end of a pass is the beginning of the next one. -/
theorem Meets.over (meets : Meets n points [] e d) :
    Meets (n + 1) [] points { e with delta := e.delta + 1 } d := by
  have leads := meets.leads
  have label : d.label = points.filter (· ≤ n) := by simpa using meets.label
  have count := meets.count
  rw [label] at count
  exact { meets with
    label := by simp only [label, List.filter_nil, List.nil_append, Nat.lt_succ_iff]
    ahead := meets.ahead.trans (Nat.le_succ n)
    leads := by simp only [List.filter_nil, List.length_nil, Nat.add_mul] at leads ⊢; omega }

def advanced (points : List Nat) (acc : Encoder × Nat) (n : Nat) : Encoder × Nat :=
  let e := { acc.1 with delta := acc.1.delta + (n - acc.2) * (acc.1.count + 1) }
  let e := e.pass n points
  ({ e with delta := e.delta + 1 }, n + 1)

/-- All passes, over the characters that are still to come in ascending order. -/
theorem Meets.passes {beyond : List Nat} (meets : Meets n [] points e d)
    (short : points.length ≤ 1000) (valid : ∀ c ∈ beyond, c.isValidChar)
    (ascending : beyond.Pairwise (· < ·)) (later : ∀ c ∈ beyond, n ≤ c)
    (all : ∀ c ∈ points, n ≤ c → c ∈ beyond) :
    ∃ text last, (beyond.foldl (advanced points) (e, n)).1.output = e.output ++ text ∧
      d.Reads text last ∧ last.label = points := by
  induction beyond generalizing n e d with
  | nil =>
    refine ⟨[], d, by simp, .nothing d, ?_⟩
    rw [meets.label, List.filter_nil, List.nil_append, List.filter_eq_self]
    intro c member
    by_contra new
    exact absurd (all c member (by simpa using new)) (by simp)
  | cons m beyond ih =>
    obtain ⟨first, ascending⟩ := List.pairwise_cons.mp ascending
    -- The characters to come are listed in order, so none of the label lies before the next one.
    have none : ∀ c ∈ points, c < m → c < n := by
      intro c member small
      by_contra new
      rcases List.mem_cons.mp (all c member (by omega)) with rfl | among
      · omega
      · have large := first c among
        omega
    have begun := meets.advance (later m List.mem_cons_self) none
    obtain ⟨text, middle, wrote, reads, ended⟩ :=
      begun.pass (valid m List.mem_cons_self) (by simpa using short)
    obtain ⟨more, last, wroteMore, readsMore, whole⟩ :=
      ih ended.over (fun c member => valid c (List.mem_cons_of_mem m member)) ascending first
        (by
          intro c member new
          rcases List.mem_cons.mp (all c member (by have := later m List.mem_cons_self; omega)) with
            rfl | among
          · omega
          · exact among)
    refine ⟨text ++ more, last, ?_, reads.trans readsMore, whole⟩
    rw [List.foldl_cons, ← List.append_assoc]
    exact wroteMore.trans (congrArg (· ++ more) wrote)

theorem eraseDups_ascending : ∀ {ns : List Nat}, ns.Pairwise (· ≤ ·) → ns.eraseDups.Pairwise (· < ·)
  | [], _ => by simp
  | n :: ns, sorted => by
    obtain ⟨least, sorted⟩ := List.pairwise_cons.mp sorted
    rw [List.eraseDups_cons, List.pairwise_cons]
    constructor
    · intro m member
      have other := List.mem_filter.mp (List.mem_eraseDups.mp member)
      have large := least m other.1
      have different : m ≠ n := by simpa using other.2
      omega
    · exact eraseDups_ascending (sorted.filter _)
  termination_by ns => ns.length
  decreasing_by
    exact Nat.lt_succ_of_le (List.length_filter_le _ ns)

def beyond (points : List Nat) : List Nat := (points.filter (0x80 ≤ ·)).mergeSort.eraseDups

theorem mem_beyond {points : List Nat} {c : Nat} : c ∈ beyond points ↔ c ∈ points ∧ 0x80 ≤ c := by
  simp [beyond, List.mem_eraseDups]

theorem beyond_ascending (points : List Nat) : (beyond points).Pairwise (· < ·) := by
  apply eraseDups_ascending
  have sorted : (points.filter (0x80 ≤ ·)).mergeSort.Pairwise fun a b => decide (a ≤ b) :=
    List.pairwise_mergeSort (by simpa using fun a b c => Nat.le_trans) (by simpa using Nat.le_total)
      (points.filter (0x80 ≤ ·))
  simpa using sorted

def basicPart (label : List Char) : List Char := label.filter fun c => c.toNat < 0x80

/-- A label is written as its ASCII characters with a hyphen, if there are any, and digits; a
decoder that starts with these characters reads the label from the digits. -/
theorem encode_reads {label : List Char} (short : label.length ≤ 1000) :
    ∃ text last, encode label =
        (if (basicPart label).isEmpty then [] else basicPart label ++ ['-']) ++ text ∧
      Decoder.Reads ⟨0x80, 0, 72, (basicPart label).map Char.toNat⟩ text last ∧
      last.label = label.map Char.toNat := by
  have begun : Meets 0x80 [] (label.map Char.toNat)
      ⟨0, 72, (basicPart label).length, (basicPart label).length,
        if (basicPart label).isEmpty then [] else basicPart label ++ ['-']⟩
      ⟨0x80, 0, 72, (basicPart label).map Char.toNat⟩ := {
    label := by simp [basicPart, List.filter_map, Function.comp_def]
    count := by simp
    basic := Nat.le_refl _
    first := by simp
    bias := rfl
    ahead := Nat.le_refl _
    leads := by simp }
  have valid : ∀ c ∈ beyond (label.map Char.toNat), c.isValidChar := by
    intro c member
    obtain ⟨x, -, rfl⟩ := List.mem_map.mp (mem_beyond.mp member).1
    exact x.valid
  obtain ⟨text, last, wrote, reads, whole⟩ := begun.passes (by simpa using short) valid
    (beyond_ascending _) (fun c member => (mem_beyond.mp member).2)
    (fun c member new => mem_beyond.mpr ⟨member, new⟩)
  exact ⟨text, last, wrote, reads, whole⟩

theorem digit_ne_hyphen {c : Char} (digit : IsDigit c) : c ≠ '-' := by
  obtain ⟨d, small, rfl⟩ := digit
  have all : ∀ e ∈ List.range 36, Punycode.digit e ≠ '-' := by decide
  exact all d (List.mem_range.mpr small)

/-- A label is read back. Whatever it holds, a label of at most a thousand characters is what is
read in what is written for it. -/
theorem decode?_encode {label : List Char} (short : label.length ≤ 1000) :
    decode? (encode label) = some (label.map Char.toNat) := by
  obtain ⟨text, last, wrote, reads, whole⟩ := encode_reads short
  have unhyphened : ∀ c ∈ text.reverse, decide (c ≠ '-') = true := by
    intro c member
    simpa using digit_ne_hyphen (reads.digits c (by simpa using member))
  -- Digits are no hyphens. So the last hyphen, if there is one, ends the characters of ASCII.
  by_cases none : (basicPart label).isEmpty
  · rw [if_pos none, List.nil_append] at wrote
    rw [List.isEmpty_iff.mp none] at reads
    have tail : (text.reverse.takeWhile fun c => decide (c ≠ '-')).reverse = text := by
      rw [List.takeWhile_eq_self_iff.mpr unhyphened, List.reverse_reverse]
    rw [wrote, decode?]
    simp only [tail, Nat.sub_self, List.take_zero, List.dropLast_nil, List.isEmpty_nil, if_true]
    exact (reads.whole (Nat.le_refl _)).trans (congrArg some whole)
  · rw [if_neg none, List.append_assoc, List.singleton_append] at wrote
    have tail : ((basicPart label ++ '-' :: text).reverse.takeWhile
        fun c => decide (c ≠ '-')).reverse = text := by
      rw [List.reverse_append, List.reverse_cons, List.append_assoc,
        List.takeWhile_append_of_pos unhyphened]
      simp
    have front : ((basicPart label ++ '-' :: text).take
        ((basicPart label ++ '-' :: text).length - text.length)).dropLast = basicPart label := by
      have size : (basicPart label ++ '-' :: text).length - text.length =
          (basicPart label).length + 1 := by
        simp only [List.length_append, List.length_cons]
        omega
      rw [size, List.take_length_add_append]
      simp
    rw [wrote, decode?]
    simp only [tail, front, none]
    have enough : text.length ≤ (basicPart label ++ '-' :: text).length := by
      simp only [List.length_append, List.length_cons]
      omega
    exact (reads.whole enough).trans (congrArg some whole)

end ExtensionAdmin.Url.Punycode
