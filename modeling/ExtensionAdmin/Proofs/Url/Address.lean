import Mathlib.Algebra.Group.Nat.Defs
import Mathlib.Data.List.TakeWhile
import ExtensionAdmin.Proofs.Text.Table
import ExtensionAdmin.Proofs.Fallible
import ExtensionAdmin.Url.Host

/-! Internet addresses are read as they are written. An address of version 4 that is read is a
number of four bytes, and one of version 6 eight groups of 16 bits. Written out, each has one form,
in which the reader finds the same number or groups. -/

namespace ExtensionAdmin.Url

open Text (digitValue? inBase? splitOn)

variable {b n v : Nat} {c : Char} {cs rest : List Char}

theorem digitValue?_digitChar {d : Nat} (small : d < 16) : digitValue? d.digitChar = some d := by
  have all : ∀ e ∈ List.range 16, digitValue? e.digitChar = some e := by decide
  exact all d (List.mem_range.mpr small)

def readDigits (b : Nat) (n : Nat) (cs : List Char) : Option Nat :=
  cs.foldlM (fun n c => (digitValue? c).bind fun d => if d < b then some (n * b + d) else none) n

theorem readDigits_toDigits (base : 1 < b) (known : b ≤ 16) (n : Nat) :
    readDigits b 0 (Nat.toDigits b n) = some n := by
  induction n using Nat.strongRecOn with
  | _ n ih =>
    rcases Nat.lt_or_ge n b with small | large
    · rw [Nat.toDigits_of_lt_base small]
      simp [readDigits, digitValue?_digitChar (Nat.lt_of_lt_of_le small known), small]
    · have less : n / b < n := Nat.div_lt_self (by omega) base
      have digit : n % b < b := Nat.mod_lt n (by omega)
      have front := ih (n / b) less
      rw [readDigits] at front
      rw [Nat.toDigits_of_base_le base large, readDigits, List.foldlM_append, front]
      simp [digitValue?_digitChar (Nat.lt_of_lt_of_le digit known), digit, Nat.div_add_mod']

theorem ipv4Number?_byte (byte : n < 256) : ipv4Number? (Nat.toDigits 10 n) = some n := by
  have all : ∀ m ∈ List.range 256, ipv4Number? (Nat.toDigits 10 m) = some m := by decide +kernel
  exact all n (List.mem_range.mpr byte)

theorem foldl_bytes_lt {bytes : List Nat} (small : ∀ x ∈ bytes, x ≤ 255) (n : Nat) :
    bytes.foldl (fun n b => n * 256 + b) n < (n + 1) * 256 ^ bytes.length := by
  induction bytes generalizing n with
  | nil => simp
  | cons x bytes ih =>
    obtain ⟨here, later⟩ := List.forall_mem_cons.mp small
    have rest := ih later (n * 256 + x)
    have step : (n * 256 + x + 1) * 256 ^ bytes.length ≤ (n + 1) * 256 * 256 ^ bytes.length :=
      Nat.mul_le_mul_right _ (by omega)
    rw [List.foldl_cons, List.length_cons, Nat.pow_succ']
    calc _ < _ := rest
      _ ≤ _ := step
      _ = _ := by rw [Nat.mul_assoc]

theorem foldl_zeros (k n : Nat) :
    (List.replicate k 0).foldl (fun n b => n * 256 + b) n = n * 256 ^ k := by
  induction k generalizing n with
  | zero => simp
  | succ k ih =>
    rw [List.replicate_succ, List.foldl_cons, ih, Nat.pow_succ', Nat.add_zero, Nat.mul_assoc]

theorem ipv4?_eq_some : ipv4? cs = some n ↔ (addressParts cs).length ≤ 4 ∧ ∃ numbers,
    (addressParts cs).mapM ipv4Number? = some numbers ∧ ∃ last, numbers.getLast? = some last ∧
      last < 256 ^ (4 - numbers.dropLast.length) ∧ (∀ x ∈ numbers.dropLast, x ≤ 255) ∧
      numbers.dropLast.foldl (fun n b => n * 256 + b) 0 * 256 ^ (4 - numbers.dropLast.length) +
        last = n := by
  unfold ipv4?
  simp only [Option.bind_eq_bind, Option.pure_def, List.foldl_append, foldl_zeros]
  by_cases many : 4 < (addressParts cs).length
  · simp [many, Nat.not_le.mpr many]
  rw [if_neg many, Option.bind_eq_some_iff, and_iff_right (Nat.not_lt.mp many)]
  simp only [Option.bind_eq_some_iff]
  refine exists_congr fun numbers => and_congr_right fun _ => exists_congr fun last =>
    and_congr_right fun _ => ?_
  by_cases large : Nat.pow 256 (4 - numbers.dropLast.length) ≤ last
  · rw [if_pos large]
    exact iff_of_false (by simp) fun fits => absurd fits.1 (Nat.not_lt.mpr large)
  · have fits : last < 256 ^ (4 - numbers.dropLast.length) := Nat.not_le.mp large
    rw [if_neg large, and_iff_right fits]
    by_cases bytes : ∀ x ∈ numbers.dropLast, x ≤ 255
    · rw [if_neg (by simpa using bytes), and_iff_right bytes, Option.some.injEq]
    · rw [if_pos (by simpa using bytes)]
      exact iff_of_false (by simp) fun fits => bytes fits.1

theorem ipv4?_lt (read : ipv4? cs = some n) : n < 256 ^ 4 := by
  obtain ⟨few, numbers, found, last, -, fits, bytes, rfl⟩ := ipv4?_eq_some.mp read
  have size : numbers.dropLast.length ≤ 4 := by
    have same := (Fallible.mapM_eq_some.mp found).length_eq
    simp only [List.length_dropLast]
    omega
  have front := foldl_bytes_lt bytes 0
  rw [Nat.zero_add, Nat.one_mul] at front
  calc _ < (numbers.dropLast.foldl (fun n b => n * 256 + b) 0 + 1) *
        256 ^ (4 - numbers.dropLast.length) := by
        rw [Nat.add_mul, Nat.one_mul]
        exact Nat.add_lt_add_left fits _
    _ ≤ 256 ^ numbers.dropLast.length * 256 ^ (4 - numbers.dropLast.length) :=
        Nat.mul_le_mul_right _ front
    _ = 256 ^ 4 := by rw [← Nat.pow_add, Nat.add_sub_cancel' size]

def addressBytes (n : Nat) : List Nat :=
  [n / 0x1000000 % 256, n / 0x10000 % 256, n / 0x100 % 256, n % 256]

theorem addressBytes_lt (n : Nat) : ∀ b ∈ addressBytes n, b < 256 := by
  simp [addressBytes, Nat.mod_lt]

theorem toDigits_ten_ne {d : Char} (other : d.isDigit = false) (n : Nat) :
    d ∉ Nat.toDigits 10 n := by
  intro member
  rw [Nat.isDigit_of_mem_toDigits (by decide) (by decide) member] at other
  cases other

theorem splitOn_renderIpv4 (n : Nat) :
    splitOn '.' (renderIpv4 n) = (addressBytes n).map (Nat.toDigits 10) := by
  refine Text.splitOn_intercalate (by simp) ?_
  intro part member
  obtain ⟨b, -, rfl⟩ := List.mem_map.mp member
  exact toDigits_ten_ne (by decide) b

theorem addressParts_renderIpv4 (n : Nat) :
    addressParts (renderIpv4 n) = (addressBytes n).map (Nat.toDigits 10) := by
  rw [addressParts, splitOn_renderIpv4]
  simp [addressBytes, Nat.toDigits_ne_nil]

theorem endsInNumber_renderIpv4 (n : Nat) : endsInNumber (renderIpv4 n) = true := by
  rw [endsInNumber, addressParts_renderIpv4]
  simp [addressBytes, ipv4Number?_byte (Nat.mod_lt n (by decide : 0 < 256))]

theorem ipv4?_renderIpv4 (small : n < 256 ^ 4) : ipv4? (renderIpv4 n) = some n := by
  refine ipv4?_eq_some.mpr ?_
  rw [addressParts_renderIpv4]
  refine ⟨by simp [addressBytes], addressBytes n, ?_, n % 256, rfl, ?_, ?_, ?_⟩
  · rw [Fallible.mapM_eq_some, List.forall₂_map_left_iff]
    exact List.forall₂_same.mpr fun b member => ipv4Number?_byte (addressBytes_lt n b member)
  · simp [addressBytes, Nat.mod_lt]
  · intro x member
    have := addressBytes_lt n x (List.dropLast_subset _ member)
    omega
  · simp [addressBytes]
    omega

theorem digitValue?_lt {d : Nat} (found : digitValue? c = some d) : d < 16 := by
  simp only [digitValue?] at found
  grind

theorem hexGroup_lt (room v : Nat) (cs : List Char) :
    (hexGroup room v cs).1 < (v + 1) * 16 ^ room := by
  induction room generalizing v cs with
  | zero => simp [hexGroup]
  | succ room ih =>
    have grown : (v + 1) * 16 ≤ (v + 1) * 16 ^ (room + 1) :=
      Nat.mul_le_mul_left _ (Nat.le_self_pow (by omega) 16)
    cases cs with
    | nil =>
      rw [hexGroup]
      omega
    | cons c cs =>
      rw [hexGroup]
      split
      case h_1 => 
        show v < _
        omega
      case h_2 d digit =>
        have small := digitValue?_lt digit
        calc _ < (v * 16 + d + 1) * 16 ^ room := ih (v * 16 + d) cs
          _ ≤ (v + 1) * 16 * 16 ^ room := Nat.mul_le_mul_right _ (by omega)
          _ = _ := by rw [Nat.mul_assoc, ← Nat.pow_succ']

theorem decimalByte?_le (read : decimalByte? cs = some n) : n ≤ 255 := by
  unfold decimalByte? at read
  split at read
  · cases read
  · cases read
  · obtain ⟨m, -, byte⟩ := Option.bind_eq_some_iff.mp read
    split at byte
    · cases byte
      assumption
    · cases byte

theorem trailingGroups?_lt {gs : List Nat} (read : trailingGroups? cs = some gs) :
    ∀ g ∈ gs, g < 65536 := by
  unfold trailingGroups? at read
  split at read
  case h_2 => cases read
  case h_1 =>
    simp only [Option.bind_eq_bind, Option.bind_eq_some_iff, Option.pure_def,
      Option.some.injEq] at read
    obtain ⟨a, ha, b, hb, c, hc, d, hd, rfl⟩ := read
    have := decimalByte?_le ha
    have := decimalByte?_le hb
    have := decimalByte?_le hc
    have := decimalByte?_le hd
    simp
    omega

structure Groups.IsSound (g : Groups) : Prop where
  small : ∀ v ∈ g.values, v < 65536
  gap : ∀ k ∈ g.gap, k ≤ g.values.length

theorem Groups.IsSound.add {g : Groups} (sound : g.IsSound) {more : List Nat}
    (small : ∀ v ∈ more, v < 65536) : Groups.IsSound { g with values := g.values ++ more } where
  small := List.forall_mem_append.mpr ⟨sound.small, small⟩
  gap := fun k member => by
    have := sound.gap k member
    simp only [List.length_append]
    omega

theorem groupsFrom?_sound {fuel : Nat} {g h : Groups} (sound : g.IsSound)
    (read : groupsFrom? fuel g cs = some h) : h.IsSound := by
  induction fuel generalizing g cs with
  | zero => cases read
  | succ fuel ih =>
    cases cs with
    | nil =>
      cases read
      exact sound
    | cons c cs =>
      have here : ∀ v ∈ [(hexGroup 4 0 (c :: cs)).1], v < 65536 := by
        simpa using hexGroup_lt 4 0 (c :: cs)
      -- A gap, the last group, four bytes at the end, or a group with more to come: each of them
      -- keeps the groups small and the gap among them.
      rw [groupsFrom?] at read
      generalize (if g.gap.isSome then 1 else 0) = extra at read
      split at read
      · cases read
      split at read
      · split at read
        · cases read
        · exact ih (g := { g with gap := some g.values.length }) ⟨sound.small, by simp⟩ read
      dsimp only at read
      split at read
      · split at read
        · cases read
        · cases read
          exact sound.add here
      · split at read
        · cases read
        · obtain ⟨t, found, rfl⟩ := Option.map_eq_some_iff.mp read
          exact sound.add (trailingGroups?_lt found)
      · split at read
        · cases read
        · exact ih (sound.add here) read
      · cases read

def Groups.filled? (g : Groups) : Option (List Nat) :=
  match g.gap with
  | none => if g.values.length = 8 then some g.values else none
  | some k =>
    if 8 < g.values.length then none
    else some (g.values.take k ++ List.replicate (8 - g.values.length) 0 ++ g.values.drop k)

theorem Groups.IsSound.filled {g : Groups} (sound : g.IsSound) {gs : List Nat}
    (filled : g.filled? = some gs) : gs.length = 8 ∧ ∀ v ∈ gs, v < 65536 := by
  unfold Groups.filled? at filled
  split at filled
  case h_1 =>
    split at filled
    case isTrue eight =>
      cases filled
      exact ⟨eight, sound.small⟩
    case isFalse => cases filled
  case h_2 k gap =>
    have within := sound.gap k gap
    split at filled
    case isTrue => cases filled
    case isFalse fits =>
      cases filled
      constructor
      · simp only [List.length_append, List.length_take, List.length_replicate, List.length_drop]
        omega
      -- A group of the whole stands before the gap, in it, or after it.
      · intro v member
        simp only [List.mem_append, List.mem_replicate] at member
        rcases member with (front | ⟨-, rfl⟩) | back
        · exact sound.small v (List.mem_of_mem_take front)
        · decide
        · exact sound.small v (List.mem_of_mem_drop back)

def readGroups? (cs : List Char) : Option Groups :=
  match cs with
  | [] => none
  | [_] => none
  | ':' :: ':' :: rest => groupsFrom? (rest.length + 1) ⟨[], some 0⟩ rest
  | ':' :: _ => none
  | _ => groupsFrom? (cs.length + 1) ⟨[], none⟩ cs

theorem ipv6?_eq (cs : List Char) : ipv6? cs = (readGroups? cs).bind Groups.filled? := by
  unfold ipv6?
  split
  · rfl
  · rfl
  · rfl
  case h_4 tail none colon =>
    rw [readGroups?]
    · rfl
    · exact none
    · exact colon
  case h_5 empty single double colon =>
    rw [readGroups?]
    · rfl
    · exact empty
    · exact single
    · exact double
    · exact colon

/-- An address has eight groups of 16 bits. -/
theorem ipv6?_sound {gs : List Nat} (read : ipv6? cs = some gs) :
    gs.length = 8 ∧ ∀ g ∈ gs, g < 65536 := by
  rw [ipv6?_eq] at read
  obtain ⟨g, found, filled⟩ := Option.bind_eq_some_iff.mp read
  have sound : g.IsSound := by
    unfold readGroups? at found
    split at found
    · cases found
    · cases found
    · exact groupsFrom?_sound ⟨by simp, by simp⟩ found
    · cases found
    · exact groupsFrom?_sound ⟨by simp, by simp⟩ found
  exact sound.filled filled

theorem toDigits_sixteen_length (small : n < 65536) : (Nat.toDigits 16 n).length ≤ 4 :=
  (Nat.length_toDigits_le_iff (by decide) (by decide)).mpr small

theorem hexGroup_append {room : Nat} (read : readDigits 16 v cs = some n) (short : cs.length ≤ room)
    (stop : ∀ c ∈ rest.head?, digitValue? c = none) :
    hexGroup room v (cs ++ rest) = (n, cs.length, rest) := by
  induction cs generalizing room v with
  | nil =>
    cases read
    cases room with
    | zero => rfl
    | succ room =>
      cases rest with
      | nil => rfl
      | cons c rest => simp [hexGroup, stop c rfl]
  | cons c cs ih =>
    cases room with
    | zero => simp at short
    | succ room =>
      obtain ⟨m, first, later⟩ := Option.bind_eq_some_iff.mp read
      obtain ⟨d, digit, here⟩ := Option.bind_eq_some_iff.mp first
      split at here
      case isFalse => cases here
      case isTrue =>
        cases here
        rw [List.cons_append, hexGroup, digit]
        dsimp only
        rw [ih later (by simpa using short)]
        rfl

theorem hexGroup_toDigits (small : n < 65536) (rest : List Char)
    (stop : ∀ c ∈ rest.head?, digitValue? c = none) :
    hexGroup 4 0 (Nat.toDigits 16 n ++ rest) = (n, (Nat.toDigits 16 n).length, rest) :=
  hexGroup_append (readDigits_toDigits (by decide) (by decide) n) (toDigits_sixteen_length small)
    stop

theorem mem_toDigits (base : 1 < b) (known : b ≤ 16) (member : c ∈ Nat.toDigits b n) :
    ∃ d < b, c = d.digitChar := by
  induction n using Nat.strongRecOn with
  | _ n ih =>
    rcases Nat.lt_or_ge n b with small | large
    · rw [Nat.toDigits_of_lt_base small, List.mem_singleton] at member
      exact ⟨n, small, member⟩
    · rw [Nat.toDigits_of_base_le base large, List.mem_append, List.mem_singleton] at member
      rcases member with front | last
      · exact ih (n / b) (Nat.div_lt_self (by omega) base) front
      · exact ⟨n % b, Nat.mod_lt n (by omega), last⟩

theorem toDigits_sixteen_cons (n : Nat) : ∃ d ds, Nat.toDigits 16 n = d :: ds ∧ d ≠ ':' := by
  obtain ⟨d, ds, spelled⟩ := List.exists_cons_of_ne_nil (Nat.toDigits_ne_nil (n := n) (b := 16))
  obtain ⟨e, small, rfl⟩ := mem_toDigits (b := 16) (n := n) (c := d) (by decide) (by decide)
    (by simp [spelled])
  have all : ∀ e ∈ List.range 16, e.digitChar ≠ ':' := by decide
  exact ⟨_, ds, spelled, all e (List.mem_range.mpr small)⟩

theorem groupsFrom?_group (fuel : Nat) {g : Groups} (small : n < 65536)
    (fits : g.values.length + (if g.gap.isSome then 1 else 0) < 8) (rest : List Char) :
    groupsFrom? (fuel + 1) g (Nat.toDigits 16 n) = some { g with values := g.values ++ [n] } ∧
      ∀ c, groupsFrom? (fuel + 1) g (Nat.toDigits 16 n ++ ':' :: c :: rest) =
        groupsFrom? fuel { g with values := g.values ++ [n] } (c :: rest) := by
  obtain ⟨d, ds, spelled, digit⟩ := toDigits_sixteen_cons n
  constructor
  · have group := hexGroup_toDigits small [] (by simp)
    rw [List.append_nil, spelled] at group
    rw [spelled, groupsFrom?, if_neg (Nat.not_le.mpr fits), if_neg digit, group]
    simp
  · intro c
    have group := hexGroup_toDigits small (':' :: c :: rest) (by simp; decide)
    rw [spelled] at group
    rw [spelled, List.cons_append, groupsFrom?, if_neg (Nat.not_le.mpr fits), if_neg digit,
      ← List.cons_append, group]
    simp

variable {xs : List Nat}

theorem renderGroups_singleton (n : Nat) : renderGroups [n] = Nat.toDigits 16 n := by
  simp [renderGroups]

theorem renderGroups_cons (filled : xs ≠ []) (n : Nat) :
    renderGroups (n :: xs) = Nat.toDigits 16 n ++ ':' :: renderGroups xs := by
  obtain ⟨m, xs, rfl⟩ := List.exists_cons_of_ne_nil filled
  rw [renderGroups, List.map_cons, List.map_cons, List.intercalate_cons_cons, renderGroups,
    List.map_cons, List.append_assoc]
  rfl

theorem renderGroups_filled (filled : xs ≠ []) :
    ∃ c cs, renderGroups xs = c :: cs ∧ c ≠ ':' := by
  obtain ⟨n, xs, rfl⟩ := List.exists_cons_of_ne_nil filled
  obtain ⟨d, ds, spelled, digit⟩ := toDigits_sixteen_cons n
  cases xs with
  | nil => exact ⟨d, ds, by rw [renderGroups_singleton, spelled], digit⟩
  | cons m xs => exact ⟨d, _, by rw [renderGroups_cons (by simp), spelled, List.cons_append], digit⟩

theorem length_le_renderGroups (xs : List Nat) : xs.length ≤ (renderGroups xs).length := by
  induction xs with
  | nil => exact Nat.zero_le _
  | cons n xs ih =>
    have filled := Nat.length_toDigits_pos (b := 16) (n := n)
    by_cases last : xs = []
    · rw [last, renderGroups_singleton]
      exact filled
    · rw [renderGroups_cons last, List.length_append, List.length_cons, List.length_cons]
      omega

/-- Groups up to the end of an address. -/
theorem groupsFrom?_groups {fuel : Nat} {g : Groups} (filled : xs ≠ [])
    (small : ∀ n ∈ xs, n < 65536)
    (fits : g.values.length + (if g.gap.isSome then 1 else 0) + xs.length ≤ 8) :
    groupsFrom? (fuel + xs.length) g (renderGroups xs) =
      some { g with values := g.values ++ xs } := by
  induction xs generalizing fuel g with
  | nil => exact absurd rfl filled
  | cons n xs ih =>
    obtain ⟨here, later⟩ := List.forall_mem_cons.mp small
    rw [List.length_cons] at fits
    have group := groupsFrom?_group (fuel + xs.length) (g := g) here (by omega)
      (renderGroups xs).tail
    by_cases last : xs = []
    · rw [last, renderGroups_singleton]
      simpa [last] using group.1
    · obtain ⟨c, cs, spelled, -⟩ := renderGroups_filled last
      rw [spelled] at group
      have step := group.2 c
      rw [List.tail_cons, ← spelled] at step
      rw [renderGroups_cons last, List.length_cons, ← Nat.add_assoc, step,
        ih last later (by simp only [List.length_append, List.length_singleton]; omega)]
      simp

/-- Groups before the place where zeros are left out. -/
theorem groupsFrom?_before {fuel : Nat} {vs : List Nat} (filled : xs ≠ [])
    (small : ∀ n ∈ xs, n < 65536) (fits : vs.length + xs.length < 8) :
    groupsFrom? (fuel + 1 + xs.length) ⟨vs, none⟩ (renderGroups xs ++ ':' :: ':' :: rest) =
      groupsFrom? fuel ⟨vs ++ xs, some (vs ++ xs).length⟩ rest := by
  induction xs generalizing vs with
  | nil => exact absurd rfl filled
  | cons n xs ih =>
    obtain ⟨here, later⟩ := List.forall_mem_cons.mp small
    rw [List.length_cons] at fits
    have room : (⟨vs, none⟩ : Groups).values.length +
        (if (⟨vs, none⟩ : Groups).gap.isSome then 1 else 0) < 8 := by
      simp
      omega
    rw [List.length_cons, ← Nat.add_assoc]
    -- Behind the last of these groups the second colon is met first thing, and opens the gap.
    by_cases last : xs = []
    · have step := (groupsFrom?_group (fuel + 1) here room rest).2 ':'
      have short : ¬ 8 ≤ (vs ++ [n]).length + (if (none : Option Nat).isSome then 1 else 0) := by
        simp
        omega
      rw [last, renderGroups_singleton, List.length_nil, Nat.add_zero, step, groupsFrom?,
        if_neg short, if_pos rfl]
      rfl
    · obtain ⟨c, cs, spelled, -⟩ := renderGroups_filled last
      have step := (groupsFrom?_group (fuel + 1 + xs.length) here room
        (cs ++ ':' :: ':' :: rest)).2 c
      rw [← List.cons_append, ← spelled] at step
      rw [renderGroups_cons last, List.append_assoc, List.cons_append, step,
        ih last later (by simp only [List.length_append, List.length_singleton]; omega)]
      simp

theorem zeroRun_spec (gs : List Nat) : ∃ back, gs = List.replicate (zeroRun gs) 0 ++ back := by
  refine ⟨gs.dropWhile (· == 0), ?_⟩
  have zeros : gs.takeWhile (· == 0) = List.replicate (zeroRun gs) 0 :=
    List.eq_replicate_of_mem fun n member => by simpa using List.mem_takeWhile_imp member
  rw [← zeros, List.takeWhile_append_dropWhile]

/-- The zeros that are left out stand where they are said to stand. -/
theorem longestRun_spec (start : Nat) (gs : List Nat) : ∃ front back,
    gs = front ++ List.replicate (longestRun start gs).2 0 ++ back ∧
      (longestRun start gs).1 = start + front.length := by
  induction gs generalizing start with
  | nil => exact ⟨[], [], rfl, rfl⟩
  | cons g gs ih =>
    simp only [longestRun]
    split
    case isTrue =>
      obtain ⟨back, spelled⟩ := zeroRun_spec (g :: gs)
      exact ⟨[], back, spelled, rfl⟩
    case isFalse =>
      obtain ⟨front, back, spelled, place⟩ := ih (start + 1)
      refine ⟨g :: front, back, ?_, ?_⟩
      · rw [List.cons_append, List.cons_append, ← spelled]
      · rw [place, List.length_cons]
        omega

theorem readGroups?_of_digit {d e : Char} (digit : d ≠ ':') :
    readGroups? (d :: e :: cs) =
      groupsFrom? ((d :: e :: cs).length + 1) ⟨[], none⟩ (d :: e :: cs) := by
  rw [readGroups?]
  · simp
  · simp
  · rintro rest same
    exact digit (List.cons.inj same).1
  · rintro tail same
    exact digit (List.cons.inj same).1

/-- Without a gap, all groups stand in the text. -/
theorem readGroups?_groups (several : 1 < xs.length) (small : ∀ n ∈ xs, n < 65536)
    (fits : xs.length ≤ 8) : readGroups? (renderGroups xs) = some ⟨xs, none⟩ := by
  have filled : xs ≠ [] := List.ne_nil_of_length_pos (by omega)
  have long := length_le_renderGroups xs
  obtain ⟨fuel, enough⟩ := Nat.exists_eq_add_of_le' (Nat.le_succ_of_le long)
  obtain ⟨d, cs, spelled, digit⟩ := renderGroups_filled filled
  cases cs with
  | nil =>
    rw [spelled, List.length_singleton] at long
    omega
  | cons e cs =>
    rw [spelled, readGroups?_of_digit digit, ← spelled, ← Nat.succ_eq_add_one, enough]
    simpa using groupsFrom?_groups (g := ⟨[], none⟩) filled small (by simpa using fits)

/-- The groups after a gap, if there are any. -/
theorem groupsFrom?_after {fuel k : Nat} {vs : List Nat} (small : ∀ n ∈ xs, n < 65536)
    (fits : vs.length + xs.length < 8) (enough : (renderGroups xs).length < fuel) :
    groupsFrom? fuel ⟨vs, some k⟩ (renderGroups xs) = some ⟨vs ++ xs, some k⟩ := by
  by_cases filled : xs = []
  · obtain ⟨fuel, rfl⟩ := Nat.exists_eq_succ_of_ne_zero (Nat.ne_of_gt (Nat.zero_lt_of_lt enough))
    rw [filled, List.append_nil]
    rfl
  · have long := length_le_renderGroups xs
    obtain ⟨fuel, rfl⟩ := Nat.exists_eq_add_of_le' (Nat.le_trans long (Nat.le_of_lt enough))
    refine groupsFrom?_groups filled small ?_
    simp
    omega

/-- The zeros of a gap are not written; all other groups are. -/
theorem readGroups?_gap {ys : List Nat} (small : ∀ n ∈ xs ++ ys, n < 65536)
    (fits : xs.length + ys.length < 8) :
    readGroups? (renderGroups xs ++ ':' :: ':' :: renderGroups ys) =
      some ⟨xs ++ ys, some xs.length⟩ := by
  obtain ⟨before, after⟩ := List.forall_mem_append.mp small
  by_cases filled : xs = []
  · rw [filled]
    exact groupsFrom?_after after (by simpa [filled] using fits) (Nat.lt_succ_self _)
  · obtain ⟨d, cs, spelled, digit⟩ := renderGroups_filled filled
    obtain ⟨e, rest, split⟩ : ∃ e rest, cs ++ ':' :: ':' :: renderGroups ys = e :: rest := by
      cases cs <;> simp
    have long := length_le_renderGroups xs
    have fuel : (renderGroups xs ++ ':' :: ':' :: renderGroups ys).length + 1 =
        (renderGroups xs).length - xs.length + (renderGroups ys).length + 2 + 1 + xs.length := by
      simp only [List.length_append, List.length_cons]
      omega
    rw [spelled, List.cons_append, split, readGroups?_of_digit digit, ← split, ← List.cons_append,
      ← spelled, fuel, groupsFrom?_before filled before (by simp; omega), List.nil_append,
      groupsFrom?_after after fits (by omega)]

theorem filled?_gap {ys : List Nat} (few : (xs ++ ys).length ≤ 8) :
    Groups.filled? ⟨xs ++ ys, some xs.length⟩ =
      some (xs ++ List.replicate (8 - (xs ++ ys).length) 0 ++ ys) := by
  rw [Groups.filled?]
  dsimp only
  rw [if_neg (Nat.not_lt.mpr few), List.take_left, List.drop_left]

theorem ipv6?_renderIpv6 {gs : List Nat} (eight : gs.length = 8) (small : ∀ g ∈ gs, g < 65536) :
    ipv6? (renderIpv6 gs) = some gs := by
  obtain ⟨front, back, spelled, place⟩ := longestRun_spec 0 gs
  rw [ipv6?_eq, renderIpv6]
  generalize longestRun 0 gs = run at spelled place
  rw [Nat.zero_add] at place
  -- One zero alone is written, so without a longer run all eight groups are.
  split
  case isTrue =>
    rw [readGroups?_groups (by omega) small (by omega)]
    simp [Groups.filled?, eight]
  case isFalse long =>
    have size : front.length + run.2 + back.length = 8 := by
      rw [spelled] at eight
      simpa [Nat.add_assoc] using eight
    have before : gs.take run.1 = front := by
      rw [spelled, place, List.append_assoc, List.take_left]
    have after : gs.drop (run.1 + run.2) = back := by
      rw [spelled, place]
      exact List.drop_left' (by simp)
    have kept : ∀ n ∈ front ++ back, n < 65536 := by
      intro n member
      refine small n ?_
      rw [spelled]
      simp only [List.mem_append] at member ⊢
      exact member.imp_left Or.inl
    rw [before, after, List.append_assoc, List.cons_append, List.cons_append, List.nil_append,
      readGroups?_gap kept (by omega), Option.bind_some, filled?_gap (by simp; omega)]
    have zeros : 8 - (front ++ back).length = run.2 := by
      rw [List.length_append]
      omega
    rw [zeros, ← spelled]

end ExtensionAdmin.Url
