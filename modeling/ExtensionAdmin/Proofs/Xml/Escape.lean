import Mathlib.Tactic.SplitIfs
import ExtensionAdmin.Proofs.Fallible
import ExtensionAdmin.Xml.Reference

/-! Escaped text is read back as what it stands for, and holds none of the characters that end a
text, a tag or a quoted value. Texts that are read one after the other stand for what they stand for
together. -/

namespace ExtensionAdmin.Xml

open Fallible (bind_eq_ok map_eq_ok)

/-- The reference of a special character is resolved where it stands; any other character is taken
as it is. -/
theorem unescapeFrom_escapeChar (total pos : Nat) (c : Char) (cs : List Char) :
    ∃ next, unescapeFrom total pos none (escapeChar c ++ cs) =
      (c :: ·) <$> unescapeFrom total next none cs := by
  unfold escapeChar
  split_ifs with lt gt amp apos quot
  case neg => exact ⟨pos + c.utf8Size, by simp [unescapeFrom, amp]⟩
  all_goals
    subst c
    exact ⟨_, by simp [unescapeFrom, resolve, named?]; rfl⟩

theorem unescapeFrom_escape (total pos : Nat) (cs : List Char) :
    unescapeFrom total pos none (escape cs) = .ok cs := by
  induction cs generalizing pos with
  | nil => rfl
  | cons c cs ih =>
    obtain ⟨next, step⟩ := unescapeFrom_escapeChar total pos c (escape cs)
    rw [escape, List.flatMap_cons, ← escape, step, ih]
    rfl

/-- Escaping loses nothing, whatever the characters are. -/
theorem unescape_escape (cs : List Char) : unescape (escape cs) = .ok cs :=
  unescapeFrom_escape _ 0 cs

theorem not_mem_escape {x : Char} (delimiter : x ∈ ['<', '>', '\'', '"']) (cs : List Char) :
    x ∉ escape cs := by
  intro member
  obtain ⟨c, -, written⟩ := List.mem_flatMap.mp member
  unfold escapeChar at written
  split_ifs at written <;> simp at delimiter written <;> grind

theorem escape_ne_nil {cs : List Char} (nonempty : cs ≠ []) : escape cs ≠ [] := by
  cases cs with
  | nil => contradiction
  | cons c cs =>
    rw [escape, List.flatMap_cons]
    unfold escapeChar
    split_ifs <;> simp

/-- Two texts that are cut at the same mark for the first time are the same before and after it. -/
theorem marked_inj {mark : Char} {cs ds left right : List Char} (first : mark ∉ cs)
    (second : mark ∉ ds) (same : cs ++ mark :: left = ds ++ mark :: right) :
    cs = ds ∧ left = right := by
  induction cs generalizing ds with
  | nil =>
    cases ds with
    | nil => exact ⟨rfl, (List.cons.inj same).2⟩
    | cons d ds =>
      obtain ⟨rfl, -⟩ := List.cons.inj same
      exact absurd List.mem_cons_self second
  | cons c cs ih =>
    cases ds with
    | nil =>
      obtain ⟨rfl, -⟩ := List.cons.inj same
      exact absurd List.mem_cons_self first
    | cons d ds =>
      obtain ⟨rfl, further⟩ := List.cons.inj same
      obtain ⟨rfl, rest⟩ := ih (List.not_mem_of_not_mem_cons first)
        (List.not_mem_of_not_mem_cons second) further
      exact ⟨rfl, rest⟩

/-- An escaped text is told by what stands before a character that it cannot hold. -/
theorem escaped_inj {mark : Char} (delimiter : mark ∈ ['<', '>', '\'', '"']) {s t : String}
    {left right : List Char}
    (same : escape s.toList ++ mark :: left = escape t.toList ++ mark :: right) :
    s = t ∧ left = right := by
  obtain ⟨text, rest⟩ := marked_inj (not_mem_escape delimiter _) (not_mem_escape delimiter _) same
  have read := unescape_escape s.toList
  rw [text, unescape_escape] at read
  exact ⟨String.toList_inj.mp (Except.ok.inj read).symm, rest⟩

/-- Where a reference stands matters to its faults alone. -/
theorem resolve_elsewhere {start stop : Nat} {name : List Char} {x : Char}
    (resolved : resolve start stop name = .ok x) (start' stop' : Nat) :
    resolve start' stop' name = .ok x := by
  unfold resolve at resolved ⊢
  split at resolved
  case h_1 cs =>
    obtain ⟨n, number, resolved⟩ := bind_eq_ok.mp resolved
    refine bind_eq_ok.mpr ⟨n, number, ?_⟩
    by_cases zero : n = 0
    · rw [if_pos zero] at resolved
      cases resolved
    · rwa [if_neg zero] at resolved ⊢
  case h_2 =>
    split at resolved
    · exact resolved
    · cases resolved

/-- What the first part of a text stands for comes first, and the rest is read from where no
reference is open. -/
theorem unescapeFrom_append (total whole start pos start' pos' : Nat) (name : Option (List Char))
    (cs ds : List Char) {short : List Char}
    (read : unescapeFrom total pos (name.map fun n => (start, n)) cs = .ok short) :
    ∃ next, unescapeFrom whole pos' (name.map fun n => (start', n)) (cs ++ ds) =
      (short ++ ·) <$> unescapeFrom whole next none ds := by
  -- Inside of the first part a reference can be open, which is why there is a name; at its end none
  -- is, or else that part would not have been read.
  induction cs generalizing start pos start' pos' name short with
  | nil =>
    cases name with
    | none =>
      cases read
      exact ⟨pos', (id_map _).symm⟩
    | some n => cases read
  | cons c cs ih =>
    cases name with
    | none =>
      by_cases amp : c = '&'
      · simp only [Option.map_none, unescapeFrom, if_pos amp] at read
        obtain ⟨next, later⟩ := ih _ _ pos' (pos' + 1) (some []) read
        exact ⟨next, by simpa [unescapeFrom, amp] using later⟩
      · simp only [Option.map_none, unescapeFrom, if_neg amp, map_eq_ok] at read
        obtain ⟨short, read, rfl⟩ := read
        obtain ⟨next, later⟩ := ih 0 _ 0 (pos' + c.utf8Size) none read
        simp only [Option.map_none] at later
        exact ⟨next, by simp [unescapeFrom, amp, later]⟩
    | some n =>
      by_cases ended : c = ';'
      · simp only [Option.map_some, unescapeFrom, if_pos ended, bind_eq_ok, map_eq_ok] at read
        obtain ⟨x, resolved, short, read, rfl⟩ := read
        obtain ⟨next, later⟩ := ih 0 _ 0 (pos' + 1) none read
        simp only [Option.map_none] at later
        refine ⟨next, ?_⟩
        simp only [List.cons_append, Option.map_some, unescapeFrom, if_pos ended,
          resolve_elsewhere resolved start' pos', later]
        simp [bind, Except.bind]
      · by_cases amp : c = '&'
        · simp [unescapeFrom, amp] at read
        · simp only [Option.map_some, unescapeFrom, if_neg ended, if_neg amp] at read
          obtain ⟨next, later⟩ := ih _ _ start' (pos' + c.utf8Size) (some (c :: n)) read
          exact ⟨next, by simpa [unescapeFrom, ended, amp] using later⟩

/-- What stands for the first part of a text is the first part of what stands for the whole. -/
theorem unescape_prefix {cs ds short long : List Char} (first : unescape cs = .ok short)
    (read : unescape (cs ++ ds) = .ok long) : short <+: long := by
  obtain ⟨next, joined⟩ := unescapeFrom_append _ _ 0 0 0 0 none cs ds first
  obtain ⟨rest, -, rfl⟩ := map_eq_ok.mp (joined.symm.trans read)
  exact List.prefix_append short rest

theorem unescape_append {cs ds short long : List Char} (first : unescape cs = .ok short)
    (second : unescape ds = .ok long) : unescape (cs ++ ds) = .ok (short ++ long) := by
  obtain ⟨next, joined⟩ := unescapeFrom_append _ _ 0 0 0 0 none cs ds first
  obtain ⟨last, alone⟩ := unescapeFrom_append _ _ 0 0 0 next none ds [] second
  rw [List.append_nil, Option.map_none] at alone
  calc unescape (cs ++ ds)
    _ = (short ++ ·) <$> unescapeFrom (Text.byteLength (cs ++ ds)) next none ds := joined
    _ = (short ++ ·) <$> (long ++ ·) <$> .ok [] := by rw [alone]; rfl
    _ = .ok (short ++ long) := by rw [map_eq_ok]; exact ⟨long, by simp, rfl⟩

end ExtensionAdmin.Xml
