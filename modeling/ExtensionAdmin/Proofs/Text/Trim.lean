import Mathlib.Data.List.Basic
import Mathlib.Data.List.TakeWhile
import ExtensionAdmin.Text.Basic

/-! What is left of a text whose ends are cut. A cut stops at the first character that is to be
kept. So white space around a text that has none at its own ends is cut away, and nothing else
is. -/

namespace ExtensionAdmin.Text

variable {q : Char → Bool} {cs : List Char}

theorem dropWhile_before {c : Char} (stop : q c = false) (before after : List Char) :
    (before ++ c :: after).dropWhile q = before.dropWhile q ++ c :: after := by
  have kept : (c :: after).dropWhile q = c :: after := List.dropWhile_cons_of_neg (by simp [stop])
  rw [List.dropWhile_append]
  split
  case isTrue empty => rw [kept, List.isEmpty_iff.mp empty, List.nil_append]
  case isFalse => rfl

theorem dropEndWhile_before {c : Char} (stop : q c = false) (before after : List Char) :
    dropEndWhile q (before ++ c :: after) = before ++ c :: dropEndWhile q after := by
  have turned : (before ++ c :: after).reverse = after.reverse ++ c :: before.reverse := by simp
  rw [dropEndWhile, turned, dropWhile_before stop]
  simp [dropEndWhile]

theorem trim_length_le (cs : List Char) : (trim cs).length ≤ cs.length := by
  rw [trim, dropEndWhile, List.length_reverse]
  calc (List.dropWhile isBlank (cs.dropWhile isBlank).reverse).length
    _ ≤ (cs.dropWhile isBlank).reverse.length := (List.dropWhile_suffix _).length_le
    _ ≤ cs.length := by simpa using (List.dropWhile_suffix _).length_le

def Solid (cs : List Char) : Prop :=
  (∀ c ∈ cs.head?, isBlank c = false) ∧ ∀ c ∈ cs.getLast?, isBlank c = false

theorem solid_of_all (unblank : ∀ c ∈ cs, isBlank c = false) : Solid cs :=
  ⟨fun c first => unblank c (List.mem_of_mem_head? first),
    fun c last => unblank c (List.mem_of_mem_getLast? last)⟩

theorem solid_enclosed {c d : Char} (first : isBlank c = false) (last : isBlank d = false)
    (inner : List Char) : Solid (c :: inner ++ [d]) := by
  constructor
  · intro x begins
    obtain rfl : c = x := by simpa using begins
    exact first
  · intro x ends
    obtain rfl : d = x := by simpa only [List.getLast?_concat, Option.mem_some] using ends
    exact last

theorem trim_blank (blank : allBlank cs = true) : trim cs = [] := by
  rw [trim, List.dropWhile_eq_nil_iff.mpr (List.all_eq_true.mp blank)]
  rfl

theorem trim_padded {before after : List Char} (blankBefore : allBlank before = true)
    (blankAfter : allBlank after = true) (solid : Solid cs) :
    trim (before ++ cs ++ after) = cs := by
  by_cases empty : cs = []
  · subst empty
    apply trim_blank
    rw [List.append_nil, allBlank, List.all_append, Bool.and_eq_true]
    exact ⟨blankBefore, blankAfter⟩
  · obtain ⟨c, rest, begins⟩ := List.exists_cons_of_ne_nil empty
    obtain ⟨start, d, ends⟩ := (List.eq_nil_or_concat' cs).resolve_left empty
    have first : isBlank c = false := solid.1 c (by simp [begins])
    have last : isBlank d = false := solid.2 d (by simp [ends])
    have nothingBefore : before.dropWhile isBlank = [] :=
      List.dropWhile_eq_nil_iff.mpr (List.all_eq_true.mp blankBefore)
    have nothingAfter : dropEndWhile isBlank after = [] := by
      rw [dropEndWhile, List.reverse_eq_nil_iff, List.dropWhile_eq_nil_iff]
      exact fun x member => List.all_eq_true.mp blankAfter x (List.mem_reverse.mp member)
    calc trim (before ++ cs ++ after)
      _ = dropEndWhile isBlank (cs ++ after) := by
        rw [trim, begins, List.append_assoc, List.cons_append, dropWhile_before first,
          nothingBefore, List.nil_append]
      _ = start ++ d :: dropEndWhile isBlank after := by
        rw [ends, List.append_assoc, List.singleton_append, dropEndWhile_before last]
      _ = cs := by rw [nothingAfter, ends]

theorem dropEndWhile_concat_dropped {c : Char} (drop : q c = true) (cs : List Char) :
    dropEndWhile q (cs ++ [c]) = dropEndWhile q cs := by
  simp [dropEndWhile, drop]

theorem trim_concat_blank {c : Char} (blank : isBlank c = true) (cs : List Char) :
    trim (cs ++ [c]) = trim cs := by
  rw [trim, trim, List.dropWhile_append]
  split
  case isTrue empty =>
    rw [List.isEmpty_iff.mp empty, List.dropWhile_cons_of_pos blank]
    rfl
  case isFalse => exact dropEndWhile_concat_dropped blank _

theorem trim_solid (solid : Solid cs) : trim cs = cs := by
  have nothing : allBlank [] = true := rfl
  have padded := trim_padded nothing nothing solid
  rwa [List.nil_append, List.append_nil] at padded

end ExtensionAdmin.Text
