import ExtensionAdmin.Text.Basic

/-! Parts between separators, and tables. The parts of a text hold no separator, and put together
with separators they are the text. A table is looked through by computation; its lines are read as
lists of characters first, since the characters of a string that is written out are only found one
after the other. -/

namespace ExtensionAdmin.Text

theorem splitOn_eq (x : Char) (cs : List Char) : splitOn x cs = cs.splitOn x := by
  induction cs with
  | nil => rfl
  | cons c cs ih =>
    rw [splitOn, ih, List.splitOn_cons_eq_if_modifyHead]
    cases parts : cs.splitOn x with
    | nil => exact absurd parts (List.splitOn_ne_nil x cs)
    | cons part parts => simp

theorem not_mem_of_mem_splitOn {x : Char} {cs part : List Char} (member : part ∈ splitOn x cs) :
    x ∉ part := by
  induction cs generalizing part with
  | nil =>
    rw [splitOn, List.mem_singleton] at member
    simp [member]
  | cons c cs ih =>
    rw [splitOn] at member
    split at member
    case h_1 nothing =>
      rw [splitOn_eq] at nothing
      exact absurd nothing (List.splitOn_ne_nil x cs)
    case h_2 first others parts =>
      rw [parts] at ih
      obtain ⟨here, later⟩ := List.forall_mem_cons.mp (fun p : List Char => @ih p)
      split at member
      case isTrue =>
        rcases List.mem_cons.mp member with rfl | member
        · simp
        · exact ih member
      case isFalse other =>
        rcases List.mem_cons.mp member with rfl | member
        · simpa [eq_comm, here] using other
        · exact later part member

theorem splitOn_intercalate {x : Char} {parts : List (List Char)} (some_part : parts ≠ [])
    (whole : ∀ part ∈ parts, x ∉ part) : splitOn x ([x].intercalate parts) = parts := by
  rw [splitOn_eq]
  exact List.splitOn_intercalate x whole some_part

theorem intercalate_splitOn (x : Char) (cs : List Char) : [x].intercalate (splitOn x cs) = cs := by
  rw [splitOn_eq]
  exact List.intercalate_splitOn x

theorem splitOn_append (x : Char) (cs ds : List Char) :
    splitOn x (cs ++ x :: ds) = splitOn x cs ++ splitOn x ds := by
  simp only [splitOn_eq, List.splitOn_eq_splitOnP]
  exact List.splitOnP_append_cons cs ds (by simp)

theorem splitOn_cons_self (x : Char) (cs : List Char) : splitOn x (x :: cs) = [] :: splitOn x cs :=
  splitOn_append x [] cs

theorem splitOn_ne_nil (x : Char) (cs : List Char) : splitOn x cs ≠ [] := by
  rw [splitOn_eq]
  exact List.splitOn_ne_nil x cs

theorem mem_intercalate {x c : Char} {parts : List (List Char)} : c ∈ [x].intercalate parts ↔
    (∃ part ∈ parts, c ∈ part) ∨ c = x ∧ 1 < parts.length := by
  induction parts with
  | nil => simp
  | cons first parts ih =>
    cases parts with
    | nil => simp
    | cons second parts =>
      rw [List.intercalate_cons_cons, List.mem_append, List.mem_append, ih]
      simp only [List.mem_singleton, List.length_cons]
      grind

theorem mem_of_mem_splitOn {x c : Char} {cs part : List Char} (member : part ∈ splitOn x cs)
    (within : c ∈ part) : c ∈ cs := by
  rw [← intercalate_splitOn x cs]
  exact mem_intercalate.mpr (Or.inl ⟨part, member, within⟩)

inductive Spelled : List String → List (List Char) → Prop where
  | nil : Spelled [] []
  | cons (cs : List Char) {table : List String} {lines : List (List Char)}
      (later : Spelled table lines) : Spelled (String.ofList cs :: table) (cs :: lines)

variable {table : List String} {lines : List (List Char)}

theorem Spelled.words (spelled : Spelled table lines) :
    words table = lines.flatMap (splitOn ' ') := by
  induction spelled with
  | nil => rfl
  | cons cs later ih => simp [Text.words, ← ih]

theorem Spelled.rows (spelled : Spelled table lines) {p : Nat × List Nat → Bool}
    (all : ((lines.flatMap (splitOn ' ')).flatMap Rows.ofWord).all p = true) :
    ∀ row ∈ Rows.ofWords table, p row = true := by
  rw [Rows.ofWords, spelled.words]
  exact List.all_eq_true.mp all

theorem Spelled.ranges (spelled : Spelled table lines) {p : Nat × Nat → Bool}
    (all : ((lines.flatMap (splitOn ' ')).map Ranges.ofWord).all p = true) :
    ∀ range ∈ Ranges.ofWords table, p range = true := by
  rw [Ranges.ofWords, spelled.words]
  exact List.all_eq_true.mp all

end ExtensionAdmin.Text
