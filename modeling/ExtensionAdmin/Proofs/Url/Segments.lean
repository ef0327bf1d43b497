import ExtensionAdmin.Proofs.Text.Table
import ExtensionAdmin.Proofs.Url.Percent
import ExtensionAdmin.Url.Path

/-! Segments of paths. A path that has been read is a slash and then segments that are encoded,
between slashes, none of which is a dot segment. A text without dot segments and backslashes is read
as it is, up to its encoding. -/

namespace ExtensionAdmin.Url

open Text (splitOn)

variable {c : Char} {cs ds raw : List Char} {raws ss path : List (List Char)}

def isDot (s : List Char) : Bool := isSingleDot s || isDoubleDot s

structure IsSegment (s : List Char) : Prop where
  plain : ∀ c ∈ s, inPath c = false
  whole : ∀ c ∈ s, isSlash c = false
  undotted : isDot s = false

theorem isSegment_nil : IsSegment [] := ⟨by simp, by simp, rfl⟩

theorem splitSegments_ne_nil (cs : List Char) : splitSegments cs ≠ [] := by
  induction cs with
  | nil => simp [splitSegments]
  | cons c cs ih =>
    rw [splitSegments]
    split
    · simp
    · split <;> simp

theorem splitSegments_whole (member : raw ∈ splitSegments cs) : ∀ c ∈ raw, isSlash c = false := by
  induction cs generalizing raw with
  | nil => simp_all [splitSegments]
  | cons c cs ih =>
    rw [splitSegments] at member
    split at member
    case h_1 nothing => exact absurd nothing (splitSegments_ne_nil cs)
    case h_2 first others parts =>
      rw [parts] at ih
      obtain ⟨here, later⟩ := List.forall_mem_cons.mp (fun r => @ih r)
      split at member
      case isTrue =>
        rcases List.mem_cons.mp member with rfl | member
        · simp
        · exact ih member
      case isFalse other =>
        rcases List.mem_cons.mp member with rfl | member
        · exact List.forall_mem_cons.mpr ⟨by simpa using other, here⟩
        · exact later raw member

theorem isSegment_encode (whole : ∀ c ∈ raw, isSlash c = false)
    (undotted : isDot (encode inPath raw) = false) : IsSegment (encode inPath raw) where
  plain := fun _ member => encode_reserved (by decide) (by decide) member
  whole := by
    intro c member
    rcases mem_encode member with ⟨kept, -⟩ | rfl | ⟨d, small, rfl⟩
    · exact whole c kept
    · decide
    · have all : ∀ e ∈ List.range 16, isSlash (Text.hexDigit e) = false := by decide
      exact all d (List.mem_range.mpr small)
  undotted := undotted

theorem parent_subset : parent path ⊆ path := by
  rw [parent]
  split
  · exact List.Subset.refl path
  · exact List.dropLast_subset path

theorem walk_segments (whole : ∀ raw ∈ raws, ∀ c ∈ raw, isSlash c = false)
    (before : ∀ s ∈ path, IsSegment s) : ∀ s ∈ walk path raws, IsSegment s := by
  induction raws generalizing path with
  | nil => exact before
  | cons raw raws ih =>
    obtain ⟨here, later⟩ := List.forall_mem_cons.mp whole
    have shorter : ∀ s ∈ parent path, IsSegment s := fun s member => before s (parent_subset member)
    have empty : ∀ s ∈ [[]], IsSegment s := by simpa using isSegment_nil
    -- Two dots add no segment and can drop one, one dot adds none, and anything else is added encoded. Dots at the
    -- end leave an empty segment.
    simp only [walk]
    split
    case isTrue =>
      refine ih later ?_
      split
      · exact List.forall_mem_append.mpr ⟨shorter, empty⟩
      · exact shorter
    case isFalse double =>
      split
      case isTrue =>
        refine ih later ?_
        split
        · exact List.forall_mem_append.mpr ⟨before, empty⟩
        · exact before
      case isFalse single =>
        have undotted : isDot (encode inPath raw) = false := by simp [isDot, single, double]
        refine ih later (List.forall_mem_append.mpr ⟨before, ?_⟩)
        simpa using isSegment_encode here undotted

theorem walk_ne_nil (path : List (List Char)) (raw : List Char) (rest : List (List Char)) :
    walk path (raw :: rest) ≠ [] := by
  induction rest generalizing path raw with
  | nil =>
    simp only [walk]
    split
    · simp
    · split <;> simp
  | cons next rest ih =>
    rw [walk]
    split
    · exact ih _ next
    · split <;> exact ih _ next

theorem segments_sound (cs : List Char) : segments cs ≠ [] ∧ ∀ s ∈ segments cs, IsSegment s := by
  have sound : ∀ raws : List (List Char), raws ≠ [] →
      (∀ raw ∈ raws, ∀ c ∈ raw, isSlash c = false) →
      walk [] raws ≠ [] ∧ ∀ s ∈ walk [] raws, IsSegment s := by
    intro raws filled whole
    obtain ⟨raw, rest, rfl⟩ := List.exists_cons_of_ne_nil filled
    exact ⟨walk_ne_nil [] raw rest, walk_segments whole (by simp)⟩
  cases cs with
  | nil => exact sound _ (by simp) (by simp)
  | cons c cs => exact sound _ (splitSegments_ne_nil _) fun raw member => splitSegments_whole member

theorem renderSegments_eq (filled : ss ≠ []) : renderSegments ss = '/' :: ['/'].intercalate ss := by
  induction ss with
  | nil => exact absurd rfl filled
  | cons s ss ih =>
    cases ss with
    | nil => simp [renderSegments]
    | cons next ss =>
      rw [renderSegments, List.flatMap_cons, ← renderSegments, ih (by simp),
        List.intercalate_cons_cons]
      simp

def Undotted (cs : List Char) : Prop := ∀ raw ∈ splitOn '/' cs, isDot (encode inPath raw) = false

instance (cs : List Char) : Decidable (Undotted cs) :=
  inferInstanceAs (Decidable (∀ raw ∈ splitOn '/' cs, isDot (encode inPath raw) = false))

theorem splitSegments_eq (straight : '\\' ∉ cs) : splitSegments cs = splitOn '/' cs := by
  induction cs with
  | nil => rfl
  | cons c cs ih =>
    obtain ⟨here, later⟩ := not_or.mp (mt List.mem_cons.mpr straight)
    have slash : isSlash c = (c == '/') := by simp [isSlash, Ne.symm here]
    rw [splitSegments, splitOn, ih later, slash]
    cases splitOn '/' cs <;> simp

theorem walk_undotted (undotted : ∀ raw ∈ raws, isDot (encode inPath raw) = false) :
    walk path raws = path ++ raws.map (encode inPath) := by
  induction raws generalizing path with
  | nil => simp [walk]
  | cons raw raws ih =>
    obtain ⟨here, later⟩ := List.forall_mem_cons.mp undotted
    rw [isDot, Bool.or_eq_false_iff] at here
    rw [walk, if_neg (by simp [here]), if_neg (by simp [here]), ih later]
    simp

theorem encode_intercalate (parts : List (List Char)) :
    encode inPath (['/'].intercalate parts) = ['/'].intercalate (parts.map (encode inPath)) := by
  induction parts with
  | nil => rfl
  | cons part parts ih =>
    cases parts with
    | nil => simp
    | cons next parts =>
      have slash : encode inPath ['/'] = ['/'] := by decide
      rw [List.intercalate_cons_cons, encode_append, encode_append, slash, ih]
      simp [List.intercalate_cons_cons]

/-- A text without dot segments and backslashes is read as it is, up to its encoding. -/
theorem renderSegments_undotted (straight : '\\' ∉ cs) (undotted : Undotted cs) :
    renderSegments (segments ('/' :: cs)) = '/' :: encode inPath cs := by
  have parts : segments ('/' :: cs) = (splitOn '/' cs).map (encode inPath) := by
    have walked : walk [] (splitOn '/' cs) = [] ++ (splitOn '/' cs).map (encode inPath) :=
      walk_undotted undotted
    rw [List.nil_append] at walked
    rw [← walked, ← splitSegments_eq straight]
    rfl
  have filled : (splitOn '/' cs).map (encode inPath) ≠ [] := by
    simp [Text.splitOn_ne_nil]
  rw [parts, renderSegments_eq filled, ← encode_intercalate, Text.intercalate_splitOn]

theorem undotted_append : Undotted (cs ++ '/' :: ds) ↔ Undotted cs ∧ Undotted ds := by
  simp only [Undotted, Text.splitOn_append, List.forall_mem_append]

theorem undotted_rooted : Undotted ('/' :: cs) ↔ Undotted cs := by
  have empty : isDot (encode inPath []) = false := by decide
  rw [Undotted, Text.splitOn_cons_self, List.forall_mem_cons, and_iff_right empty, Undotted]

/-- The text of segments has no dot segments. -/
theorem undotted_segments (filled : ss ≠ []) (sound : ∀ s ∈ ss, IsSegment s) :
    Undotted (['/'].intercalate ss) := by
  have single : ∀ s ∈ ss, '/' ∉ s := by
    intro s member slash
    have whole := (sound s member).whole '/' slash
    exact absurd whole (by decide)
  intro raw member
  rw [Text.splitOn_intercalate filled single] at member
  rw [encode_eq (sound raw member).plain]
  exact (sound raw member).undotted

end ExtensionAdmin.Url
