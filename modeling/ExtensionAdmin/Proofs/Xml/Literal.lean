import ExtensionAdmin.Proofs.Json.Depth
import ExtensionAdmin.Proofs.Xml.Conversion

/-! Which texts are taken for which values. The text of a value is taken for that value, whatever
white space stands around it, as long as the value does not nest too deep. A text is left as it is,
white space and all, exactly when it is no JSON once it is trimmed; a text that nests too deep is
none. -/

namespace ExtensionAdmin.Xml

open Json (Value)

def Padded (inner : List Char) (raw : String) : Prop :=
  ∃ before after, Text.allBlank before = true ∧ Text.allBlank after = true ∧
    raw.toList = before ++ inner ++ after

theorem Padded.trim {inner : List Char} {raw : String} (padded : Padded inner raw)
    (solid : Text.Solid inner) : Text.trim raw.toList = inner := by
  obtain ⟨before, after, blankBefore, blankAfter, spelled⟩ := padded
  rw [spelled]
  exact Text.trim_padded blankBefore blankAfter solid

/-- No value's text begins or ends with white space: what is blank in a string stands between its
quotes. -/
theorem render_solid {v : Value} (whole : v.Whole) : Text.Solid v.render := by
  cases whole with
  | null => exact Text.solid_of_all (by simp [Value.render, Text.isBlank])
  | bool b =>
    cases b
    · exact Text.solid_of_all (by simp [Value.render, Text.isBlank])
    · exact Text.solid_of_all (by simp [Value.render, Text.isBlank])
  | @int i exact =>
    exact Text.solid_of_all fun c member => isBlank_of_number (Json.render_plain i c member)
  | string s => exact Text.solid_enclosed (by decide) (by decide) _
  | array each => exact Text.solid_enclosed (by decide) (by decide) _
  | object each => exact Text.solid_enclosed (by decide) (by decide) _

theorem literal_unread {raw : String} (unread : Json.read? (Text.trim raw.toList) = none) :
    literal raw = .string raw := by
  rw [literal, unread, Option.getD_none]

/-- A text is left as it is only if it is no JSON: a string that is read is shorter than its own
text, since that has quotes. -/
theorem literal_eq_string_iff (raw : String) :
    literal raw = .string raw ↔ Json.read? (Text.trim raw.toList) = none := by
  constructor
  · intro kept
    cases read : Json.read? (Text.trim raw.toList) with
    | none => rfl
    | some v =>
      obtain rfl : v = .string raw := by simpa [literal, read] using kept
      have shorter := Json.read?_string_length read
      have trimmed := Text.trim_length_le raw.toList
      omega
  · exact literal_unread

theorem literal_padded {v : Value} {raw : String} (canonical : v.Canonical) (whole : v.Whole)
    (padded : Padded v.render raw) :
    literal raw = if v.depth ≤ Json.maxDepth then v else .string raw := by
  rw [literal, padded.trim (render_solid whole), Json.read?_render_whole canonical whole]
  split <;> rfl

/-- The text of a canonical value with whole numbers is taken for that value, with white space
around it or not, and left as it is if the value nests too deep. Of all texts those are left as they
are that are no JSON once they are trimmed, be it for their depth alone. -/
theorem literal_inverts_text (raw : String) :
    (∀ v : Value, v.Canonical → v.Whole → Padded v.render raw →
      literal raw = if v.depth ≤ Json.maxDepth then v else .string raw) ∧
    (literal raw = .string raw ↔ Json.read? (Text.trim raw.toList) = none) ∧
    (∀ room v, Json.readWithin? room (Text.trim raw.toList) = some v → Json.maxDepth < v.depth →
      literal raw = .string raw) := by
  refine ⟨?_, literal_eq_string_iff raw, ?_⟩
  · intro v canonical whole padded
    exact literal_padded canonical whole padded
  · intro room v read deep
    exact literal_unread (Json.read?_deep read deep)

end ExtensionAdmin.Xml
