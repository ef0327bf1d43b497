import ExtensionAdmin.Proofs.Entity.PluginRecord

/-! The text of a plugin. The fields of a plugin come back from its text as they were. Its other
members come back as what their texts are read as, so the plugin comes back exactly when all of them
are legible. -/

namespace ExtensionAdmin.UiPlugin

open Json (Value Members readWithin?)

variable {p : UiPlugin} {room : Nat}

def read? (room : Nat) (cs : List Char) : Option UiPlugin :=
  (readWithin? room cs).bind fun v => (ofVerbatim v).toOption

theorem entries_legible (p : UiPlugin) : ∀ e ∈ p.entries, ∀ v ∈ e.2, v.Legible room := by
  simp [entries, Value.Legible, Value.reread]

/-- The members of a plugin are read again as those of the plugin with its other members read
again. -/
theorem rereadMembers_toMembers (p : UiPlugin) :
    Value.rereadMembers room p.toMembers =
      (Value.rereadMembers room p.extra).map fun es => { p with extra := es }.toMembers := by
  have fields : Value.rereadMembers room (written p.entries) = some (written p.entries) := by
    rw [Value.rereadMembers_eq_self_iff]
    intro m member
    obtain ⟨e, among, made⟩ := List.mem_filterMap.mp member
    obtain ⟨v, held, rfl⟩ := Option.map_eq_some_iff.mp made
    exact p.entries_legible e among v held
  rw [toMembers_eq, Value.rereadMembers_append, fields, Option.bind_some]
  congr 1
  funext es
  exact (toMembers_eq { p with extra := es }).symm

theorem Kept.reread (kept : p.Kept) {es : Members}
    (read : Value.rereadMembers room p.extra = some es) : Kept { p with extra := es } := by
  have names := Value.rereadMembers_names read
  refine ⟨?_, fun n member => ?_, fun n member => ?_⟩
  · rw [Members.ascending_iff_names, names, ← Members.ascending_iff_names]
    exact kept.ascending
  · obtain ⟨m, among, same, -⟩ :=
      Fallible.paired_of_mem (Value.rereadMembers_eq_some.mp read) member
    exact same ▸ kept.foreign m among
  · obtain ⟨m, among, -, value⟩ :=
      Fallible.paired_of_mem (Value.rereadMembers_eq_some.mp read) member
    exact (kept.canonical m among).reread value

def reread (room : Nat) (p : UiPlugin) : Option UiPlugin :=
  (Value.rereadMembers room p.extra).map fun es => { p with extra := es }

theorem reread_eq_self_iff : p.reread room = some p ↔ ∀ m ∈ p.extra, m.2.Legible room := by
  rw [reread, ← Value.rereadMembers_eq_self_iff]
  cases Value.rereadMembers room p.extra with
  | none => simp
  | some es =>
    simp only [Option.map_some, Option.some.injEq]
    constructor
    · intro same
      exact congrArg extra same
    · rintro rfl
      rfl

/-- The text of a plugin is read as the plugin with its other members read again. -/
theorem Kept.read?_render (kept : p.Kept) :
    read? (room + 1) p.toValue.render = p.reread room := by
  rw [read?, Json.readWithin?_render, toValue, Value.reread, rereadMembers_toMembers,
    UiPlugin.reread]
  cases read : Value.rereadMembers room p.extra with
  | none => rfl
  | some es =>
    have same := (kept.reread read).ofVerbatim_toValue
    rw [toValue] at same
    simp only [Option.map_some, Option.bind_some, same, Except.toOption]

end ExtensionAdmin.UiPlugin
