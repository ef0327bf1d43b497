import ExtensionAdmin.Entity.UiPlugin
import ExtensionAdmin.Proofs.Json.Reread

/-! The members of a plugin. A plugin that is read from members takes each field from the member of
its name and keeps all other members as they are. What is written for it holds those again, each
name once, so that reading it gives the same plugin. -/

namespace ExtensionAdmin

open Json (Value Members)
open Json.Members (Ascending)

namespace UiPlugin

variable {ms : Members} {p : UiPlugin}

/-- The fields that are written whether they were read or not, with the values that they have when
they were not. -/
def supplied : Members := [("vendor", .string ""), ("version", .string ""),
  ("tenant_scoped", .bool false), ("provider_scoped", .bool false), ("enabled", .bool false)]

def nullables : List String := ["description", "license", "link", "plugin_status", "resourcePath"]

def carried (name : String) : Option Value → Option Value
  | none => supplied.get? name
  | some .null => if name ∈ nullables then none else some .null
  | some v => some v

def nullable : Option String → Value
  | none => .null
  | some s => .string s

/-- The fields of a plugin by their names, with what is written for them, if anything. -/
def entries (p : UiPlugin) : List (String × Option Value) := [
  ("id", some (.string p.id)), ("pluginName", some (.string p.name)),
  ("vendor", some (.string p.vendor)), ("description", p.description.map .string),
  ("version", some (.string p.version)), ("license", p.license.map .string),
  ("link", p.link.map .string), ("tenant_scoped", some (.bool p.tenantScoped)),
  ("provider_scoped", some (.bool p.providerScoped)), ("enabled", some (.bool p.enabled)),
  ("plugin_status", p.status.map .string), ("resourcePath", p.resourcePath.map .string)]

structure ReadFrom (ms : Members) (p : UiPlugin) : Prop where
  checked : ∀ m ∈ ms, checkMember m = .ok ()
  entries : ∀ e ∈ p.entries, carried e.1 (ms.get? e.1) = e.2
  extra : p.extra = ms.filter fun m => !isField m.1

theorem carried_some {name : String} {v : Value} (other : name ∉ nullables) :
    carried name (some v) = some v := by
  cases v <;> simp [carried, other]

theorem carried_required {name s : String} {x : Option Value}
    (unsupplied : supplied.get? name = none := by rfl) (other : name ∉ nullables := by decide) :
    carried name x = some (.string s) ↔ x = some (.string s) := by
  cases x with
  | none => simp [carried, unsupplied]
  | some v => rw [carried_some other]

theorem carried_supplied {name : String} {default w : Value} {x : Option Value}
    (held : supplied.get? name = some default := by rfl)
    (other : name ∉ nullables := by decide) :
    carried name x = some w ↔ x.getD default = w := by
  cases x with
  | none => simp [carried, held]
  | some v => simp [carried_some other]

theorem carried_nullable {name : String} {o : Option String} {x : Option Value}
    (unsupplied : supplied.get? name = none := by rfl) (among : name ∈ nullables := by decide) :
    carried name x = o.map .string ↔ x.getD .null = nullable o := by
  rcases x with _ | v
  · cases o <;> simp [carried, unsupplied, nullable]
  · cases v <;> cases o <;> simp [carried, among, nullable]

theorem entries_names (p : UiPlugin) : p.entries.map (·.1) = fields.map (·.1) := rfl

theorem entries_carried (p : UiPlugin) : ∀ e ∈ p.entries, carried e.1 e.2 = e.2 := by
  have optional : ∀ name ∈ nullables, ∀ o : Option String,
      carried name (o.map .string) = o.map .string := by
    intro name among o
    have unsupplied : supplied.get? name = none := by revert name; decide
    cases o <;> simp [carried, unsupplied]
  simp only [entries, List.forall_mem_cons]
  refine ⟨rfl, rfl, rfl, ?_, rfl, ?_, ?_, rfl, rfl, rfl, ?_, ?_, by simp⟩
  all_goals exact optional _ (by decide) _

theorem entries_distinct (p : UiPlugin) : (p.entries.map (·.1)).Nodup := by
  rw [entries_names]
  decide

theorem entries_scalar (p : UiPlugin) : ∀ e ∈ p.entries, ∀ v ∈ e.2, v.isScalar = true := by
  simp [entries, Value.isScalar]

theorem entries_checked (p : UiPlugin) :
    ∀ e ∈ p.entries, ∀ v ∈ e.2, checkMember (e.1, v) = .ok () := by
  have text : ∀ name ∈ nullables, ∀ o : Option String, ∀ v ∈ o.map Value.string,
      checkMember (name, v) = .ok () := by
    intro name among o v same
    obtain ⟨s, -, rfl⟩ := Option.mem_map.mp same
    revert name
    simp only [nullables, List.forall_mem_cons]
    exact ⟨rfl, rfl, rfl, rfl, rfl, by simp⟩
  simp only [entries, List.forall_mem_cons, Option.mem_some_iff, forall_eq']
  refine ⟨rfl, rfl, rfl, ?_, rfl, ?_, ?_, rfl, rfl, rfl, ?_, ?_, by simp⟩
  all_goals exact text _ (by decide) _

theorem isField_iff {name : String} : isField name = true ↔ name ∈ fields.map (·.1) := by
  unfold isField
  rw [List.any_eq_true, List.mem_map]
  simp only [decide_eq_true_eq]

theorem ne_of_foreign {k name : String} (field : isField k = true)
    (foreign : isField name = false) : k ≠ name := by
  rintro rfl
  exact Bool.false_ne_true (foreign.symm.trans field)

theorem carried_foreign {name : String} (foreign : isField name = false) (x : Option Value) :
    carried name x = x := by
  have unsupplied : ∀ m ∈ supplied, isField m.1 = true := by decide
  have others : ∀ k ∈ nullables, isField k = true := by decide
  cases x with
  | none => exact Members.get?_eq_none fun m member => ne_of_foreign (unsupplied m member) foreign
  | some v => exact carried_some fun member => ne_of_foreign (others name member) foreign rfl

theorem toText_eq_ok {v : Value} {s : String} : v.toText = .ok s ↔ v = .string s := by
  cases v <;> simp [Value.toText]

theorem toText?_eq_ok {v : Value} {o : Option String} : v.toText? = .ok o ↔ v = nullable o := by
  cases v <;> cases o <;> simp [Value.toText?, Value.toText, nullable, Functor.map, Except.map]

theorem toBool_eq_ok {v : Value} {b : Bool} : v.toBool = .ok b ↔ v = .bool b := by
  cases v <;> simp [Value.toBool]

theorem required_eq_ok {name s : String} :
    ms.required name Value.toText = .ok s ↔ ms.get? name = some (.string s) := by
  unfold Members.required
  split <;> simp_all [toText_eq_ok]

theorem optional_eq_ok {α : Type} {read : Value → Json.Decoded α} {name : String} {default x : α}
    {write : α → Value} (reads : ∀ {v x}, read v = .ok x ↔ v = write x) :
    ms.optional name default read = .ok x ↔ (ms.get? name).getD (write default) = write x := by
  unfold Members.optional
  cases ms.get? name with
  | none =>
    constructor
    · rintro ⟨⟩
      rfl
    · intro same
      have written : read (write default) = .ok default := reads.mpr rfl
      exact (reads.mpr same).symm.trans written |>.symm
  | some v => exact reads

theorem forM_eq_ok {f : String × Value → Json.Decoded Unit} {ms : List (String × Value)} :
    ms.forM f = .ok () ↔ ∀ m ∈ ms, f m = .ok () := by
  induction ms with
  | nil => simp [pure, Except.pure]
  | cons m ms ih =>
    rw [List.forM_eq_forM, List.forM_cons, Fallible.bind_eq_ok, List.forall_mem_cons, ← ih]
    constructor
    · rintro ⟨⟨⟩, here, later⟩
      exact ⟨here, later⟩
    · rintro ⟨here, later⟩
      exact ⟨(), here, later⟩

theorem ofMembers_eq_ok : ofMembers ms = .ok p ↔ ReadFrom ms p := by
  unfold ofMembers
  simp only [Fallible.bind_eq_ok, required_eq_ok, optional_eq_ok toText_eq_ok,
    optional_eq_ok toText?_eq_ok, optional_eq_ok toBool_eq_ok, pure, Except.pure, Except.ok.injEq]
  constructor
  · rintro ⟨⟨⟩, checked, _, id, _, name, _, vendor, _, description, _, version, _, license, _, link,
      _, tenantScoped, _, providerScoped, _, enabled, _, status, _, resourcePath, rfl⟩
    refine ⟨forM_eq_ok.mp checked, ?_, rfl⟩
    simp only [UiPlugin.entries, List.forall_mem_cons]
    exact ⟨(carried_required).mpr id, (carried_required).mpr name, (carried_supplied).mpr vendor,
      (carried_nullable).mpr description, (carried_supplied).mpr version,
      (carried_nullable).mpr license, (carried_nullable).mpr link,
      (carried_supplied).mpr tenantScoped, (carried_supplied).mpr providerScoped,
      (carried_supplied).mpr enabled, (carried_nullable).mpr status,
      (carried_nullable).mpr resourcePath, by simp⟩
  · rintro ⟨checked, each, extra⟩
    simp only [UiPlugin.entries, List.forall_mem_cons] at each
    obtain ⟨id, name, vendor, description, version, license, link, tenantScoped, providerScoped,
      enabled, status, resourcePath, -⟩ := each
    exact ⟨(), forM_eq_ok.mpr checked, _, (carried_required).mp id, _, (carried_required).mp name,
      _, (carried_supplied).mp vendor, _, (carried_nullable).mp description,
      _, (carried_supplied).mp version, _, (carried_nullable).mp license,
      _, (carried_nullable).mp link, _, (carried_supplied).mp tenantScoped,
      _, (carried_supplied).mp providerScoped, _, (carried_supplied).mp enabled,
      _, (carried_nullable).mp status, _, (carried_nullable).mp resourcePath, by rw [← extra]⟩

def written (entries : List (String × Option Value)) : Members :=
  entries.filterMap fun e => e.2.map fun v => (e.1, v)

theorem written_names (entries : List (String × Option Value)) :
    (written entries).names.Sublist (entries.map (·.1)) := by
  induction entries with
  | nil => exact List.Sublist.refl _
  | cons e entries ih =>
    obtain ⟨name, _ | v⟩ := e
    · exact ih.cons name
    · exact ih.cons_cons name

theorem get?_written {entries : List (String × Option Value)}
    (distinct : (entries.map (·.1)).Nodup) {e : String × Option Value} (member : e ∈ entries) :
    Members.get? e.1 (written entries) = e.2 := by
  induction entries with
  | nil => cases member
  | cons first entries ih =>
    obtain ⟨new, distinct⟩ := List.nodup_cons.mp distinct
    rcases List.mem_cons.mp member with rfl | member
    · obtain ⟨name, _ | v⟩ := e
      · refine Members.get?_eq_none fun m held same => new ?_
        exact (written_names entries).subset (List.mem_map.mpr ⟨m, held, same⟩)
      · simp [written, Members.get?]
    · have other : first.1 ≠ e.1 := fun same => new (List.mem_map.mpr ⟨e, member, same.symm⟩)
      have later := ih distinct member
      obtain ⟨name, _ | v⟩ := first
      · exact later
      · simpa [written, Members.get?, other] using later

theorem written_some (name : String) (v : Value) (entries : List (String × Option Value)) :
    written ((name, some v) :: entries) = (name, v) :: written entries := rfl

theorem written_optional (name : String) (o : Option String)
    (entries : List (String × Option Value)) :
    written ((name, o.map .string) :: entries) = optionalMember name o ++ written entries := by
  cases o <;> rfl

theorem toMembers_eq (p : UiPlugin) : p.toMembers = written p.entries ++ p.extra := by
  have none : written [] = [] := rfl
  simp only [toMembers, entries, written_some, written_optional, none, List.append_assoc,
    List.cons_append, List.nil_append]

theorem mem_toMembers {m : String × Value} (member : m ∈ p.toMembers) :
    (∃ e ∈ p.entries, ∃ v ∈ e.2, m = (e.1, v)) ∨ m ∈ p.extra := by
  rw [toMembers_eq] at member
  rcases List.mem_append.mp member with field | other
  · obtain ⟨e, among, made⟩ := List.mem_filterMap.mp field
    obtain ⟨v, held, rfl⟩ := Option.map_eq_some_iff.mp made
    exact Or.inl ⟨e, among, v, held, rfl⟩
  · exact Or.inr other

structure Kept (p : UiPlugin) : Prop where
  ascending : Ascending p.extra
  foreign : ∀ m ∈ p.extra, isField m.1 = false
  canonical : ∀ m ∈ p.extra, m.2.Canonical

theorem ReadFrom.kept (reads : ReadFrom ms p) (canonical : (Value.object ms).Canonical) :
    p.Kept := by
  obtain ⟨ascending, each⟩ := (Value.canonical_object_iff ms).mp canonical
  refine ⟨?_, fun m member => ?_, fun m member => ?_⟩
  · rw [reads.extra]
    exact List.Pairwise.filter _ ascending
  · rw [reads.extra, List.mem_filter] at member
    simpa using member.2
  · rw [reads.extra] at member
    exact each m (List.mem_of_mem_filter member)

theorem written_isField (p : UiPlugin) : ∀ m ∈ written p.entries, isField m.1 = true := by
  intro m member
  rw [isField_iff, ← p.entries_names]
  exact (written_names p.entries).subset (List.mem_map.mpr ⟨m, member, rfl⟩)

theorem Kept.get?_entry (kept : p.Kept) {e : String × Option Value} (member : e ∈ p.entries) :
    p.toMembers.get? e.1 = e.2 := by
  have field : isField e.1 = true :=
    isField_iff.mpr (p.entries_names ▸ List.mem_map.mpr ⟨e, member, rfl⟩)
  have absent : p.extra.get? e.1 = none :=
    Members.get?_eq_none fun m held => (ne_of_foreign field (kept.foreign m held)).symm
  rw [toMembers_eq, Members.get?_append, get?_written p.entries_distinct member, absent,
    Option.or_none]

theorem get?_foreign (p : UiPlugin) {name : String} (foreign : isField name = false) :
    p.toMembers.get? name = p.extra.get? name := by
  have absent : (written p.entries).get? name = none :=
    Members.get?_eq_none fun m held => ne_of_foreign (written_isField p m held) foreign
  rw [toMembers_eq, Members.get?_append, absent, Option.none_or]

theorem Kept.distinct (kept : p.Kept) : p.toMembers.names.Nodup := by
  rw [toMembers_eq, Members.names, List.map_append, List.nodup_append]
  refine ⟨(written_names p.entries).nodup p.entries_distinct, kept.ascending.distinct, ?_⟩
  intro k field l other
  obtain ⟨m, written, rfl⟩ := List.mem_map.mp field
  obtain ⟨n, held, rfl⟩ := List.mem_map.mp other
  exact ne_of_foreign (written_isField p m written) (kept.foreign n held)

/-- Under each name a plugin is written with what was carried from what it was read from. -/
theorem ReadFrom.get?_toMembers (reads : ReadFrom ms p) (canonical : (Value.object ms).Canonical)
    (name : String) : p.toMembers.get? name = carried name (ms.get? name) := by
  by_cases field : isField name = true
  · rw [isField_iff, ← p.entries_names] at field
    obtain ⟨e, member, rfl⟩ := List.mem_map.mp field
    rw [(reads.kept canonical).get?_entry member, reads.entries e member]
  · have foreign : isField name = false := by simpa using field
    rw [get?_foreign p foreign, carried_foreign foreign, reads.extra]
    exact Members.get?_filter (q := fun k => !isField k) (by simp [foreign])

theorem repeatedField?_eq_none {ms : List (String × Value)} (distinct : (Members.names ms).Nodup) :
    repeatedField? ms = none := by
  induction ms with
  | nil => rfl
  | cons m ms ih =>
    obtain ⟨new, distinct⟩ := List.nodup_cons.mp distinct
    have once : ms.any (fun n => n.1 = m.1) = false := by
      rw [List.any_eq_false]
      intro n member same
      exact new (List.mem_map.mpr ⟨n, member, by simpa using same⟩)
    rw [repeatedField?, once, Bool.and_false, if_neg (by simp), ih distinct]

theorem Kept.checked (kept : p.Kept) : ∀ m ∈ p.toMembers, checkMember m = .ok () := by
  intro m member
  rcases mem_toMembers member with ⟨e, among, v, held, rfl⟩ | other
  · exact p.entries_checked e among v held
  · have foreign := kept.foreign m other
    have unknown : fields.lookup m.1 = none := by
      rw [List.lookup_eq_none_iff]
      intro f member
      have field : isField f.1 = true := isField_iff.mpr (List.mem_map.mpr ⟨f, member, rfl⟩)
      exact bne_iff_ne.mpr (ne_of_foreign field foreign).symm
    rw [checkMember, unknown]

theorem Kept.canonical_members (kept : p.Kept) : ∀ m ∈ p.toMembers, m.2.Canonical := by
  intro m member
  rcases mem_toMembers member with ⟨e, among, v, held, rfl⟩ | other
  · exact Value.canonical_scalar (p.entries_scalar e among v held)
  · exact kept.canonical m other

/-- A plugin is read from members in order that hold what is written for it. -/
theorem Kept.readFrom (kept : p.Kept) (ascending : Ascending ms)
    (same : ∀ name, ms.get? name = p.toMembers.get? name) : ReadFrom ms p := by
  refine ⟨fun m member => ?_, fun e member => ?_, ?_⟩
  · have found : ms.get? m.1 = some m.2 := ascending.get?_eq_some_iff.mpr member
    rw [same] at found
    exact kept.checked m (Members.mem_of_get? found)
  · rw [same, kept.get?_entry member, p.entries_carried e member]
  · refine kept.ascending.ext (List.Pairwise.filter _ ascending) fun name => ?_
    cases field : isField name with
    | false =>
      rw [Members.get?_filter (q := fun k => !isField k) (by simp [field]), same,
        get?_foreign p field]
    | true =>
      rw [Members.get?_eq_none, Members.get?_eq_none]
      · rintro m member rfl
        simp [field] at member
      · exact fun m member => (ne_of_foreign field (kept.foreign m member)).symm

/-- What is written for a plugin is read as the same plugin. -/
theorem Kept.ofVerbatim_toValue (kept : p.Kept) : ofVerbatim p.toValue = .ok p := by
  have each := Value.map_canonical kept.canonical_members
  rw [toValue, ofVerbatim, repeatedField?_eq_none kept.distinct]
  simp only [Value.canonical, Value.canonicalMembers, Value.canonicalEach_eq_map, each, ofValue]
  exact ofMembers_eq_ok.mpr (kept.readFrom (Members.ofList_ascending _)
    (Members.get?_ofList_of_distinct kept.distinct))

theorem ofValue_canonical {v : Value} (read : ofValue v.canonical = .ok p) :
    ∃ ms, v.canonical = .object ms ∧ ReadFrom ms p := by
  cases same : v.canonical with
  | object ms =>
    rw [same] at read
    exact ⟨ms, rfl, ofMembers_eq_ok.mp read⟩
  | null | bool b | number n | string s | array items => simp [same, ofValue] at read

theorem ofVerbatim_kept {v : Value} (read : ofVerbatim v = .ok p) : p.Kept := by
  cases v with
  | object ms =>
    rw [ofVerbatim] at read
    split at read
    · cases read
    · obtain ⟨ns, same, reads⟩ := ofValue_canonical read
      exact reads.kept (same ▸ Value.canonical_canonical _)
  | null | bool b | number n | string s | array items => simp [ofVerbatim, ofValue] at read

end UiPlugin

end ExtensionAdmin
