import ExtensionAdmin.Proofs.Json.Members

/-! Values with the names of their objects in order. A value is canonical when it is its own
canonical form: the names of each object in it ascend. A canonical form is canonical, and what a
canonical value holds is canonical. -/

namespace ExtensionAdmin.Json.Value

/-- What holds of scalars, and of sequences and objects that it holds of all parts of, holds of
every value. -/
@[elab_as_elim]
theorem parts {motive : Value → Prop} (scalar : ∀ v, v.isScalar = true → motive v)
    (array : ∀ items, (∀ v ∈ items, motive v) → motive (.array items))
    (object : ∀ ms : Members, (∀ m ∈ ms, motive m.2) → motive (.object ms)) :
    ∀ v, motive v
  | .null => scalar _ rfl
  | .bool _ => scalar _ rfl
  | .number _ => scalar _ rfl
  | .string _ => scalar _ rfl
  | .array items => array items fun v _ => parts scalar array object v
  | .object ms => object ms fun m held =>
    have smaller : sizeOf m.2 < sizeOf ms := by
      have inside := List.sizeOf_lt_of_mem held
      have value : sizeOf m.2 < sizeOf m := by
        cases m
        simp
      omega
    parts scalar array object m.2

theorem canonicalItems_eq_map (items : List Value) :
    canonicalItems items = items.map canonical := by
  induction items with
  | nil => rw [canonicalItems, List.map_nil]
  | cons v items ih => rw [canonicalItems, ih, List.map_cons]

theorem canonicalEach_eq_map (ms : List (String × Value)) :
    canonicalEach ms = ms.map fun m => (m.1, m.2.canonical) := by
  induction ms with
  | nil => rw [canonicalEach, List.map_nil]
  | cons m ms ih => rw [canonicalEach, ih, List.map_cons]

def Canonical (v : Value) : Prop := v.canonical = v

theorem canonical_scalar {v : Value} (scalar : v.isScalar = true) : v.Canonical := by
  cases v <;> simp_all [Canonical, canonical, isScalar]

theorem canonical_array_iff (items : List Value) :
    (Value.array items).Canonical ↔ ∀ v ∈ items, v.Canonical := by
  rw [Canonical, canonical, canonicalItems_eq_map, Value.array.injEq]
  constructor
  · intro same
    exact List.map_inj_left.mp (same.trans (List.map_id items).symm)
  · intro each
    exact (List.map_congr_left each).trans (List.map_id items)

theorem map_canonical {ms : List (String × Value)} (each : ∀ m ∈ ms, m.2.Canonical) :
    (ms.map fun m => (m.1, m.2.canonical)) = ms := by
  have same : ∀ m ∈ ms, (m.1, m.2.canonical) = id m :=
    fun m member => Prod.ext rfl (each m member)
  rw [List.map_congr_left same, List.map_id]

theorem canonical_object_iff (ms : Members) :
    (Value.object ms).Canonical ↔ ms.Ascending ∧ ∀ m ∈ ms, m.2.Canonical := by
  rw [Canonical, canonical, canonicalMembers, canonicalEach_eq_map, Value.object.injEq]
  constructor
  · intro same
    have ascending : ms.Ascending := same ▸ Members.ofList_ascending _
    have mapped : Members.Ascending (ms.map fun m => (m.1, m.2.canonical)) :=
      List.pairwise_map.mpr ascending
    rw [Members.ofList_of_ascending mapped] at same
    refine ⟨ascending, fun m member => ?_⟩
    exact congrArg Prod.snd (List.map_inj_left.mp (same.trans (List.map_id ms).symm) m member)
  · rintro ⟨ascending, each⟩
    rw [map_canonical each, Members.ofList_of_ascending ascending]

/-- A canonical form is canonical. -/
theorem canonical_canonical (v : Value) : v.canonical.Canonical := by
  induction v using parts with
  | scalar v scalar =>
    have same : v.Canonical := canonical_scalar scalar
    rwa [show v.canonical = v from same]
  | array items each =>
    rw [canonical, canonicalItems_eq_map, canonical_array_iff]
    exact List.forall_mem_map.mpr each
  | object ms each =>
    rw [canonical, canonicalMembers, canonicalEach_eq_map, canonical_object_iff]
    refine ⟨Members.ofList_ascending _, fun m member => ?_⟩
    have found := (Members.ofList_ascending _).get?_eq_some_iff.mpr member
    rw [Members.get?_ofList] at found
    obtain ⟨n, held, same⟩ := List.mem_map.mp (List.mem_reverse.mp (Members.mem_of_get? found))
    exact congrArg Prod.snd same ▸ each n held

end ExtensionAdmin.Json.Value
