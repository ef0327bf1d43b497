import Mathlib.Data.List.Sort
import Mathlib.Data.String.Basic
import ExtensionAdmin.Json.Value

/-! Members in the order of their names. Members with strictly ascending names hold at most one
value under a name, and are the same when they hold the same values. A change under one name keeps
the order and touches no other name. -/

namespace ExtensionAdmin.Json.Members

variable {ms : Members} {name k : String} {v : Value} {change : Option Value → Value}

def Ascending (ms : Members) : Prop :=
  ms.Pairwise fun a b => a.1 < b.1

instance (ms : Members) : Decidable (Ascending ms) :=
  inferInstanceAs (Decidable (ms.Pairwise _))

theorem ascending_iff_names : Ascending ms ↔ ms.names.Pairwise (· < ·) :=
  List.pairwise_map.symm

theorem get?_eq_none (absent : ∀ m ∈ ms, m.1 ≠ name) : get? name ms = none := by
  induction ms with
  | nil => rfl
  | cons m ms ih =>
    obtain ⟨here, after⟩ := List.forall_mem_cons.mp absent
    simp [get?, here, ih after]

theorem mem_of_get? (found : get? name ms = some v) : (name, v) ∈ ms := by
  induction ms with
  | nil => simp [get?] at found
  | cons m ms ih =>
    by_cases same : m.1 = name
    · simp only [get?, same, if_true, Option.some.injEq] at found
      exact List.mem_cons.mpr (.inl (by rw [← same, ← found]))
    · exact List.mem_cons_of_mem m (ih (by simpa [get?, same] using found))

/-- What is under names that are all different is found. -/
theorem get?_eq_some_iff (distinct : ms.names.Nodup) :
    get? name ms = some v ↔ (name, v) ∈ ms := by
  refine ⟨mem_of_get?, fun member => ?_⟩
  induction ms with
  | nil => simp at member
  | cons m ms ih =>
    obtain ⟨new, distinct⟩ := List.nodup_cons.mp distinct
    rcases List.mem_cons.mp member with rfl | member
    · simp [get?]
    · have other : m.1 ≠ name := fun same => new (List.mem_map.mpr ⟨_, member, same.symm⟩)
      simpa [get?, other] using ih distinct member

theorem Ascending.distinct (ascending : Ascending ms) : ms.names.Nodup :=
  (ascending_iff_names.mp ascending).imp fun below => below.ne

theorem Ascending.get?_eq_some_iff (ascending : Ascending ms) :
    get? name ms = some v ↔ (name, v) ∈ ms :=
  Members.get?_eq_some_iff ascending.distinct

/-- Members in order are told by what they hold. -/
theorem Ascending.ext {left right : Members} (first : Ascending left) (second : Ascending right)
    (same : ∀ name, get? name left = get? name right) : left = right := by
  have irreflexive : Std.Irrefl fun a b : String × Value => a.1 < b.1 := ⟨fun a => lt_irrefl a.1⟩
  have antisymmetric : Std.Antisymm fun a b : String × Value => a.1 < b.1 :=
    ⟨fun _ _ below above => absurd below above.asymm⟩
  refine List.Pairwise.eq_of_mem_iff first second fun m => ?_
  rw [← first.get?_eq_some_iff, ← second.get?_eq_some_iff, same]

theorem name_of_mem_alter {m : String × Value} (member : m ∈ alter name change ms) :
    m.1 = name ∨ ∃ n ∈ ms, n.1 = m.1 := by
  induction ms with
  | nil => simp_all [alter]
  | cons n ms ih => grind [alter]

theorem Ascending.alter (ascending : Ascending ms) : Ascending (alter name change ms) := by
  induction ms with
  | nil => simp [Members.alter, Ascending]
  | cons m ms ih =>
    obtain ⟨below, rest⟩ := List.pairwise_cons.mp ascending
    unfold Members.alter
    -- The member is changed where it is, put before the first later name, or looked for behind.
    split
    case isTrue same => exact List.pairwise_cons.mpr ⟨below, rest⟩
    case isFalse different =>
      split
      case isTrue before =>
        refine List.pairwise_cons.mpr ⟨?_, ascending⟩
        intro n member
        rcases List.mem_cons.mp member with rfl | member
        · exact before
        · exact before.trans (below n member)
      case isFalse notBefore =>
        refine List.pairwise_cons.mpr ⟨?_, ih rest⟩
        intro n member
        rcases name_of_mem_alter member with same | ⟨n', held, same⟩
        · exact same ▸ lt_of_le_of_ne (not_lt.mp notBefore) different
        · exact same ▸ below n' held

theorem Ascending.get?_alter (ascending : Ascending ms) :
    get? k (Members.alter name change ms) =
      if k = name then some (change (get? name ms)) else get? k ms := by
  induction ms with
  | nil => simp [Members.alter, get?, eq_comm]
  | cons m ms ih =>
    obtain ⟨below, rest⟩ := List.pairwise_cons.mp ascending
    unfold Members.alter
    split
    case isTrue same => grind [get?]
    case isFalse different =>
      split
      case isTrue before =>
        have absent : get? name (m :: ms) = none := get?_eq_none <| by
          intro n member
          rcases List.mem_cons.mp member with rfl | member
          · exact different
          · exact (before.trans (below n member)).ne'
        rw [absent]
        simp [get?, eq_comm]
      case isFalse notBefore =>
        have later := ih rest
        grind [get?]

theorem Ascending.insert (ascending : Ascending ms) : Ascending (insert name v ms) :=
  ascending.alter

theorem Ascending.get?_insert (ascending : Ascending ms) :
    get? k (Members.insert name v ms) = if k = name then some v else get? k ms :=
  ascending.get?_alter

theorem get?_filter {q : String → Bool} (kept : q name = true) :
    get? name (ms.filter fun m => q m.1) = get? name ms := by
  induction ms with
  | nil => rfl
  | cons m ms ih =>
    by_cases same : m.1 = name
    · simp [get?, same, kept]
    · by_cases held : q m.1 = true <;> simp [get?, held, same, ih]

/-- Of members in order, those with one name are the one under it, or none. -/
theorem Ascending.filter_name (ascending : Ascending ms) (name : String) :
    ms.filter (fun m => m.1 = name) = ((get? name ms).map fun v => (name, v)).toList := by
  induction ms with
  | nil => rfl
  | cons m ms ih =>
    obtain ⟨below, rest⟩ := List.pairwise_cons.mp ascending
    by_cases same : m.1 = name
    · subst same
      have absent : get? m.1 ms = none := get?_eq_none fun n member => (below n member).ne'
      rw [List.filter_cons_of_pos (by simp), ih rest, absent]
      simp [get?]
    · rw [List.filter_cons_of_neg (by simpa using same), ih rest]
      simp [get?, same]

theorem get?_append (left right : Members) :
    get? name (left ++ right) = (get? name left).or (get? name right) := by
  induction left with
  | nil => rfl
  | cons m left ih => by_cases same : m.1 = name <;> simp [get?, same, ih]

/-- The members put into others one by one: each name has the value that was put there last. -/
theorem inserted_each {base : Members} (ascending : Ascending base) (ms : List (String × Value)) :
    Ascending (ms.foldl (fun acc m => insert m.1 m.2 acc) base) ∧
      ∀ name, get? name (ms.foldl (fun acc m => insert m.1 m.2 acc) base) =
        (get? name ms.reverse).or (get? name base) := by
  induction ms generalizing base with
  | nil => exact ⟨ascending, fun name => rfl⟩
  | cons m ms ih =>
    have begun : Ascending (insert m.1 m.2 base) := ascending.insert
    obtain ⟨ordered, found⟩ := ih begun
    refine ⟨ordered, fun name => ?_⟩
    rw [List.foldl_cons, found, ascending.get?_insert, List.reverse_cons, get?_append,
      Option.or_assoc]
    by_cases same : name = m.1
    · simp [get?, same]
    · simp [get?, same, Ne.symm same]

theorem ofList_ascending (ms : List (String × Value)) : Ascending (ofList ms) :=
  (inserted_each List.Pairwise.nil ms).1

theorem get?_ofList (ms : List (String × Value)) (name : String) :
    get? name (ofList ms) = get? name ms.reverse := by
  have found := (inserted_each List.Pairwise.nil ms).2 name
  rwa [show get? name [] = none from rfl, Option.or_none] at found

/-- Members with different names are all kept. -/
theorem get?_ofList_of_distinct {ms : List (String × Value)} (distinct : (names ms).Nodup)
    (name : String) : get? name (ofList ms) = get? name ms := by
  have reversed : (names ms.reverse).Nodup := by
    rw [names, List.map_reverse]
    exact List.nodup_reverse.mpr distinct
  ext v
  rw [get?_ofList, get?_eq_some_iff reversed, get?_eq_some_iff distinct, List.mem_reverse]

theorem ofList_of_ascending (ascending : Ascending ms) : ofList ms = ms :=
  (ofList_ascending ms).ext ascending (get?_ofList_of_distinct ascending.distinct)

end ExtensionAdmin.Json.Members
