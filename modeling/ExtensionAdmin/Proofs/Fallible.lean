import Mathlib.Data.List.Forall2

/-! Steps that can fail, one after the other. A sequence of steps succeeds exactly when each of its
steps does. A list that is gone through with such a step comes to the results of all its items in
order, or to the failure of the first item that has one. -/

namespace ExtensionAdmin.Fallible

variable {ε α β γ : Type}

theorem bind_eq_ok {x : Except ε α} {f : α → Except ε β} {y : β} :
    x >>= f = .ok y ↔ ∃ z, x = .ok z ∧ f z = .ok y := by
  cases x <;> simp [bind, Except.bind]

theorem map_eq_ok {f : α → β} {x : Except ε α} {y : β} :
    f <$> x = .ok y ↔ ∃ z, x = .ok z ∧ f z = y := by
  cases x <;> simp [Functor.map, Except.map]

theorem exceptMap_eq_ok {f : α → β} {x : Except ε α} {y : β} :
    x.map f = .ok y ↔ ∃ z, x = .ok z ∧ f z = y :=
  map_eq_ok

theorem mem_toOption {x : Except ε α} {y : α} : y ∈ x.toOption.toList ↔ x = .ok y := by
  cases x <;> simp [Except.toOption, eq_comm]

theorem mapError_eq_ok {f : ε → γ} {x : Except ε α} {y : α} :
    x.mapError f = .ok y ↔ x = .ok y := by
  cases x <;> simp [Except.mapError]

/-- Of lists that go together item by item, each item of the second goes with one of the first. -/
theorem paired_of_mem {R : α → β → Prop} {xs : List α} {ys : List β} (pairs : List.Forall₂ R xs ys)
    {y : β} (member : y ∈ ys) : ∃ x ∈ xs, R x y := by
  induction pairs with
  | nil => simp at member
  | @cons x z xs ys here later ih =>
    rcases List.mem_cons.mp member with rfl | member
    · exact ⟨x, List.mem_cons_self, here⟩
    · obtain ⟨x', among, found⟩ := ih member
      exact ⟨x', List.mem_cons_of_mem x among, found⟩

variable {f : α → Except ε β} {xs : List α}

theorem mapM_mapError (g : ε → γ) :
    (xs.mapM f).mapError g = xs.mapM fun x => (f x).mapError g := by
  induction xs with
  | nil => rfl
  | cons x xs ih =>
    rw [List.mapM_cons, List.mapM_cons, ← ih]
    cases f x with
    | error e => rfl
    | ok y => cases xs.mapM f <;> rfl

theorem mapM_eq_ok {ys : List β} :
    xs.mapM f = .ok ys ↔ List.Forall₂ (fun x y => f x = .ok y) xs ys := by
  induction xs generalizing ys with
  | nil => cases ys <;> simp [pure, Except.pure]
  | cons x xs ih =>
    simp only [List.mapM_cons, bind_eq_ok, ih, pure, Except.pure, Except.ok.injEq]
    constructor
    · rintro ⟨y, here, rest, later, rfl⟩
      exact .cons here later
    · rintro (_ | ⟨here, later⟩)
      exact ⟨_, here, _, later, rfl⟩

theorem mapM_ok_mem {ys : List β} (read : xs.mapM f = .ok ys) {x : α} (member : x ∈ xs) :
    ∃ y ∈ ys, f x = .ok y :=
  paired_of_mem (mapM_eq_ok.mp read).flip member

theorem mapM_ok_iff : (∃ ys, xs.mapM f = .ok ys) ↔ ∀ x ∈ xs, ∃ y, f x = .ok y := by
  induction xs with
  | nil => simp [pure, Except.pure]
  | cons x xs ih =>
    rw [List.forall_mem_cons, ← ih]
    simp only [List.mapM_cons, bind_eq_ok]
    constructor
    · rintro ⟨ys, y, here, rest, later, -⟩
      exact ⟨⟨y, here⟩, rest, later⟩
    · rintro ⟨⟨y, here⟩, rest, later⟩
      exact ⟨y :: rest, y, here, rest, later, rfl⟩

/-- The first item that fails is the one whose failure is seen. -/
theorem mapM_eq_error {e : ε} : xs.mapM f = .error e ↔ ∃ before x after,
    xs = before ++ x :: after ∧ (∀ z ∈ before, ∃ y, f z = .ok y) ∧ f x = .error e := by
  induction xs with
  | nil => simp [pure, Except.pure]
  | cons x xs ih =>
    rw [List.mapM_cons]
    constructor
    · intro failed
      cases here : f x with
      | error other =>
        rw [here] at failed
        cases failed
        exact ⟨[], x, xs, rfl, by simp, here⟩
      | ok y =>
        have later : xs.mapM f = .error e := by
          cases rest : xs.mapM f with
          | error other => simpa [here, rest, bind, Except.bind] using failed
          | ok ys => simp [here, rest, bind, Except.bind, pure, Except.pure] at failed
        obtain ⟨before, z, after, rfl, passed, first⟩ := ih.mp later
        exact ⟨x :: before, z, after, rfl, List.forall_mem_cons.mpr ⟨⟨y, here⟩, passed⟩, first⟩
    · rintro ⟨before, z, after, same, passed, first⟩
      cases before with
      | nil =>
        obtain ⟨rfl, rfl⟩ := List.cons.inj same
        rw [first]
        rfl
      | cons b before =>
        obtain ⟨rfl, rfl⟩ := List.cons.inj same
        obtain ⟨⟨y, here⟩, passed⟩ := List.forall_mem_cons.mp passed
        have later := ih.mpr ⟨before, z, after, rfl, passed, first⟩
        rw [here, later]
        rfl

theorem mapM_bind (g : α → Option β) (h : β → Option γ) (xs : List α) :
    xs.mapM (fun x => (g x).bind h) = (xs.mapM g).bind fun ys => ys.mapM h := by
  induction xs with
  | nil => rfl
  | cons x xs ih =>
    rw [List.mapM_cons, List.mapM_cons, ih]
    cases g x with
    | none => rfl
    | some y =>
      cases xs.mapM g with
      | none => cases found : h y <;> simp [found]
      | some ys => simp [List.mapM_cons]

theorem mapM_toOption (f : α → Except ε β) (xs : List α) :
    (xs.mapM f).toOption = xs.mapM fun x => (f x).toOption := by
  induction xs with
  | nil => rfl
  | cons x xs ih =>
    rw [List.mapM_cons, List.mapM_cons, ← ih]
    cases f x with
    | error e => rfl
    | ok y => cases xs.mapM f <;> rfl

theorem mapM_eq_some {g : α → Option β} {xs : List α} {ys : List β} :
    xs.mapM g = some ys ↔ List.Forall₂ (fun x y => g x = some y) xs ys := by
  induction xs generalizing ys with
  | nil => cases ys <;> simp
  | cons x xs ih =>
    simp only [List.mapM_cons, Option.bind_eq_bind, Option.bind_eq_some_iff, ih, Option.pure_def,
      Option.some.injEq]
    constructor
    · rintro ⟨y, here, rest, later, rfl⟩
      exact .cons here later
    · rintro (_ | ⟨here, later⟩)
      exact ⟨_, here, _, later, rfl⟩

theorem mapM_some_mem {g : α → Option β} {ys : List β} (read : xs.mapM g = some ys) {x : α}
    (member : x ∈ xs) : ∃ y ∈ ys, g x = some y :=
  paired_of_mem (mapM_eq_some.mp read).flip member

end ExtensionAdmin.Fallible
