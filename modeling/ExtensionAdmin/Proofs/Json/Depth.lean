import ExtensionAdmin.Proofs.Json.Reread

/-! How deep a value nests, and what the limit on nesting decides. The limit changes nothing of how
a text is read. A text that has a value under some limit has the same value under every limit that
the value keeps to, and none under any other. -/

namespace ExtensionAdmin.Json

namespace Value

mutual

def depth : Value → Nat
  | .array items => depthItems items + 1
  | .object members => depthMembers members + 1
  | _ => 0

def depthItems : List Value → Nat
  | [] => 0
  | v :: rest => max (depth v) (depthItems rest)

def depthMembers : List (String × Value) → Nat
  | [] => 0
  | (_, v) :: rest => max (depth v) (depthMembers rest)

end

theorem depth_scalar {v : Value} (scalar : v.isScalar = true) : v.depth = 0 := by
  cases v <;> simp_all [depth, isScalar]

theorem depth_array_le_iff (items : List Value) (room : Nat) :
    (Value.array items).depth ≤ room + 1 ↔ ∀ v ∈ items, v.depth ≤ room := by
  rw [depth, Nat.add_le_add_iff_right]
  induction items with
  | nil => simp [depthItems]
  | cons v items ih => rw [depthItems, Nat.max_le, ih, List.forall_mem_cons]

theorem depth_object_le_iff (ms : Members) (room : Nat) :
    (Value.object ms).depth ≤ room + 1 ↔ ∀ m ∈ ms, m.2.depth ≤ room := by
  rw [depth, Nat.add_le_add_iff_right]
  induction ms with
  | nil => simp [depthMembers]
  | cons m ms ih => rw [depthMembers, Nat.max_le, ih, List.forall_mem_cons]

end Value

/-- Items are read up to one that the closing mark stands behind, with a comma behind each other. -/
theorem sequence?_eq_some {α : Type} {item : Item α} {close : Char} {fuel : Nat}
    {cs left : List Char} {xs : List α} :
    sequence? item close (fuel + 1) cs = some (xs, left) ↔
      ∃ x after c later, item (skipSpace cs) = some (x, after) ∧ skipSpace after = c :: later ∧
        (c = close ∧ [x] = xs ∧ later = left ∨ c ≠ close ∧ c = ',' ∧
          ∃ ys, sequence? item close fuel later = some (ys, left) ∧ x :: ys = xs) := by
  constructor
  · intro read
    rw [sequence?] at read
    cases first : item (skipSpace cs) with
    | none => simp [first] at read
    | some found =>
      obtain ⟨x, after⟩ := found
      rw [first] at read
      cases next : skipSpace after with
      | nil => simp [next] at read
      | cons c later =>
        simp only [next] at read
        refine ⟨x, after, c, later, rfl, next, ?_⟩
        -- Behind an item stands the closing mark, a comma, or a fault.
        by_cases closed : c = close
        · exact .inl ⟨closed, by simpa [closed] using read⟩
        · by_cases comma : c = ','
          · simp only [if_neg closed, if_pos comma] at read
            cases others : sequence? item close fuel later with
            | none => simp [others] at read
            | some found =>
              obtain ⟨ys, tail⟩ := found
              obtain ⟨whole, rfl⟩ : x :: ys = xs ∧ tail = left := by simpa [others] using read
              exact .inr ⟨closed, comma, ys, rfl, whole⟩
          · simp [closed, comma] at read
  · rintro ⟨x, after, c, later, first, next, ⟨rfl, rfl, rfl⟩ | ⟨closed, rfl, ys, others, rfl⟩⟩
    · simp [sequence?, first, next]
    · simp [sequence?, first, next, closed, others]

theorem enclosed?_eq_some {α : Type} {item : Item α} {close : Char} {cs left : List Char}
    {xs : List α} :
    enclosed? item close cs = some (xs, left) ↔ ∃ c later, skipSpace cs = c :: later ∧
      (c = close ∧ [] = xs ∧ later = left ∨ c ≠ close ∧
        sequence? item close (c :: later).length (c :: later) = some (xs, left)) := by
  rw [enclosed?]
  cases next : skipSpace cs with
  | nil => simp
  | cons c later => by_cases closed : c = close <;> simp [closed]

/-- A name, a colon and a value are read one after the other. -/
theorem member?_eq_some {item : Item Value} {cs left : List Char} {m : String × Value} :
    member? item cs = some (m, left) ↔ ∃ body k after later, cs = '"' :: body ∧
      stringBody body = some (k, after) ∧ skipSpace after = ':' :: later ∧
      item (skipSpace later) = some (m.2, left) ∧ m.1 = String.ofList k := by
  constructor
  · intro read
    unfold member? at read
    split at read
    case h_2 => cases read
    case h_1 body =>
      cases name : stringBody body with
      | none => simp [name] at read
      | some found =>
        obtain ⟨k, after⟩ := found
        simp only [name] at read
        split at read
        case h_2 => cases read
        case h_1 later colon =>
          cases value : item (skipSpace later) with
          | none => simp [value] at read
          | some found =>
            obtain ⟨v, tail⟩ := found
            obtain ⟨rfl, rfl⟩ : (String.ofList k, v) = m ∧ tail = left := by
              simpa [value] using read
            exact ⟨body, k, after, later, rfl, name, colon, value, rfl⟩
  · rintro ⟨body, k, after, later, rfl, name, colon, value, named⟩
    simp [member?, name, colon, value, ← named]

theorem readWithin?_eq_some {room : Nat} {cs : List Char} {v : Value} :
    readWithin? room cs = some v ↔
      ∃ left, value? room (skipSpace cs) = some (v, left) ∧ skipSpace left = [] := by
  rw [readWithin?]
  cases value : value? room (skipSpace cs) with
  | none => simp
  | some found =>
    obtain ⟨w, left⟩ := found
    by_cases ended : skipSpace left = []
    · simp [ended]
    · simp [ended]

section Limited

variable {α : Type} {item other : Item α} {fits : α → Prop} [DecidablePred fits] {close : Char}
  {cs rest : List Char} {xs : List α}

/-- What one way of reading items reads another reads too if it fits, and refuses if it does not. -/
def Limits (item other : Item α) (fits : α → Prop) [DecidablePred fits] : Prop :=
  ∀ cs x rest, item cs = some (x, rest) → other cs = if fits x then some (x, rest) else none

theorem Limits.sequence? (limits : Limits item other fits) {fuel : Nat}
    (read : Json.sequence? item close fuel cs = some (xs, rest)) :
    Json.sequence? other close fuel cs = if ∀ x ∈ xs, fits x then some (xs, rest) else none := by
  induction fuel generalizing cs xs with
  | zero => cases read
  | succ fuel ih =>
    obtain ⟨x, after, c, later, first, next, ending⟩ := sequence?_eq_some.mp read
    rw [Json.sequence?, limits _ _ _ first]
    by_cases short : fits x
    · obtain ⟨rfl, rfl, rfl⟩ | ⟨closed, rfl, ys, others, rfl⟩ := ending
      · simp [short, next]
      · simp only [if_pos short, next, if_neg closed, if_true, ih others, List.forall_mem_cons]
        by_cases shorts : ∀ y ∈ ys, fits y
        · rw [if_pos shorts, if_pos ⟨short, shorts⟩]
        · rw [if_neg shorts, if_neg fun all => shorts all.2]
    · obtain ⟨-, rfl, -⟩ | ⟨-, -, ys, -, rfl⟩ := ending <;> simp [short]

theorem Limits.enclosed? (limits : Limits item other fits)
    (read : Json.enclosed? item close cs = some (xs, rest)) :
    Json.enclosed? other close cs = if ∀ x ∈ xs, fits x then some (xs, rest) else none := by
  obtain ⟨c, later, next, ⟨rfl, rfl, rfl⟩ | ⟨closed, inside⟩⟩ := enclosed?_eq_some.mp read
  · simp [Json.enclosed?, next]
  · rw [Json.enclosed?, next]
    simp only [if_neg closed]
    exact limits.sequence? inside

end Limited

theorem Limits.member? {item other : Item Value} {room : Nat}
    (limits : Limits item other fun v => v.depth ≤ room) :
    Limits (Json.member? item) (Json.member? other) fun m => m.2.depth ≤ room := by
  intro cs m rest read
  obtain ⟨body, k, after, later, rfl, name, colon, value, named⟩ := member?_eq_some.mp read
  simp only [Json.member?, name, colon, limits _ _ _ value]
  by_cases short : m.2.depth ≤ room <;> simp [short, ← named]

theorem scalar?_isScalar {cs rest : List Char} {v : Value} (read : scalar? cs = some (v, rest)) :
    v.isScalar = true := by
  cases cs with
  | nil => cases read
  | cons c cs =>
    simp only [scalar?] at read
    split_ifs at read
    all_goals
      obtain ⟨x, -, same⟩ := Option.map_eq_some_iff.mp read
      cases same
      rfl

/-- What begins with no bracket is read alike under all limits. -/
theorem value?_eq_scalar? {cs : List Char} (bracket : ∀ later, cs ≠ '[' :: later)
    (brace : ∀ later, cs ≠ '\x7b' :: later) (room : Nat) : value? room cs = scalar? cs := by
  unfold value?
  split <;> simp_all

theorem value?_scalar_limits {wide room : Nat} {cs rest : List Char} {v : Value}
    (bracket : ∀ later, cs ≠ '[' :: later) (brace : ∀ later, cs ≠ '\x7b' :: later)
    (read : value? wide cs = some (v, rest)) :
    value? room cs = if v.depth ≤ room then some (v, rest) else none := by
  rw [value?_eq_scalar? bracket brace] at read ⊢
  rw [read, Value.depth_scalar (scalar?_isScalar read), if_pos (Nat.zero_le room)]

theorem value?_array_limits {wide : Nat}
    (limits : ∀ room, Limits (value? wide) (value? room) fun v => v.depth ≤ room)
    {cs rest : List Char} {v : Value} (read : value? (wide + 1) ('[' :: cs) = some (v, rest))
    (room : Nat) :
    value? room ('[' :: cs) = if v.depth ≤ room then some (v, rest) else none := by
  obtain ⟨⟨items, left⟩, inside, same⟩ := Option.map_eq_some_iff.mp read
  cases same
  cases room with
  | zero => simp [value?, Value.depth]
  | succ room =>
    rw [value?, (limits room).enclosed? inside]
    simp only [Value.depth_array_le_iff]
    split <;> rfl

theorem value?_object_limits {wide : Nat}
    (limits : ∀ room, Limits (value? wide) (value? room) fun v => v.depth ≤ room)
    {cs rest : List Char} {v : Value} (read : value? (wide + 1) ('\x7b' :: cs) = some (v, rest))
    (room : Nat) :
    value? room ('\x7b' :: cs) = if v.depth ≤ room then some (v, rest) else none := by
  obtain ⟨⟨ms, left⟩, inside, same⟩ := Option.map_eq_some_iff.mp read
  cases same
  cases room with
  | zero => simp [value?, Value.depth]
  | succ room =>
    rw [value?, (limits room).member?.enclosed? inside]
    simp only [Value.depth_object_le_iff]
    split <;> rfl

/-- A value that is read under one limit is read under another exactly if it keeps to that. -/
theorem value?_limits (wide room : Nat) :
    Limits (value? wide) (value? room) fun v => v.depth ≤ room := by
  -- On the first limit alone: inside of brackets both are lower by one.
  induction wide generalizing room with
  | zero =>
    intro cs v rest read
    refine value?_scalar_limits ?_ ?_ read
    · rintro later rfl
      cases read
    · rintro later rfl
      cases read
  | succ wide ih =>
    intro cs v rest read
    by_cases bracket : ∃ later, cs = '[' :: later
    · obtain ⟨later, rfl⟩ := bracket
      exact value?_array_limits ih read room
    · by_cases brace : ∃ later, cs = '\x7b' :: later
      · obtain ⟨later, rfl⟩ := brace
        exact value?_object_limits ih read room
      · exact value?_scalar_limits (not_exists.mp bracket) (not_exists.mp brace) read

/-- A text that has a value under some limit has it under every limit that the value keeps to, and
none under any other. -/
theorem readWithin?_limits {wide : Nat} {cs : List Char} {v : Value}
    (read : readWithin? wide cs = some v) (room : Nat) :
    readWithin? room cs = if v.depth ≤ room then some v else none := by
  obtain ⟨rest, value, ended⟩ := readWithin?_eq_some.mp read
  rw [readWithin?, value?_limits wide room _ _ _ value]
  by_cases short : v.depth ≤ room <;> simp [short, ended]

/-- What would be read under a wider limit is not read if it nests too deep. -/
theorem read?_deep {wide : Nat} {cs : List Char} {v : Value} (read : readWithin? wide cs = some v)
    (deep : maxDepth < v.depth) : read? cs = none := by
  rw [read?, readVerbatim?, readWithin?_limits read, if_neg (Nat.not_le.mpr deep)]
  rfl

namespace Value

inductive Whole : Value → Prop
  | null : Whole .null
  | bool (b : Bool) : Whole (.bool b)
  | int {i : Int} (exact : Exact i) : Whole (.number (.int i))
  | string (s : String) : Whole (.string s)
  | array {items : List Value} (each : ∀ v ∈ items, Whole v) : Whole (.array items)
  | object {ms : Members} (each : ∀ m ∈ ms, Whole m.2) : Whole (.object ms)

/-- Such a value comes back from its text as long as that is not refused for its depth. -/
theorem Whole.legible {v : Value} (whole : v.Whole) {room : Nat} (short : v.depth ≤ room) :
    Legible room v := by
  induction whole generalizing room with
  | null => rfl
  | bool b => rfl
  | int exact => exact legible_int exact
  | string s => rfl
  | array each ih =>
    cases room with
    | zero => simp [depth] at short
    | succ room =>
      rw [depth_array_le_iff] at short
      exact (legible_array_iff _).mpr fun v member => ih v member (short v member)
  | object each ih =>
    cases room with
    | zero => simp [depth] at short
    | succ room =>
      rw [depth_object_le_iff] at short
      exact (legible_object_iff _).mpr fun m member => ih m member (short m member)

theorem Whole.readWithin?_render {v : Value} (whole : v.Whole) (room : Nat) :
    readWithin? room v.render = if v.depth ≤ room then some v else none := by
  apply readWithin?_limits
  rw [Json.readWithin?_render]
  exact whole.legible (Nat.le_refl v.depth)

end Value

/-- The text of a canonical value is read as that value, or refused if it nests too deep. -/
theorem read?_render_whole {v : Value} (canonical : v.Canonical) (whole : v.Whole) :
    read? v.render = if v.depth ≤ maxDepth then some v else none := by
  have same : v.canonical = v := canonical
  rw [read?, readVerbatim?, whole.readWithin?_render]
  by_cases short : v.depth ≤ maxDepth <;> simp [short, same]

end ExtensionAdmin.Json
