import ExtensionAdmin.Proofs.Fallible
import ExtensionAdmin.Proofs.Json.Canonical
import ExtensionAdmin.Proofs.Json.NumberText
import ExtensionAdmin.Proofs.Json.StringText

/-! Reading the text of a value again. All of a value comes back from its text but for its numbers,
which come back as what their own texts are read as, and for what nests too deep, which is not read
at all. A value is legible when it comes back as it was. -/

namespace ExtensionAdmin.Json

def Number.reread (n : Number) : Option Number := (number? n.render).map (·.1)

theorem number?_render_append (n : Number) {rest : List Char} (ends : Ends rest) :
    number? (n.render ++ rest) = n.reread.map fun m => (m, rest) := by
  obtain ⟨r, read⟩ := render_steady n
  have alone := read [] (by simp [Ends])
  rw [List.append_nil] at alone
  rw [read rest ends, Number.reread, alone]
  cases r <;> rfl

namespace Value

mutual

/-- What the text of a value is read as, where it may nest in at most `room` sequences and
objects. -/
def reread : Nat → Value → Option Value
  | _, .null => some .null
  | _, .bool b => some (.bool b)
  | _, .number n => n.reread.map .number
  | _, .string s => some (.string s)
  | 0, .array _ => none
  | 0, .object _ => none
  | room + 1, .array items => (rereadItems room items).map .array
  | room + 1, .object members => (rereadMembers room members).map .object

def rereadItems : Nat → List Value → Option (List Value)
  | _, [] => some []
  | room, v :: rest => do return (← reread room v) :: (← rereadItems room rest)

def rereadMembers : Nat → List (String × Value) → Option Members
  | _, [] => some []
  | room, (k, v) :: rest => do return (k, ← reread room v) :: (← rereadMembers room rest)

end

theorem rereadItems_eq_mapM (room : Nat) (items : List Value) :
    rereadItems room items = items.mapM (reread room) := by
  induction items with
  | nil => rfl
  | cons v items ih => rw [rereadItems, ih, List.mapM_cons]

theorem rereadMembers_eq_mapM (room : Nat) (ms : List (String × Value)) :
    rereadMembers room ms = ms.mapM fun m => (reread room m.2).map fun v => (m.1, v) := by
  induction ms with
  | nil => rfl
  | cons m ms ih =>
    rw [rereadMembers, ih, List.mapM_cons]
    cases reread room m.2 <;> rfl

theorem renderItems_eq_intercalate (items : List Value) :
    renderItems items = [','].intercalate (items.map render) := by
  induction items with
  | nil => rfl
  | cons v items ih =>
    cases items with
    | nil => simp [renderItems]
    | cons w items => simp [renderItems, ih]

def renderMember (m : String × Value) : List Char := renderString m.1 ++ ':' :: m.2.render

theorem renderMembers_eq_intercalate (ms : List (String × Value)) :
    renderMembers ms = [','].intercalate (ms.map renderMember) := by
  induction ms with
  | nil => rfl
  | cons m ms ih =>
    cases ms with
    | nil => simp [renderMembers, renderMember]
    | cons n ms => simp [renderMembers, renderMember, ih]

end Value

attribute [local simp] Value.reread Value.rereadMembers

def Opens (text : List Char) : Prop :=
  ∃ c cs, text = c :: cs ∧ isSpace c = false ∧ c ≠ ']' ∧ c ≠ '\x7d'

theorem Opens.skipSpace {text : List Char} (opens : Opens text) (rest : List Char) :
    skipSpace (text ++ rest) = text ++ rest := by
  obtain ⟨c, cs, rfl, solid, -⟩ := opens
  simp [Json.skipSpace, solid]

section Sequence

variable {α β : Type} {item : Item β} {write : α → List Char} {read : α → Option β} {close : Char}

theorem closing (closes : close = ']' ∨ close = '\x7d') (rest : List Char) :
    Ends (close :: rest) ∧ skipSpace (close :: rest) = close :: rest := by
  rcases closes with rfl | rfl
  · exact ⟨by simp [Ends], rfl⟩
  · exact ⟨by simp [Ends], rfl⟩

/-- Items that are each read as something are read as that, one after the other. -/
theorem sequence?_written (closes : close = ']' ∨ close = '\x7d') (x : α) (xs : List α)
    (opens : ∀ y ∈ x :: xs, Opens (write y))
    (each : ∀ y ∈ x :: xs, ∀ rest, Ends rest →
      item (write y ++ rest) = (read y).map fun z => (z, rest))
    {fuel : Nat} (enough : xs.length < fuel) (rest : List Char) :
    sequence? item close fuel ([','].intercalate ((x :: xs).map write) ++ close :: rest) =
      ((x :: xs).mapM read).map fun zs => (zs, rest) := by
  -- Each item takes one step of the fuel, and there is enough for all of them.
  induction xs generalizing x fuel with
  | nil =>
    obtain ⟨fuel, rfl⟩ := Nat.exists_eq_add_one.mpr enough
    obtain ⟨ends, closed⟩ := closing closes rest
    rw [List.map_singleton, List.intercalate_singleton, sequence?,
      (opens x List.mem_cons_self).skipSpace, each x List.mem_cons_self _ ends, List.mapM_cons]
    cases read x with
    | none => rfl
    | some z => simp [closed]
  | cons y xs ih =>
    obtain ⟨fuel, rfl⟩ := Nat.exists_eq_add_one.mpr (Nat.zero_lt_of_lt enough)
    obtain ⟨here, others⟩ := List.forall_mem_cons.mp opens
    obtain ⟨readHere, readOthers⟩ := List.forall_mem_cons.mp each
    have further := ih y others readOthers (Nat.lt_of_succ_lt_succ enough)
    -- An item is read alike in front of a comma and of the closing mark: both end a number.
    have comma : ∀ left, Ends (',' :: left) ∧ skipSpace (',' :: left) = ',' :: left :=
      fun left => ⟨by simp [Ends], rfl⟩
    have different : ',' ≠ close := by rcases closes with rfl | rfl <;> decide
    rw [List.map_cons, List.map_cons, List.intercalate_cons_cons, List.append_assoc,
      List.append_assoc, sequence?, here.skipSpace, List.singleton_append,
      readHere _ (comma _).1, ← List.map_cons, List.mapM_cons (a := x)]
    cases read x with
    | none => rfl
    | some z =>
      simp only [Option.map_some, (comma _).2, if_neg different, if_true, further]
      cases (y :: xs).mapM read <;> rfl

theorem Opens.intercalate {t : List Char} (opens : Opens t) (texts : List (List Char)) :
    Opens ([','].intercalate (t :: texts)) := by
  cases texts with
  | nil => rwa [List.intercalate_singleton]
  | cons u texts =>
    obtain ⟨c, cs, rfl, solid⟩ := opens
    rw [List.intercalate_cons_cons]
    exact ⟨c, _, rfl, solid⟩

-- Each item takes at least the place of the comma before it.
theorem length_le_intercalate (texts : List (List Char)) :
    texts.length ≤ ([','].intercalate texts).length + 1 := by
  induction texts with
  | nil => simp
  | cons t texts ih =>
    cases texts with
    | nil => simp
    | cons u texts =>
      rw [List.intercalate_cons_cons]
      simp only [List.length_cons, List.length_append] at ih ⊢
      omega

theorem enclosed?_of_opens (closes : close = ']' ∨ close = '\x7d') {text : List Char}
    (opens : Opens text) (rest : List Char) :
    enclosed? item close (text ++ rest) =
      sequence? item close (text ++ rest).length (text ++ rest) := by
  have kept := opens.skipSpace rest
  obtain ⟨c, cs, rfl, solid, bracket, brace⟩ := opens
  have other : c ≠ close := by rcases closes with rfl | rfl <;> assumption
  rw [enclosed?, kept, List.cons_append]
  simp only [if_neg other]

/-- What stands between two marks is read as its items are. -/
theorem enclosed?_written (closes : close = ']' ∨ close = '\x7d') (xs : List α)
    (opens : ∀ y ∈ xs, Opens (write y))
    (each : ∀ y ∈ xs, ∀ rest, Ends rest →
      item (write y ++ rest) = (read y).map fun z => (z, rest)) (rest : List Char) :
    enclosed? item close ([','].intercalate (xs.map write) ++ close :: rest) =
      (xs.mapM read).map fun zs => (zs, rest) := by
  cases xs with
  | nil =>
    obtain ⟨-, closed⟩ := closing closes rest
    simp [enclosed?, closed]
  | cons x xs =>
    have long := length_le_intercalate ((x :: xs).map write)
    have begins : Opens ([','].intercalate ((x :: xs).map write)) :=
      (opens x List.mem_cons_self).intercalate _
    rw [enclosed?_of_opens closes begins]
    apply sequence?_written closes x xs opens each
    simp only [List.length_map, List.length_cons, List.length_append] at long ⊢
    omega

end Sequence

theorem renderString_append (s : String) (rest : List Char) :
    renderString s ++ rest = '"' :: (s.toList.flatMap escapeChar ++ '"' :: rest) := by
  simp [renderString]

theorem member?_written {item : Item Value} {m : String × Value} {r : Option Value}
    {rest : List Char} (opens : Opens m.2.render)
    (value : item (m.2.render ++ rest) = r.map fun v => (v, rest)) :
    member? item (Value.renderMember m ++ rest) = r.map fun v => ((m.1, v), rest) := by
  rw [Value.renderMember, List.append_assoc, renderString_append, member?, stringBody_written]
  have colon : skipSpace (':' :: (m.2.render ++ rest)) = ':' :: (m.2.render ++ rest) := rfl
  simp only [List.cons_append, colon, opens.skipSpace, value, String.ofList_toList]
  cases r <;> rfl

theorem render_opens (v : Value) : Opens v.render := by
  cases v with
  | null => exact ⟨'n', _, rfl, by decide⟩
  | bool b => cases b <;> exact ⟨_, _, rfl, by decide⟩
  | number n =>
    obtain ⟨c, cs, spelled, begins⟩ := render_begins n
    have others := begins.unlike
    simp only [List.forall_mem_cons] at others
    exact ⟨c, cs, spelled, by simp [isSpace, others]⟩
  | string s => exact ⟨'"', _, rfl, by decide⟩
  | array items => exact ⟨'[', _, rfl, by decide⟩
  | object ms => exact ⟨'\x7b', _, rfl, by decide⟩

theorem renderMember_opens (m : String × Value) : Opens (Value.renderMember m) :=
  ⟨'"', _, rfl, by decide⟩

theorem scalar_render {v : Value} (scalar : v.isScalar = true) (room : Nat) {rest : List Char}
    (ends : Ends rest) :
    value? room (v.render ++ rest) = (v.reread room).map fun w => (w, rest) := by
  cases v with
  | null => simp [Value.render, value?, scalar?, word?]
  | bool b => cases b <;> simp [Value.render, value?, scalar?, word?]
  | number n =>
    obtain ⟨c, cs, spelled, begins⟩ := render_begins n
    have read := number?_render_append n ends
    rw [spelled, List.cons_append] at read
    rw [Value.render, spelled, List.cons_append, value?_eq_number? room _ begins, read,
      Value.reread]
    cases n.reread <;> rfl
  | string s =>
    rw [Value.render, renderString_append]
    simp [value?, scalar?, stringBody_written]
  | array items => cases scalar
  | object ms => cases scalar

/-- The text of a value is read as what the value comes to, wherever it stands. -/
theorem value?_render (v : Value) (room : Nat) (rest : List Char) (ends : Ends rest) :
    value? room (v.render ++ rest) = (v.reread room).map fun w => (w, rest) := by
  induction v using Value.parts generalizing room rest with
  | scalar v scalar => exact scalar_render scalar room ends
  | array items each =>
    cases room with
    | zero => simp [Value.render, value?]
    | succ room =>
      have inside : enclosed? (value? room) ']' (Value.renderItems items ++ ']' :: rest) =
          (items.mapM (Value.reread room)).map fun vs => (vs, rest) := by
        rw [Value.renderItems_eq_intercalate]
        exact enclosed?_written (.inl rfl) items (fun v _ => render_opens v)
          (fun v member left ends => each v member room left ends) rest
      rw [Value.reread, Value.rereadItems_eq_mapM, Value.render, List.append_assoc]
      simp only [List.cons_append, List.nil_append, value?, inside]
      cases items.mapM (Value.reread room) <;> rfl
  | object ms each =>
    cases room with
    | zero => simp [Value.render, value?]
    | succ room =>
      have inside : enclosed? (member? (value? room)) '\x7d'
          (Value.renderMembers ms ++ '\x7d' :: rest) =
          (Value.rereadMembers room ms).map fun ns => (ns, rest) := by
        rw [Value.renderMembers_eq_intercalate, Value.rereadMembers_eq_mapM]
        refine enclosed?_written (.inr rfl) ms (fun m _ => renderMember_opens m)
          (fun m member left ends => ?_) rest
        rw [member?_written (render_opens m.2) (each m member room left ends)]
        cases m.2.reread room <;> rfl
      rw [Value.reread, Value.render, List.append_assoc]
      simp only [List.cons_append, List.nil_append, value?, inside]
      cases Value.rereadMembers room ms <;> rfl

/-- The text of a value, alone, is read as what the value comes to. -/
theorem readWithin?_render (v : Value) (room : Nat) :
    readWithin? room v.render = v.reread room := by
  have alone := value?_render v room [] (by simp [Ends])
  have kept := (render_opens v).skipSpace []
  rw [List.append_nil] at alone kept
  rw [readWithin?, kept, alone]
  cases v.reread room <;> rfl

theorem readVerbatim?_render (v : Value) : readVerbatim? v.render = v.reread maxDepth :=
  readWithin?_render v maxDepth

namespace Value

variable {room : Nat}

theorem rereadItems_eq_some {items others : List Value} :
    rereadItems room items = some others ↔
      List.Forall₂ (fun v w => v.reread room = some w) items others := by
  rw [rereadItems_eq_mapM, Fallible.mapM_eq_some]

theorem rereadMembers_eq_some {ms ns : Members} :
    rereadMembers room ms = some ns ↔
      List.Forall₂ (fun m n => n.1 = m.1 ∧ m.2.reread room = some n.2) ms ns := by
  have each : ∀ m n : String × Value, ((reread room m.2).map fun v => (m.1, v)) = some n ↔
      n.1 = m.1 ∧ m.2.reread room = some n.2 := by
    rintro ⟨k, v⟩ ⟨l, w⟩
    cases v.reread room <;> simp [eq_comm, and_comm]
  rw [rereadMembers_eq_mapM, Fallible.mapM_eq_some]
  simp only [each]

theorem rereadMembers_append (ms ns : List (String × Value)) :
    rereadMembers room (ms ++ ns) = (rereadMembers room ms).bind fun left =>
      (rereadMembers room ns).map fun right => left ++ right := by
  induction ms with
  | nil => simp
  | cons m ms ih =>
    simp only [List.cons_append, rereadMembers, ih]
    cases reread room m.2 with
    | none => rfl
    | some v => cases rereadMembers room ms <;> cases rereadMembers room ns <;> rfl

theorem rereadMembers_names {ms ns : Members} (read : rereadMembers room ms = some ns) :
    ns.names = ms.names := by
  have each := rereadMembers_eq_some.mp read
  have names : List.Forall₂ Eq (ns.map (·.1)) (ms.map (·.1)) :=
    List.forall₂_map_left_iff.mpr (List.forall₂_map_right_iff.mpr
      (each.flip.imp fun _ _ same => same.1))
  exact List.forall₂_eq_eq_eq ▸ names

def Legible (room : Nat) (v : Value) : Prop := v.reread room = some v

theorem legible_number_iff (n : Number) : Legible room (.number n) ↔ n.reread = some n := by
  simp [Legible]

theorem rereadMembers_eq_self_iff (ms : Members) :
    rereadMembers room ms = some ms ↔ ∀ m ∈ ms, Legible room m.2 := by
  rw [rereadMembers_eq_some, List.forall₂_same]
  simp [Legible]

theorem legible_array_iff (items : List Value) :
    Legible (room + 1) (.array items) ↔ ∀ v ∈ items, Legible room v := by
  simp [Legible, rereadItems_eq_some, List.forall₂_same]

theorem legible_object_iff (ms : Members) :
    Legible (room + 1) (.object ms) ↔ ∀ m ∈ ms, Legible room m.2 := by
  rw [← rereadMembers_eq_self_iff]
  simp [Legible]

/-- A canonical value comes back with the names of its objects still in order. -/
theorem Canonical.reread {v w : Value} (canonical : v.Canonical) (read : v.reread room = some w) :
    w.Canonical := by
  induction v using parts generalizing room w with
  -- Of the scalars only a number can come to another one, and that is a number again.
  | scalar v scalar =>
    have plain : w.isScalar = true := by
      cases v with
      | number n =>
        obtain ⟨m, -, rfl⟩ := Option.map_eq_some_iff.mp (by simpa only [Value.reread] using read)
        rfl
      | array items => cases scalar
      | object ms => cases scalar
      | null | bool b | string s => simp_all [isScalar, eq_comm]
    exact canonical_scalar plain
  | array items each =>
    cases room with
    | zero => cases read
    | succ room =>
      obtain ⟨others, inside, rfl⟩ := Option.map_eq_some_iff.mp read
      rw [canonical_array_iff] at canonical ⊢
      intro w member
      obtain ⟨v, among, same⟩ := Fallible.paired_of_mem (rereadItems_eq_some.mp inside) member
      exact each v among (canonical v among) same
  | object ms each =>
    cases room with
    | zero => cases read
    | succ room =>
      obtain ⟨others, inside, rfl⟩ := Option.map_eq_some_iff.mp read
      rw [canonical_object_iff] at canonical ⊢
      constructor
      · rw [Members.ascending_iff_names, rereadMembers_names inside,
          ← Members.ascending_iff_names]
        exact canonical.1
      · intro n member
        obtain ⟨m, among, -, same⟩ :=
          Fallible.paired_of_mem (rereadMembers_eq_some.mp inside) member
        exact each m among (canonical.2 m among) same

/-- Whole numbers of 64 bits come back as they were. -/
theorem legible_int {i : Int} (exact : Exact i) : Legible room (.number (.int i)) := by
  rw [legible_number_iff, Number.reread, number?_render exact]
  rfl

end Value

end ExtensionAdmin.Json
