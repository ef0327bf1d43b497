import Mathlib.Data.List.DropRight
import ExtensionAdmin.Proofs.Json.Depth
import ExtensionAdmin.Proofs.Json.StringText

/-! An object is read member by member. What is read of a text does not depend on what stands behind
it, unless a number could go on there. So texts that are read alone as a name and as a value are
read as a member when a colon stands between them, and members between braces, with commas between
them, are read as an object that has them in their order. -/

namespace ExtensionAdmin.Json

def Indifferent {α : Type} (item : Item α) : Prop :=
  ∀ cs x left, item cs = some (x, left) → ∀ rest, Ends rest →
    item (cs ++ rest) = some (x, left ++ rest)

theorem push_append {c : Char} {r r' : Option (List Char × List Char)} {s left rest : List Char}
    (pushed : push c r = some (s, left))
    (further : ∀ {tail}, r = some (tail, left) → r' = some (tail, left ++ rest)) :
    push c r' = some (s, left ++ rest) := by
  rcases r with _ | ⟨tail, after⟩
  · cases pushed
  · cases pushed
    rw [further rfl]
    rfl

theorem stringBody_append {cs s left : List Char} (read : stringBody cs = some (s, left))
    (rest : List Char) : stringBody (cs ++ rest) = some (s, left ++ rest) := by
  fun_induction stringBody cs generalizing s
  case case2 =>
    cases read
    simp [stringBody.eq_def]
  case case7 leading _ trailing _ ih | case10 leading _ ih =>
    rw [List.cons_append, stringBody.eq_def]
    simp_all only [List.cons_append, if_true, if_false]
    exact push_append read ih
  case case12 stands _ ih =>
    rw [List.cons_append, List.cons_append, stringBody_escape _ stands]
    exact push_append read ih
  case case15 quote slash printed ih =>
    rw [List.cons_append, stringBody_plain _ quote slash printed]
    exact push_append read ih
  all_goals cases read

theorem takeDigits_continued (cs : List Char) {rest : List Char}
    (stop : ∀ c ∈ rest.head?, c.isDigit = false) :
    takeDigits (cs ++ rest) = ((takeDigits cs).1, (takeDigits cs).2 ++ rest) := by
  induction cs with
  | nil =>
    cases rest with
    | nil => rfl
    | cons c rest => simp [takeDigits, stop c rfl]
  | cons c cs ih =>
    by_cases digit : c.isDigit = true
    · simp [takeDigits, digit, ih]
    · simp [takeDigits, digit]

theorem exponentDigits?_indifferent : Indifferent exponentDigits? := by
  intro cs n left read rest ends
  have taken := takeDigits_continued cs fun c first => (ends c first).1
  unfold exponentDigits? at read ⊢
  rw [taken]
  rcases digits : takeDigits cs with ⟨_ | ⟨d, ds⟩, after⟩ <;> simp_all

theorem Indifferent.map {α β : Type} {item : Item α} (same : Indifferent item) (f : α → β)
    {cs left : List Char} {y : β} (read : (item cs).map (fun r => (f r.1, r.2)) = some (y, left))
    {rest : List Char} (ends : Ends rest) :
    (item (cs ++ rest)).map (fun r => (f r.1, r.2)) = some (y, left ++ rest) := by
  obtain ⟨⟨x, after⟩, found, made⟩ := Option.map_eq_some_iff.mp read
  cases made
  simp only [same _ _ _ found rest ends, Option.map_some]

theorem fraction?_indifferent : Indifferent fraction? := by
  intro cs f left read rest ends
  rcases cs with _ | ⟨c, cs⟩
  · obtain ⟨rfl, rfl⟩ : none = f ∧ [] = left := by simpa [fraction?] using read
    cases rest with
    | nil => rfl
    | cons c rest => simp [fraction?, ends c rfl]
  · by_cases point : c = '.'
    · subst point
      have taken := takeDigits_continued cs fun c first => (ends c first).1
      simp only [List.cons_append, fraction?, taken] at read ⊢
      rcases digits : takeDigits cs with ⟨_ | ⟨d, ds⟩, after⟩ <;> simp_all
    · obtain ⟨rfl, rfl⟩ : none = f ∧ c :: cs = left := by simpa [fraction?, point] using read
      simp [fraction?, point]

/-- An exponent after its mark: digits, with a sign before them or not. -/
theorem exponent?_marked {c : Char} (mark : c = 'e' ∨ c = 'E') :
    (∀ cs, exponent? (c :: '-' :: cs) =
      (exponentDigits? cs).map fun r => (some (-(r.1 : Int)), r.2)) ∧
    (∀ cs, exponent? (c :: '+' :: cs) =
      (exponentDigits? cs).map fun r => (some (r.1 : Int), r.2)) ∧
    ∀ d cs, d ≠ '-' → d ≠ '+' → exponent? (c :: d :: cs) =
      (exponentDigits? (d :: cs)).map fun r => (some (r.1 : Int), r.2) := by
  refine ⟨fun cs => by simp [exponent?, mark], fun cs => by simp [exponent?, mark], ?_⟩
  intro d cs minus plus
  simp only [exponent?, Bool.or_eq_true, decide_eq_true_eq, if_pos mark]
  split <;> simp_all

theorem exponent?_indifferent : Indifferent exponent? := by
  intro cs x left read rest ends
  rcases cs with _ | ⟨c, cs⟩
  · obtain ⟨rfl, rfl⟩ : none = x ∧ [] = left := by simpa [exponent?] using read
    cases rest with
    | nil => rfl
    | cons c rest => simp [exponent?, ends c rfl]
  -- What follows can belong to an exponent only behind its mark, and then there are digits already.
  · by_cases mark : c = 'e' ∨ c = 'E'
    · obtain ⟨negated, positive, unsigned⟩ := exponent?_marked mark
      rcases cs with _ | ⟨d, cs⟩
      · simp [exponent?, mark, exponentDigits?, takeDigits] at read
      · by_cases minus : d = '-'
        · subst minus
          rw [negated] at read
          rw [List.cons_append, List.cons_append, negated]
          exact exponentDigits?_indifferent.map (fun n => some (-(n : Int))) read ends
        · by_cases plus : d = '+'
          · subst plus
            rw [positive] at read
            rw [List.cons_append, List.cons_append, positive]
            exact exponentDigits?_indifferent.map (fun n => some (n : Int)) read ends
          · rw [unsigned d cs minus plus] at read
            rw [List.cons_append, List.cons_append, unsigned d _ minus plus]
            exact exponentDigits?_indifferent.map (fun n => some (n : Int)) read ends
    · obtain ⟨rfl, rfl⟩ : none = x ∧ c :: cs = left := by simpa [exponent?, mark] using read
      simp [exponent?, mark]

theorem unsigned?_indifferent (negative : Bool) : Indifferent (unsigned? negative) := by
  intro cs n left read rest ends
  have taken := takeDigits_continued cs fun c first => (ends c first).1
  rcases digits : takeDigits cs with ⟨ds, after⟩
  rw [digits] at taken
  by_cases whole : WholePart ds
  · rw [unsigned?_of_wholePart negative digits whole] at read
    rw [unsigned?_of_wholePart negative taken whole]
    obtain ⟨⟨fraction, middle⟩, first, read⟩ := Option.bind_eq_some_iff.mp read
    obtain ⟨⟨exponent, last⟩, second, read⟩ := Option.bind_eq_some_iff.mp read
    obtain ⟨m, made, same⟩ := Option.map_eq_some_iff.mp read
    cases same
    rw [fraction?_indifferent _ _ _ first rest ends, Option.bind_some,
      exponent?_indifferent _ _ _ second rest ends, Option.bind_some, made, Option.map_some]
  · rw [unsigned?_eq_none negative digits whole] at read
    cases read

theorem number?_indifferent : Indifferent number? := by
  intro cs n left read rest ends
  rcases cs with _ | ⟨c, cs⟩
  · cases read
  · by_cases minus : c = '-'
    · subst minus
      exact unsigned?_indifferent true cs n left read rest ends
    · have positive : ∀ cs, number? (c :: cs) = unsigned? false (c :: cs) := by
        intro cs
        unfold number?
        split <;> simp_all
      rw [positive] at read
      rw [List.cons_append, positive]
      exact unsigned?_indifferent false (c :: cs) n left read rest ends

theorem word?_append {w cs left : List Char} (read : word? w cs = some left) (rest : List Char) :
    word? w (cs ++ rest) = some (left ++ rest) := by
  induction w generalizing cs with
  | nil =>
    cases read
    rfl
  | cons c w ih =>
    cases cs with
    | nil => cases read
    | cons d cs =>
      by_cases same : c = d
      · simp only [word?, if_pos same] at read
        simpa [word?, same] using ih read
      · simp [word?, same] at read

theorem scalar?_indifferent : Indifferent scalar? := by
  intro cs v left read rest ends
  rcases cs with _ | ⟨c, cs⟩
  · cases read
  · have word : ∀ w u, (word? w cs).map (fun r => (u, r)) = some (v, left) →
        (word? w (cs ++ rest)).map (fun r => (u, r)) = some (v, left ++ rest) := by
      intro w u read
      obtain ⟨r, found, same⟩ := Option.map_eq_some_iff.mp read
      cases same
      rw [word?_append found, Option.map_some]
    simp only [scalar?, List.cons_append] at read ⊢
    split_ifs at read ⊢
    · exact word _ _ read
    · exact word _ _ read
    · exact word _ _ read
    · obtain ⟨⟨s, after⟩, found, same⟩ := Option.map_eq_some_iff.mp read
      cases same
      rw [stringBody_append found, Option.map_some]
    · exact number?_indifferent.map Value.number read ends

theorem skipSpace_append {cs later : List Char} {c : Char} (next : skipSpace cs = c :: later)
    (rest : List Char) : skipSpace (cs ++ rest) = c :: (later ++ rest) := by
  rw [skipSpace] at next
  rw [skipSpace, List.dropWhile_append, next]
  rfl

section Between

variable {α : Type} {item : Item α} {close : Char}

theorem Indifferent.skipped (same : Indifferent item) (nothing : item [] = none)
    {cs left : List Char} {x : α} (read : item (skipSpace cs) = some (x, left))
    {rest : List Char} (ends : Ends rest) :
    item (skipSpace (cs ++ rest)) = some (x, left ++ rest) := by
  cases begins : skipSpace cs with
  | nil => simp [begins, nothing] at read
  | cons c text =>
    rw [begins] at read
    rw [skipSpace_append begins]
    exact same _ _ _ read rest ends

/-- More characters allow for more items, and those that are there are read as before. -/
theorem sequence?_append (same : Indifferent item) (nothing : item [] = none) {fuel more : Nat}
    (enough : fuel ≤ more) {cs left rest : List Char} {xs : List α}
    (read : sequence? item close fuel cs = some (xs, left)) (ends : Ends rest) :
    sequence? item close more (cs ++ rest) = some (xs, left ++ rest) := by
  induction fuel generalizing cs xs more with
  | zero => cases read
  | succ fuel ih =>
    obtain ⟨more, rfl⟩ := Nat.exists_eq_add_one.mpr (Nat.zero_lt_of_lt enough)
    obtain ⟨x, after, c, later, first, next, ending⟩ := sequence?_eq_some.mp read
    refine sequence?_eq_some.mpr ⟨x, after ++ rest, c, later ++ rest,
      same.skipped nothing first ends, skipSpace_append next rest, ?_⟩
    obtain ⟨closed, single, rfl⟩ | ⟨unclosed, comma, ys, others, whole⟩ := ending
    · exact .inl ⟨closed, single, rfl⟩
    · exact .inr ⟨unclosed, comma, ys, ih (Nat.le_of_succ_le_succ enough) others, whole⟩

theorem enclosed?_indifferent (same : Indifferent item) (nothing : item [] = none) :
    Indifferent (enclosed? item close) := by
  intro cs xs left read rest ends
  obtain ⟨c, later, next, ⟨closed, none, rfl⟩ | ⟨closed, inside⟩⟩ := enclosed?_eq_some.mp read
  · exact enclosed?_eq_some.mpr ⟨c, _, skipSpace_append next rest, .inl ⟨closed, none, rfl⟩⟩
  · refine enclosed?_eq_some.mpr ⟨c, _, skipSpace_append next rest, .inr ⟨closed, ?_⟩⟩
    exact sequence?_append same nothing (by simp) inside ends

end Between

theorem member?_indifferent {item : Item Value} (same : Indifferent item)
    (nothing : item [] = none) : Indifferent (member? item) := by
  intro cs m left read rest ends
  obtain ⟨body, k, after, later, rfl, name, colon, value, named⟩ := member?_eq_some.mp read
  exact member?_eq_some.mpr ⟨_, k, _, _, rfl, stringBody_append name rest,
    skipSpace_append colon rest, same.skipped nothing value ends, named⟩

theorem value?_nothing (room : Nat) : value? room [] = none := by
  cases room <;> rfl

/-- What begins with no bracket and no brace is a scalar. -/
theorem value?_scalar_append {room : Nat} {c : Char} {cs left rest : List Char} {v : Value}
    (bracket : c ≠ '[') (brace : c ≠ '\x7b') (read : value? room (c :: cs) = some (v, left))
    (ends : Ends rest) : value? room (c :: cs ++ rest) = some (v, left ++ rest) := by
  have scalar : ∀ cs, value? room (c :: cs) = scalar? (c :: cs) := fun cs =>
    value?_eq_scalar? (by simp [bracket]) (by simp [brace]) room
  rw [scalar] at read
  rw [List.cons_append, scalar]
  exact scalar?_indifferent _ _ _ read rest ends

/-- The induction is on the room: inside of brackets and braces there is less by one. -/
theorem value?_indifferent (room : Nat) : Indifferent (value? room) := by
  induction room with
  | zero =>
    intro cs v left read rest ends
    rcases cs with _ | ⟨c, cs⟩
    · cases read
    · have bracket : c ≠ '[' := by
        rintro rfl
        cases read
      have brace : c ≠ '\x7b' := by
        rintro rfl
        cases read
      exact value?_scalar_append bracket brace read ends
  | succ room ih =>
    have members : Indifferent (member? (value? room)) :=
      member?_indifferent ih (value?_nothing room)
    intro cs v left read rest ends
    rcases cs with _ | ⟨c, cs⟩
    · cases read
    -- The first character tells which kind of value it is.
    · by_cases bracket : c = '['
      · subst bracket
        exact (enclosed?_indifferent ih (value?_nothing room)).map Value.array read ends
      · by_cases brace : c = '\x7b'
        · subst brace
          exact (enclosed?_indifferent members rfl).map Value.object read ends
        · exact value?_scalar_append bracket brace read ends

/-- Texts of members with commas between them. Each is a text that is read as a string, a colon, and
a text that is read as a value that nests in at most `room` sequences and objects. -/
inductive MembersText (room : Nat) : Members → List Char → Prop
  | single {k : String} {v : Value} {name value : List Char}
      (named : readWithin? room name = some (.string k)) (read : readWithin? room value = some v) :
      MembersText room [(k, v)] (name ++ ':' :: value)
  | cons {k : String} {v : Value} {name value rest : List Char} {ms : Members}
      (named : readWithin? room name = some (.string k)) (read : readWithin? room value = some v)
      (others : MembersText room ms rest) :
      MembersText room ((k, v) :: ms) (name ++ ':' :: value ++ ',' :: rest)

theorem value?_string {room : Nat} {cs left : List Char} {s : String}
    (read : value? room cs = some (.string s, left)) :
    ∃ body k, cs = '"' :: body ∧ stringBody body = some (k, left) ∧ s = String.ofList k := by
  have scalar : scalar? cs = some (.string s, left) := by
    unfold value? at read
    split at read
    case h_5 => exact read
    all_goals simp at read
  rcases cs with _ | ⟨c, cs⟩
  · cases scalar
  · simp only [scalar?] at scalar
    split_ifs at scalar
    all_goals
      obtain ⟨found, inside, same⟩ := Option.map_eq_some_iff.mp scalar
      cases same
    -- Only what begins with a quote is left.
    subst c
    exact ⟨cs, found.1, rfl, inside, rfl⟩

theorem skipSpace_blank {cs : List Char} (blank : skipSpace cs = []) (rest : List Char) :
    skipSpace (cs ++ rest) = skipSpace rest := by
  rw [skipSpace] at blank
  rw [skipSpace, List.dropWhile_append, blank]
  rfl

/-- Texts that are read as a name and as a value are read as a member, with a colon between them. -/
theorem member?_text {room : Nat} {k : String} {v : Value} {name value : List Char}
    (named : readWithin? room name = some (.string k)) (read : readWithin? room value = some v)
    {rest : List Char} (ends : Ends rest) :
    ∃ left, skipSpace left = [] ∧
      member? (value? room) (skipSpace (name ++ ':' :: value ++ rest)) =
        some ((k, v), left ++ rest) := by
  obtain ⟨after, string, blank⟩ := readWithin?_eq_some.mp named
  obtain ⟨left, item, ended⟩ := readWithin?_eq_some.mp read
  obtain ⟨body, letters, begins, inside, rfl⟩ := value?_string string
  have whole : name ++ ':' :: value ++ rest = name ++ ':' :: (value ++ rest) := by simp
  rw [whole]
  refine ⟨left, ended, member?_eq_some.mpr ⟨_, letters, _, value ++ rest,
    skipSpace_append begins _, stringBody_append inside _, ?_, ?_, rfl⟩⟩
  · rw [skipSpace_blank blank]
    rfl
  · exact (value?_indifferent room).skipped (value?_nothing room) item ends

/-- Members up to the closing brace are read one after the other. -/
theorem MembersText.sequence? {room : Nat} {ms : Members} {cs : List Char}
    (text : MembersText room ms cs) {fuel : Nat} (enough : ms.length ≤ fuel) (rest : List Char) :
    sequence? (member? (value? room)) '\x7d' fuel (cs ++ '\x7d' :: rest) = some (ms, rest) := by
  induction text generalizing fuel with
  | single named read =>
    obtain ⟨fuel, rfl⟩ := Nat.exists_eq_add_one.mpr enough
    obtain ⟨left, blank, member⟩ := member?_text named read
      (show Ends ('\x7d' :: rest) by simp [Ends])
    have closed : skipSpace ('\x7d' :: rest) = '\x7d' :: rest := rfl
    rw [Json.sequence?, member]
    simp [skipSpace_blank blank, closed]
  | @cons k v name value others ms named read more ih =>
    obtain ⟨fuel, rfl⟩ := Nat.exists_eq_add_one.mpr (Nat.zero_lt_of_lt enough)
    obtain ⟨left, blank, member⟩ := member?_text named read
      (show Ends (',' :: (others ++ '\x7d' :: rest)) by simp [Ends])
    have comma : ∀ later, skipSpace (',' :: later) = ',' :: later := fun _ => rfl
    rw [List.append_assoc, List.cons_append, Json.sequence?, member]
    simp [skipSpace_blank blank, comma, ih (Nat.le_of_succ_le_succ enough)]

theorem MembersText.length_le {room : Nat} {ms : Members} {cs : List Char}
    (text : MembersText room ms cs) : ms.length ≤ cs.length := by
  induction text with
  | single named read =>
    simp only [List.length_cons, List.length_append, List.length_nil]
    omega
  | cons named read others ih =>
    simp only [List.length_cons, List.length_append]
    omega

theorem name_opens {room : Nat} {k : String} {name : List Char}
    (named : readWithin? room name = some (.string k)) (rest : List Char) :
    ∃ body, skipSpace (name ++ rest) = '"' :: (body ++ rest) := by
  obtain ⟨after, string, -⟩ := readWithin?_eq_some.mp named
  obtain ⟨body, -, begins, -, -⟩ := value?_string string
  exact ⟨body, skipSpace_append begins rest⟩

/-- Members begin with a quote, once white space is skipped. -/
theorem MembersText.opens {room : Nat} {ms : Members} {cs : List Char}
    (text : MembersText room ms cs) (rest : List Char) :
    ∃ later, skipSpace (cs ++ rest) = '"' :: later ∧ ms.length ≤ later.length := by
  cases text with
  | @single k v name value named read =>
    obtain ⟨body, begins⟩ := name_opens named (':' :: value ++ rest)
    refine ⟨body ++ (':' :: value ++ rest), by simpa using begins, ?_⟩
    simp only [List.length_cons, List.length_append, List.length_nil]
    omega
  | @cons k v name value others ms named read more =>
    obtain ⟨body, begins⟩ := name_opens named (':' :: value ++ ',' :: others ++ rest)
    have short := more.length_le
    refine ⟨body ++ (':' :: value ++ ',' :: others ++ rest), by simpa using begins, ?_⟩
    simp only [List.length_cons, List.length_append]
    omega

theorem sequence?_skipSpace {α : Type} (item : Item α) (close : Char) (fuel : Nat)
    (cs : List Char) :
    sequence? item close fuel (skipSpace cs) = sequence? item close fuel cs := by
  have twice : skipSpace (skipSpace cs) = skipSpace cs := List.dropWhile_idempotent isSpace cs
  cases fuel with
  | zero => rfl
  | succ fuel => rw [sequence?, sequence?, twice]

/-- Members between braces are read as an object that has them in their order. -/
theorem MembersText.object {room : Nat} {ms : Members} {cs : List Char}
    (text : MembersText room ms cs) :
    readWithin? (room + 1) ('\x7b' :: cs ++ ['\x7d']) = some (.object ms) := by
  obtain ⟨later, opened, short⟩ := text.opens ['\x7d']
  have inside : enclosed? (member? (value? room)) '\x7d' (cs ++ ['\x7d']) = some (ms, []) := by
    rw [enclosed?, opened]
    simp only [show ¬ '"' = '\x7d' by decide, if_false]
    rw [← opened, sequence?_skipSpace]
    exact text.sequence? (by rw [opened, List.length_cons]; omega) []
  refine readWithin?_eq_some.mpr ⟨[], ?_, rfl⟩
  have kept : skipSpace ('\x7b' :: (cs ++ ['\x7d'])) = '\x7b' :: (cs ++ ['\x7d']) := rfl
  rw [List.cons_append, kept, value?, inside, Option.map_some]

theorem get?_mapped (f : Value → Value) (ms : Members) (name : String) :
    Members.get? name (ms.map fun m => (m.1, f m.2)) = (Members.get? name ms).map f := by
  induction ms with
  | nil => rfl
  | cons m ms ih => by_cases same : m.1 = name <;> simp [Members.get?, same, ih]

/-- An object that does not nest too deep is read, and of its members with one name it has the
last. -/
theorem MembersText.read {room : Nat} {ms : Members} {cs : List Char}
    (text : MembersText room ms cs) (short : (Value.object ms).depth ≤ maxDepth) :
    ∃ v, read? ('\x7b' :: cs ++ ['\x7d']) = some v ∧
      ∀ name, v.get? name = (Members.get? name ms.reverse).map Value.canonical := by
  have whole : readVerbatim? ('\x7b' :: cs ++ ['\x7d']) = some (.object ms) := by
    rw [readVerbatim?, readWithin?_limits text.object, if_pos short]
  refine ⟨(Value.object ms).canonical, by rw [read?, whole, Option.map_some], fun name => ?_⟩
  rw [Value.canonical, Value.get?, Value.canonicalMembers, Members.get?_ofList,
    Value.canonicalEach_eq_map, ← List.map_reverse, get?_mapped]

end ExtensionAdmin.Json
