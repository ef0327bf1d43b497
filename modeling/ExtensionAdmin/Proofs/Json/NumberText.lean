import ExtensionAdmin.Proofs.Json.WholeNumber

/-! The text of a number inside of a longer text. A number is written as a sign, digits, perhaps a
fraction and perhaps an exponent. The reader takes all of these, and what follows has no part in it
unless a number could go on there. So there is one thing that the text of a number is read as,
wherever it stands. -/

namespace ExtensionAdmin.Json

def Ends (rest : List Char) : Prop :=
  ∀ c ∈ rest.head?, c.isDigit = false ∧ c ≠ '.' ∧ c ≠ 'e' ∧ c ≠ 'E'

/-- A text that is read as the same thing, and read whole, before whatever may follow it. -/
def Steady {α : Type} (item : Item α) (follows : List Char → Prop) (text : List Char) : Prop :=
  ∃ r : Option α, ∀ rest, follows rest → item (text ++ rest) = r.map fun x => (x, rest)

def fractionText : Option (List Char) → List Char
  | none => []
  | some ds => '.' :: ds

def exponentText : Option (Char × List Char) → List Char
  | none => []
  | some (sign, ds) => 'e' :: sign :: ds

structure Written where
  whole : List Char
  fraction : Option (List Char)
  exponent : Option (Char × List Char)
  filled : whole ≠ [] ∨ fraction ≠ none ∨ exponent ≠ none
  whole_digits : ∀ c ∈ whole, c.isDigit = true
  fraction_digits : ∀ ds ∈ fraction, ∀ c ∈ ds, c.isDigit = true
  exponent_sign : ∀ x ∈ exponent, x.1 = '+' ∨ x.1 = '-'
  exponent_digits : ∀ x ∈ exponent, ∀ c ∈ x.2, c.isDigit = true

def Written.text (m : Written) : List Char :=
  m.whole ++ fractionText m.fraction ++ exponentText m.exponent

theorem exponentDigits?_steady {ds : List Char} (digits : ∀ c ∈ ds, c.isDigit = true) :
    Steady exponentDigits? Ends ds := by
  have taken : ∀ rest, Ends rest → takeDigits (ds ++ rest) = (ds.map digit, rest) :=
    fun rest ends => takeDigits_append digits fun c first => (ends c first).1
  cases ds with
  | nil => exact ⟨none, fun rest ends => by rw [exponentDigits?, taken rest ends]; rfl⟩
  | cons d ds => exact ⟨some _, fun rest ends => by rw [exponentDigits?, taken rest ends]; rfl⟩

theorem exponent?_steady {x : Option (Char × List Char)} (sign : ∀ y ∈ x, y.1 = '+' ∨ y.1 = '-')
    (digits : ∀ y ∈ x, ∀ c ∈ y.2, c.isDigit = true) : Steady exponent? Ends (exponentText x) := by
  rcases x with _ | ⟨mark, ds⟩
  · refine ⟨some none, fun rest ends => ?_⟩
    cases rest with
    | nil => rfl
    | cons c rest => simp [exponentText, exponent?, ends c rfl]
  · obtain ⟨r, read⟩ := exponentDigits?_steady (digits _ rfl)
    rcases sign _ rfl with rfl | rfl
    · refine ⟨r.map fun n => some (n : Int), fun rest ends => ?_⟩
      have inside := read rest ends
      cases r <;> simp_all [exponentText, exponent?]
    · refine ⟨r.map fun n => some (-(n : Int)), fun rest ends => ?_⟩
      have inside := read rest ends
      cases r <;> simp_all [exponentText, exponent?]

def EndsFraction (rest : List Char) : Prop :=
  ∀ c ∈ rest.head?, c.isDigit = false ∧ c ≠ '.'

theorem fraction?_steady {f : Option (List Char)}
    (digits : ∀ ds ∈ f, ∀ c ∈ ds, c.isDigit = true) :
    Steady fraction? EndsFraction (fractionText f) := by
  rcases f with _ | ds
  · refine ⟨some none, fun rest ends => ?_⟩
    rcases rest with _ | ⟨c, rest⟩
    · rfl
    · rw [fractionText, List.nil_append, fraction?]
      · rfl
      · intro cs same
        obtain ⟨rfl, -⟩ := List.cons.inj same
        exact absurd rfl (ends _ rfl).2
  · have taken : ∀ rest, EndsFraction rest → takeDigits (ds ++ rest) = (ds.map digit, rest) :=
      fun rest ends => takeDigits_append (digits _ rfl) fun c first => (ends c first).1
    cases ds with
    | nil =>
      refine ⟨none, fun rest ends => ?_⟩
      rw [fractionText, List.cons_append, fraction?, taken rest ends]
      rfl
    | cons d ds =>
      refine ⟨some (some ((d :: ds).map digit)), fun rest ends => ?_⟩
      rw [fractionText, List.cons_append, fraction?, taken rest ends]
      rfl

theorem exponentText_ends (x : Option (Char × List Char)) {rest : List Char} (ends : Ends rest) :
    EndsFraction (exponentText x ++ rest) := by
  cases x with
  | none => exact fun c first => ⟨(ends c first).1, (ends c first).2.1⟩
  | some x =>
    intro c first
    obtain rfl : 'e' = c := by simpa [exponentText] using first
    decide

theorem fractionText_ends (f : Option (List Char)) {rest : List Char} (ends : EndsFraction rest) :
    ∀ c ∈ (fractionText f ++ rest).head?, c.isDigit = false := by
  cases f with
  | none => exact fun c first => (ends c first).1
  | some ds =>
    intro c first
    obtain rfl : '.' = c := by simpa [fractionText] using first
    decide

theorem unsigned?_steady (negative : Bool) (m : Written) :
    Steady (unsigned? negative) Ends m.text := by
  obtain ⟨f, fraction⟩ := fraction?_steady m.fraction_digits
  obtain ⟨x, exponent⟩ := exponent?_steady m.exponent_sign m.exponent_digits
  have taken : ∀ rest, Ends rest → takeDigits (m.text ++ rest) =
      (m.whole.map digit, fractionText m.fraction ++ (exponentText m.exponent ++ rest)) := by
    intro rest ends
    rw [Written.text, List.append_assoc, List.append_assoc]
    exact takeDigits_append m.whole_digits
      (fractionText_ends m.fraction (exponentText_ends m.exponent ends))
  have parts : ∀ rest, Ends rest →
      fraction? (fractionText m.fraction ++ (exponentText m.exponent ++ rest)) =
        f.map fun y => (y, exponentText m.exponent ++ rest) :=
    fun rest ends => fraction _ (exponentText_ends m.exponent ends)
  -- Without a whole part there is no number, whatever stands for a fraction and an exponent.
  by_cases whole : WholePart (m.whole.map digit)
  · refine ⟨f.bind fun y => x.bind fun z => assemble negative (m.whole.map digit) y z,
      fun rest ends => ?_⟩
    have last := exponent rest ends
    rw [unsigned?_of_wholePart negative (taken rest ends) whole, parts rest ends]
    cases f <;> cases x <;> simp_all
  · refine ⟨none, fun rest ends => ?_⟩
    exact unsigned?_eq_none negative (taken rest ends) whole

theorem Written.head (m : Written) : ∃ c cs, m.text = c :: cs ∧
    (c.isDigit = true ∨ c = '.' ∨ c = 'e') := by
  rw [Written.text, List.append_assoc]
  cases spelled : m.whole with
  | cons d ds => exact ⟨d, _, rfl, .inl (m.whole_digits d (by simp [spelled]))⟩
  | nil =>
    cases f : m.fraction with
    | some ds => exact ⟨'.', _, rfl, .inr (.inl rfl)⟩
    | none =>
      cases x : m.exponent with
      | some x => exact ⟨'e', _, rfl, .inr (.inr rfl)⟩
      | none => simpa [spelled, f, x] using m.filled

/-- A magnitude with its sign is read as one thing. -/
theorem number?_steady (negative : Bool) (m : Written) :
    Steady number? Ends (if negative then '-' :: m.text else m.text) := by
  obtain ⟨r, read⟩ := unsigned?_steady negative m
  refine ⟨r, fun rest ends => ?_⟩
  rw [← read rest ends]
  cases negative with
  | true => rfl
  | false =>
    obtain ⟨c, cs, spelled, first⟩ := m.head
    simp only [Bool.false_eq_true, if_false, spelled, List.cons_append]
    rw [number?]
    intro _ same
    obtain ⟨rfl, -⟩ := List.cons.inj same
    exact absurd first (by decide)

def ofDigits (n : Nat) : Written where
  whole := Nat.toDigits 10 n
  fraction := none
  exponent := none
  filled := .inl Nat.toDigits_ne_nil
  whole_digits := toDigits_isDigit n
  fraction_digits := by simp
  exponent_sign := by simp
  exponent_digits := by simp

theorem int_written (i : Int) : ∃ (negative : Bool) (m : Written),
    (Number.int i).render = if negative then '-' :: m.text else m.text := by
  rw [Number.render, Int.toString_eq_repr, Int.repr_eq_if]
  split
  case isTrue =>
    refine ⟨false, ofDigits i.toNat, ?_⟩
    simp [ofDigits, Written.text, fractionText, exponentText]
  case isFalse =>
    refine ⟨true, ofDigits (-i).toNat, ?_⟩
    simp [ofDigits, Written.text, fractionText, exponentText]

theorem place_written {ds : List Char} (digits : ∀ c ∈ ds, c.isDigit = true) (e : Int) :
    ∃ m : Written, Double.place ds e = m.text := by
  have zero : '0'.isDigit = true := by decide
  have zeros : ∀ n, ∀ c ∈ List.replicate n '0', c.isDigit = true :=
    fun n c member => List.eq_of_mem_replicate member ▸ zero
  unfold Double.place
  split
  · split
    -- Below one: zeros behind the point.
    · refine ⟨⟨['0'], some (List.replicate ((-e).toNat - 1) '0' ++ ds), none, by simp, by simp, ?_,
        by simp, by simp⟩, by simp [Written.text, fractionText, exponentText]⟩
      grind
    -- From one on: as many digits before the point as the exponent says.
    · refine ⟨⟨ds.take (e.toNat + 1) ++ List.replicate (e.toNat + 1 - ds.length) '0',
        some (if (ds.drop (e.toNat + 1)).isEmpty then ['0'] else ds.drop (e.toNat + 1)), none,
        by simp, ?_, ?_, by simp, by simp⟩, by simp [Written.text, fractionText, exponentText]⟩
      · grind
      · intro tail same c member
        obtain rfl := Option.some.inj same
        split at member
        · exact List.mem_singleton.mp member ▸ zero
        · exact digits c (List.mem_of_mem_drop member)
  · refine ⟨⟨ds.take 1, if ds.length ≤ 1 then none else some (ds.drop 1),
        some (if e < 0 then '-' else '+', Double.digits e.natAbs), by simp, ?_, ?_, ?_, ?_⟩, ?_⟩
    · grind
    · grind
    · grind
    · intro x same
      cases same
      exact toDigits_isDigit e.natAbs
    · simp only [Written.text, exponentText]
      grind [fractionText]

theorem shortest_digits (x : Double) : ∀ c ∈ x.shortest.1, c.isDigit = true := by
  intro c member
  have among : ∀ ds : List Char, c ∈ (ds.reverse.dropWhile (· == '0')).reverse → c ∈ ds := by
    intro ds member
    exact List.mem_reverse.mp ((List.dropWhile_suffix _).mem (List.mem_reverse.mp member))
  exact toDigits_isDigit _ c (among _ member)

theorem double_written (x : Double) : ∃ (negative : Bool) (m : Written),
    x.render = if negative then '-' :: m.text else m.text := by
  have magnitude : ∃ m : Written, (if x.isZero then ['0', '.', '0']
      else Double.place x.shortest.1 x.shortest.2) = m.text := by
    split
    · exact place_written (List.forall_mem_nil _) 0
    · exact place_written (shortest_digits x) x.shortest.2
  obtain ⟨m, same⟩ := magnitude
  refine ⟨x.negative, m, ?_⟩
  rw [← same]
  rfl

theorem render_written (n : Number) : ∃ (negative : Bool) (m : Written),
    n.render = if negative then '-' :: m.text else m.text := by
  cases n with
  | int i => exact int_written i
  | float x => exact double_written x

theorem render_begins (n : Number) : ∃ c cs, n.render = c :: cs ∧ BeginsNumber c := by
  obtain ⟨negative, m, same⟩ := render_written n
  cases negative with
  | true => exact ⟨'-', m.text, same, .inl rfl⟩
  | false =>
    obtain ⟨c, cs, spelled, first⟩ := m.head
    exact ⟨c, cs, same.trans spelled, .inr first⟩

/-- The text of a number is read as one thing, wherever it stands. -/
theorem render_steady (n : Number) : Steady number? Ends n.render := by
  obtain ⟨negative, m, same⟩ := render_written n
  exact same ▸ number?_steady negative m

end ExtensionAdmin.Json
