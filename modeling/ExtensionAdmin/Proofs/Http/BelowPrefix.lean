import ExtensionAdmin.Proofs.Http.SameServer
import ExtensionAdmin.Proofs.Url.Target

/-! Paths below the prefix of a base. A plain path is joined to the path of a base with one slash
between them, as long as the text of the base ends with its path. What is behind a query or a
fragment goes there instead, and the path is that of the base, whatever was joined to it. -/

namespace ExtensionAdmin

namespace Url

open Text (dropEndWhile_before dropLeading dropTrailing splitOn)

variable {c : Char} {cs : List Char} {u base : Url} {path : String}

def isPlainChar (c : Char) : Bool :=
  c.isAlphanum || c == '-' || c == '.' || c == '_' || c == '~' || c == ':'

structure IsPlainSegment (s : List Char) : Prop where
  filled : s ≠ []
  plain : ∀ c ∈ s, isPlainChar c = true
  notHere : s ≠ ['.']
  notUp : s ≠ ['.', '.']

instance (s : List Char) : Decidable (IsPlainSegment s) :=
  decidable_of_iff (s ≠ [] ∧ s.all isPlainChar = true ∧ s ≠ ['.'] ∧ s ≠ ['.', '.'])
    ⟨fun ⟨filled, plain, notHere, notUp⟩ =>
        ⟨filled, List.all_eq_true.mp plain, notHere, notUp⟩,
      fun s => ⟨s.filled, List.all_eq_true.mpr s.plain, s.notHere, s.notUp⟩⟩

def IsPlainPath (path : String) : Prop :=
  ∀ s ∈ splitOn '/' (dropLeading '/' path.toList), IsPlainSegment s

instance (path : String) : Decidable (IsPlainPath path) :=
  inferInstanceAs (Decidable (∀ s ∈ splitOn '/' (dropLeading '/' path.toList), IsPlainSegment s))

theorem isAlphanum_iff : c.isAlphanum = true ↔
    (0x41 ≤ c.toNat ∧ c.toNat ≤ 0x5A ∨ 0x61 ≤ c.toNat ∧ c.toNat ≤ 0x7A) ∨
      0x30 ≤ c.toNat ∧ c.toNat ≤ 0x39 := by
  have spelled : c.isAlphanum = (decide ('A' ≤ c ∧ c ≤ 'Z') || ('a' ≤ c && c ≤ 'z') ||
      ('0' ≤ c && c ≤ '9')) := rfl
  simp only [spelled, Bool.or_eq_true, Bool.and_eq_true, decide_eq_true_iff]
  rfl

theorem isPlainChar_kept (plain : isPlainChar c = true) :
    inPath c = false ∧ c ≠ '%' ∧ c ≠ '/' ∧ c ≠ '\\' := by
  have number : ∀ d : Char, c = d ↔ c.toNat = d.toNat := fun d => Char.toNat_inj.symm
  simp only [isPlainChar, Bool.or_eq_true, isAlphanum_iff, beq_iff_eq, number] at plain
  simp only [inPath, inFragment, isControl, Bool.or_eq_false_iff, beq_eq_false_iff_ne, ne_eq,
    decide_eq_false_iff_not, number]
  simp only [Char.reduceToNat] at plain ⊢
  omega

theorem dot?_unescaped {s rest : List Char} (unescaped : '%' ∉ s) (dot : dot? s = some rest) :
    s = '.' :: rest := by
  unfold dot? at dot
  split at dot
  case h_1 => rw [Option.some.inj dot]
  case h_2 => exact absurd List.mem_cons_self unescaped
  case h_3 => exact absurd List.mem_cons_self unescaped
  case h_4 => cases dot

theorem IsPlainSegment.undotted {s : List Char} (segment : IsPlainSegment s) :
    isDot (encode inPath s) = false := by
  have kept := fun c member => isPlainChar_kept (segment.plain c member)
  have unescaped : '%' ∉ s := fun member => (kept '%' member).2.1 rfl
  rw [encode_eq fun c member => (kept c member).1, isDot, Bool.or_eq_false_iff,
    ← Bool.not_eq_true, ← Bool.not_eq_true, isSingleDot, isDoubleDot, beq_iff_eq, beq_iff_eq]
  constructor
  · exact fun single => segment.notHere (dot?_unescaped unescaped single)
  · intro double
    obtain ⟨rest, first, second⟩ := Option.bind_eq_some_iff.mp double
    obtain rfl := dot?_unescaped unescaped first
    have later := dot?_unescaped (fun member => unescaped (List.mem_cons_of_mem _ member)) second
    exact segment.notUp (by rw [later])

structure IsPlainRest (cs : List Char) : Prop where
  filled : cs ≠ []
  unrooted : cs.head? ≠ some '/'
  kept : ∀ c ∈ cs, inPath c = false
  text : IsPlainText cs

theorem isPlainRest_of_segments (segments : ∀ s ∈ splitOn '/' cs, IsPlainSegment s) :
    IsPlainRest cs := by
  have chars : ∀ c ∈ cs, inPath c = false ∧ c ≠ '\\' := by
    intro c member
    rw [← Text.intercalate_splitOn '/' cs, Text.mem_intercalate] at member
    obtain ⟨s, part, within⟩ | ⟨rfl, -⟩ := member
    · have kept := isPlainChar_kept ((segments s part).plain c within)
      exact ⟨kept.1, kept.2.2.2⟩
    · decide
  have unqueried : '?' ∉ cs := fun member => (inPath_solid (chars '?' member).1).2.2 rfl
  have text : IsPlainText cs := by
    constructor
    case unhashed => exact fun member => (inPath_solid (chars '#' member).1).2.1 rfl
    case straight =>
      rw [takeWhile_unqueried unqueried]
      exact fun member => (chars '\\' member).2 rfl
    case undotted =>
      rw [takeWhile_unqueried unqueried]
      exact fun s part => (segments s part).undotted
  refine ⟨?filled, ?unrooted, fun c member => (chars c member).1, text⟩
  case filled =>
    rintro rfl
    exact (segments [] List.mem_cons_self).filled rfl
  case unrooted =>
    intro slash
    obtain ⟨ds, rfl⟩ := List.head?_eq_some_iff.mp slash
    rw [Text.splitOn_cons_self] at segments
    exact (segments [] List.mem_cons_self).filled rfl

/-- A plain path is no URL of its own, since no segment of it is empty. -/
theorem IsPlainPath.relative (plain : IsPlainPath path) : isAbsolute path = false := by
  rw [← Bool.not_eq_true]
  intro absolute
  obtain ⟨name, rest, spelled, first⟩ : ∃ name rest : List Char,
      path.toList = name ++ '/' :: '/' :: rest ∧ dropLeading '/' path.toList = path.toList := by
    rw [isAbsolute, Bool.or_eq_true, List.isPrefixOf_iff_prefix, List.isPrefixOf_iff_prefix]
      at absolute
    obtain ⟨rest, same⟩ | ⟨rest, same⟩ := absolute
    · exact ⟨['h', 't', 't', 'p', ':'], rest, same.symm, by rw [← same]; rfl⟩
    · exact ⟨['h', 't', 't', 'p', 's', ':'], rest, same.symm, by rw [← same]; rfl⟩
  rw [IsPlainPath, first, spelled, Text.splitOn_append, Text.splitOn_cons_self] at plain
  exact (plain [] (List.mem_append_right _ List.mem_cons_self)).filled rfl

/-- Whether the path of a URL is that of a base with a path behind it, with one slash between
them. -/
def IsBelow (u base : Url) (path : String) : Prop :=
  u.path.toList = dropTrailing '/' base.path.toList ++ '/' :: dropLeading '/' path.toList

theorem cleanedEnd_kept (solid : ∀ c ∈ cs, 0x20 < c.toNat) : cleanedEnd cs = cs := by
  obtain rfl | ⟨before, last, rfl⟩ := List.eq_nil_or_concat' cs
  · rfl
  · obtain ⟨inside, ends⟩ := List.forall_mem_append.mp solid
    exact cleanedEnd_solid inside (ends last List.mem_cons_self) []

theorem hind_bare (query : base.query = none) (fragment : base.fragment = none) :
    base.hind = base.path.toList := by
  rw [hind, target, query, fragment, List.append_nil, List.append_nil]

/-- What is behind the path of a base begins with a mark that no path holds. -/
theorem hind_marked (marked : ¬ (base.query = none ∧ base.fragment = none)) :
    ∃ mark more, base.hind = base.path.toList ++ mark :: more ∧ (mark = '?' ∨ mark = '#') := by
  rw [hind, target]
  cases query : base.query with
  | some q => exact ⟨'?', _, by rw [List.append_assoc]; rfl, .inl rfl⟩
  | none =>
    cases fragment : base.fragment with
    | some f => exact ⟨'#', f.toList, by rw [List.append_nil], .inr rfl⟩
    | none => exact absurd ⟨query, fragment⟩ marked

/-- A plain text in which nothing needs to be encoded is read as it is. -/
theorem path_withRest_kept (u : Url) (text : IsPlainText cs) (rooted : ∃ rest, cs = '/' :: rest)
    (kept : ∀ c ∈ cs, inPath c = false) : (u.withRest cs).path.toList = cs := by
  obtain ⟨rest, rfl⟩ := rooted
  have unqueried : '?' ∉ '/' :: rest := fun member => (inPath_solid (kept '?' member)).2.2 rfl
  rw [path_withRest u text, takeWhile_unqueried unqueried, encode_eq kept]

/-- A plain path that is joined to a path is behind it. -/
theorem withRest_below (settled : base.IsSettled) (plain : IsPlainPath path)
    (query : base.query = none) (fragment : base.fragment = none) :
    (base.withRest (cleanedEnd (base.joinedHind path))).IsBelow base path := by
  have joined : base.joinedHind path =
      dropTrailing '/' base.path.toList ++ '/' :: dropLeading '/' path.toList := by
    rw [joinedHind, hind_bare query fragment]
  have rest := isPlainRest_of_segments plain
  have kept : ∀ c ∈ base.joinedHind path, inPath c = false := by
    rw [joined]
    refine List.forall_mem_append.mpr ⟨fun c member => ?_, ?_⟩
    · exact (settled.mem_path ((List.rdropWhile_prefix _ _).subset member)).1
    · exact List.forall_mem_cons.mpr ⟨by decide, rest.kept⟩
  have text : IsPlainText (base.joinedHind path) := by
    rw [joined]
    exact settled.path_isPlainText.dropTrailing.join rest.text
  rw [cleanedEnd_kept fun c member => (inPath_solid (kept c member)).1, IsBelow, ← joined]
  exact path_withRest_kept base text (hind_join_rooted settled _) kept

/-- The path of a URL that has been read is read as it is. -/
theorem withRest_path (settled : base.IsSettled) :
    (base.withRest base.path.toList).path = base.path := by
  obtain ⟨segments, -, -, rooted⟩ := settled.path
  apply String.toList_inj.mp
  exact path_withRest_kept base settled.path_isPlainText ⟨_, rooted⟩
    fun c member => (settled.mem_path member).1

/-- A path that is joined to a query or a fragment leaves the path of the base as it is. -/
theorem withRest_marked (settled : base.IsSettled) (path : String)
    (marked : ¬ (base.query = none ∧ base.fragment = none)) :
    (base.withRest (cleanedEnd (base.joinedHind path))).path = base.path := by
  obtain ⟨mark, more, behind, known⟩ := hind_marked marked
  obtain ⟨last, other, stop⟩ : 0x20 < mark.toNat ∧ (mark == '/') = false ∧
      (mark != '?' && mark != '#') = false := by
    obtain rfl | rfl := known <;> decide
  -- The mark is no slash, so the slashes that are dropped from the base are all behind it.
  obtain ⟨left, same⟩ : ∃ left,
      cleanedEnd (base.joinedHind path) = base.path.toList ++ mark :: left := by
    rw [joinedHind, behind, dropTrailing, dropEndWhile_before (q := (· == '/')) other,
      List.append_assoc, List.cons_append, cleanedEnd_solid settled.path_solid last]
    exact ⟨_, rfl⟩
  have cut : (base.withRest (base.path.toList ++ mark :: left)).path =
      (base.withRest base.path.toList).path := by
    simp only [withRest, takeWhile_before (q := fun c => c != '?' && c != '#') stop]
  rw [same, cut, withRest_path settled]

theorem not_isBelow (plain : IsPlainPath path) (same : u.path = base.path) :
    ¬ u.IsBelow base path := by
  intro below
  obtain ⟨n, slashes⟩ := dropTrailing_slashes base.path.toList
  rw [IsBelow, same] at below
  have rest : List.replicate n '/' = '/' :: dropLeading '/' path.toList :=
    List.append_cancel_left (slashes.symm.trans below)
  have unrooted := isPlainRest_of_segments plain
  obtain ⟨c, cs, text⟩ := List.exists_cons_of_ne_nil unrooted.filled
  have slash : c = '/' := by
    apply List.eq_of_mem_replicate (n := n)
    rw [rest, text]
    simp
  exact unrooted.unrooted (by rw [text, slash]; rfl)

/-- Where a plain path leads that is joined to a base. -/
theorem withRest_isBelow_iff (settled : base.IsSettled) (plain : IsPlainPath path) :
    (base.withRest (cleanedEnd (base.joinedHind path))).IsBelow base path ↔
      base.query = none ∧ base.fragment = none := by
  by_cases bare : base.query = none ∧ base.fragment = none
  · exact iff_of_true (withRest_below settled plain bare.1 bare.2) bare
  · exact iff_of_false (not_isBelow plain (withRest_marked settled path bare)) bare

end Url

namespace Http.Client

/-- Plain paths lead below the prefix of the settings, with settings that are valid, exactly if
their endpoint has neither a query nor a fragment, and a host that can be read once more. -/
theorem path_below_prefix {s : Settings} (valid : s.validate = .ok ()) :
    ∃ c, ofSettings s = .ok c ∧ s.endpoint = .ok c.base ∧
      ∀ path, Url.IsPlainPath path →
        ((∃ u, c.url path = .ok u ∧ u.IsBelow c.base path) ↔
          c.base.query = none ∧ c.base.fragment = none ∧ c.base.host.isOverlong = false) := by
  obtain ⟨base, found⟩ := s.endpoint_of_valid valid
  have settled := s.endpoint_settled found
  refine ⟨⟨base, s.apiVersion, s.authToken⟩,
    ofSettings_eq_ok_iff.mpr ⟨valid, base, found, rfl⟩, found, fun path plain => ?_⟩
  have led := url_relative (c := ⟨base, s.apiVersion, s.authToken⟩) settled plain.relative
  have below := Url.withRest_isBelow_iff settled plain
  cases long : base.host.isOverlong with
  | true => simp [led, long]
  | false => simp [led, long, below]

def tenantSettings : Settings := ⟨"http://h/tenant-portal//", "29.0", "token", 30⟩

def tenantBase : Url := ⟨.http, "", "", .domain "h", none, "/tenant-portal//", none, none⟩

theorem tenant_below_prefix : tenantSettings.validate = .ok () ∧ Url.IsPlainPath "//api/urn:x.1" ∧
    ∃ c u, ofSettings tenantSettings = .ok c ∧ c.url "//api/urn:x.1" = .ok u ∧
      u.path.toList = "/tenant-portal/api/urn:x.1".toList := by
  have valid : tenantSettings.validate = .ok () := rfl
  have plain : Url.IsPlainPath "//api/urn:x.1" := by decide
  have base : tenantSettings.endpoint = .ok tenantBase := rfl
  obtain ⟨c, built, found, below⟩ := path_below_prefix valid
  obtain same : tenantBase = c.base := Except.ok.inj (base.symm.trans found)
  rw [← same] at below
  obtain ⟨u, led, spelled⟩ := (below _ plain).mpr ⟨rfl, rfl, by decide⟩
  exact ⟨valid, plain, c, u, built, led, spelled.trans (by decide)⟩

def queriedSettings : Settings := ⟨"http://h/portal?x=1", "29.0", "token", 30⟩

/-- What is joined to a query goes there. -/
theorem queried_takes_path : queriedSettings.validate = .ok () ∧ Url.IsPlainPath "/api" ∧
    ∃ c u, ofSettings queriedSettings = .ok c ∧ c.url "/api" = .ok u ∧
      u.path = "/portal" ∧ u.query = some "x=1/api" ∧ ¬ u.IsBelow c.base "/api" := by
  refine ⟨rfl, by decide, ⟨⟨.http, "", "", .domain "h", none, "/portal", some "x=1", none⟩,
    "29.0", "token"⟩, ⟨.http, "", "", .domain "h", none, "/portal", some "x=1/api", none⟩,
    rfl, rfl, rfl, rfl, ?_⟩
  exact Url.not_isBelow (by decide) rfl

end Http.Client

end ExtensionAdmin
