import ExtensionAdmin.Proofs.Url.Authority

/-! Targets of paths below a base. What is sent for a path is the text of the base and the path, in
which the characters that need it are encoded, as long as the path holds no dot segment and nothing
that is dropped or turned into something else. So such paths have the same target only if they are
the same. Below a base with a fragment every path has the base's own target. -/

namespace ExtensionAdmin.Url

open Text (dropWhile_before dropEndWhile_before)

variable {c : Char} {cs ds before : List Char} {u : Url}

def queryText : List Char → List Char
  | [] => []
  | _ :: q => '?' :: encode inQuery q

/-- What is sent for a text of a path and a query. -/
def spelled (cs : List Char) : List Char :=
  encode inPath (cs.takeWhile (· != '?')) ++ queryText (cs.dropWhile (· != '?'))

theorem dropWhile_question (cs : List Char) :
    cs.dropWhile (· != '?') = [] ∨ ∃ q, cs.dropWhile (· != '?') = '?' :: q := by
  induction cs with
  | nil => exact Or.inl rfl
  | cons c cs ih =>
    by_cases question : c = '?'
    · exact Or.inr ⟨cs, by rw [question, List.dropWhile_cons_of_neg (by decide)]⟩
    · rwa [List.dropWhile_cons_of_pos (by simpa using question)]

theorem queried_or_not (cs : List Char) :
    '?' ∉ cs ∨ ∃ path query, '?' ∉ path ∧ cs = path ++ '?' :: query := by
  by_cases queried : '?' ∈ cs
  · obtain ⟨path, query, rfl, single⟩ := List.eq_append_cons_of_mem queried
    exact Or.inr ⟨path, query, single, rfl⟩
  · exact Or.inl queried

theorem bne_of_not_mem (single : '?' ∉ cs) : ∀ c ∈ cs, (c != '?') = true := by
  intro c member
  rw [bne_iff_ne]
  rintro rfl
  exact single member

theorem spelled_path (single : '?' ∉ before) (cs : List Char) :
    spelled (before ++ cs) = encode inPath before ++ spelled cs := by
  have path := bne_of_not_mem single
  rw [spelled, List.takeWhile_append_of_pos path, List.dropWhile_append_of_pos path,
    encode_append, List.append_assoc]
  rfl

theorem spelled_query (single : '?' ∉ before) (cs : List Char) :
    spelled (before ++ '?' :: cs) = encode inPath before ++ '?' :: encode inQuery cs := by
  rw [spelled_path single]
  rfl

theorem not_mem_encode_inPath (cs : List Char) : '?' ∉ encode inPath cs := by
  intro member
  have plain : inPath '?' = false := encode_reserved (by decide) (by decide) member
  exact absurd plain (by decide)

theorem spelled_parts (cs : List Char) :
    (spelled cs).takeWhile (· != '?') = encode inPath (cs.takeWhile (· != '?')) ∧
      (spelled cs).dropWhile (· != '?') = queryText (cs.dropWhile (· != '?')) := by
  have path := bne_of_not_mem (not_mem_encode_inPath (cs.takeWhile (· != '?')))
  rw [spelled, List.takeWhile_append_of_pos path, List.dropWhile_append_of_pos path]
  cases cs.dropWhile (· != '?') <;> simp [queryText]

theorem queryText_injective (unescaped : '%' ∉ cs) (unescaped' : '%' ∉ ds)
    (same : queryText (cs.dropWhile (· != '?')) = queryText (ds.dropWhile (· != '?'))) :
    cs.dropWhile (· != '?') = ds.dropWhile (· != '?') := by
  have within : ∀ {es q : List Char}, es.dropWhile (· != '?') = '?' :: q → '%' ∉ es → '%' ∉ q := by
    intro es q rest absent member
    exact absent ((List.dropWhile_sublist _).subset (rest ▸ List.mem_cons_of_mem _ member))
  rcases dropWhile_question cs with none | ⟨q, some_query⟩ <;>
    rcases dropWhile_question ds with none' | ⟨q', some_query'⟩
  · rw [none, none']
  · simp [none, some_query', queryText] at same
  · simp [some_query, none', queryText] at same
  · rw [some_query, some_query', queryText, queryText] at same
    rw [some_query, some_query', encode_injective (within some_query unescaped)
      (within some_query' unescaped') (List.cons.inj same).2]

/-- Texts without percent signs are told apart by what is sent for them. -/
theorem spelled_injective (unescaped : '%' ∉ cs) (unescaped' : '%' ∉ ds)
    (same : spelled cs = spelled ds) : cs = ds := by
  have path :
      encode inPath (cs.takeWhile (· != '?')) = encode inPath (ds.takeWhile (· != '?')) := by
    rw [← (spelled_parts cs).1, same, (spelled_parts ds).1]
  have query : queryText (cs.dropWhile (· != '?')) = queryText (ds.dropWhile (· != '?')) := by
    rw [← (spelled_parts cs).2, same, (spelled_parts ds).2]
  have absent : ∀ {es : List Char}, '%' ∉ es → '%' ∉ es.takeWhile (· != '?') :=
    fun absent member => absent ((List.takeWhile_sublist _).subset member)
  rw [← List.takeWhile_append_dropWhile (p := (· != '?')) (l := cs),
    encode_injective (absent unescaped) (absent unescaped') path,
    queryText_injective unescaped unescaped' query, List.takeWhile_append_dropWhile]

theorem spelled_append_injective (before : List Char) (unescaped : '%' ∉ cs)
    (unescaped' : '%' ∉ ds) (same : spelled (before ++ cs) = spelled (before ++ ds)) : cs = ds := by
  rcases queried_or_not before with single | ⟨path, query, single, rfl⟩
  · rw [spelled_path single, spelled_path single, List.append_cancel_left_eq] at same
    exact spelled_injective unescaped unescaped' same
  · rw [List.append_assoc, List.append_assoc, List.cons_append, List.cons_append,
      spelled_query single, spelled_query single, encode_append, encode_append] at same
    have rest := (List.cons.inj (List.append_cancel_left same)).2
    exact encode_injective unescaped unescaped' (List.append_cancel_left rest)

/-- Whether a text is read as the path and query that it spells. -/
structure IsPlainText (cs : List Char) : Prop where
  unhashed : '#' ∉ cs
  straight : '\\' ∉ cs.takeWhile (· != '?')
  undotted : Undotted (cs.takeWhile (· != '?'))

instance (cs : List Char) : Decidable (IsPlainText cs) :=
  decidable_of_iff ('#' ∉ cs ∧ '\\' ∉ cs.takeWhile (· != '?') ∧ Undotted (cs.takeWhile (· != '?')))
    ⟨fun ⟨unhashed, straight, undotted⟩ => ⟨unhashed, straight, undotted⟩,
      fun plain => ⟨plain.unhashed, plain.straight, plain.undotted⟩⟩

theorem takeWhile_path (single : '?' ∉ before) (cs : List Char) :
    (before ++ cs).takeWhile (· != '?') = before ++ cs.takeWhile (· != '?') :=
  List.takeWhile_append_of_pos (bne_of_not_mem single)

theorem takeWhile_unqueried (single : '?' ∉ cs) : cs.takeWhile (· != '?') = cs :=
  List.takeWhile_eq_self_iff.mpr (bne_of_not_mem single)

theorem takeWhile_query (single : '?' ∉ before) (cs : List Char) :
    (before ++ '?' :: cs).takeWhile (· != '?') = before :=
  (takeWhile_path single _).trans (List.append_nil before)

theorem takeWhile_join (cs ds : List Char) :
    (cs ++ '/' :: ds).takeWhile (· != '?') = cs.takeWhile (· != '?') ∨
      (cs ++ '/' :: ds).takeWhile (· != '?') =
        cs.takeWhile (· != '?') ++ '/' :: ds.takeWhile (· != '?') := by
  rcases queried_or_not cs with single | ⟨path, query, single, rfl⟩
  · right
    rw [takeWhile_path single, takeWhile_unqueried single]
    rfl
  · left
    rw [List.append_assoc, List.cons_append, takeWhile_query single, takeWhile_query single]

theorem IsPlainText.join (plain : IsPlainText cs) (plain' : IsPlainText ds) :
    IsPlainText (cs ++ '/' :: ds) := by
  have unhashed : '#' ∉ cs ++ '/' :: ds := by
    simp [plain.unhashed, plain'.unhashed]
  rcases takeWhile_join cs ds with path | path
  · exact ⟨unhashed, by rw [path]; exact plain.straight, by rw [path]; exact plain.undotted⟩
  · refine ⟨unhashed, ?_, ?_⟩
    · rw [path]
      simp [plain.straight, plain'.straight]
    · rw [path]
      exact undotted_append.mpr ⟨plain.undotted, plain'.undotted⟩

theorem IsPlainText.left (plain : IsPlainText (cs ++ '/' :: ds)) : IsPlainText cs := by
  have unhashed : '#' ∉ cs := fun member => plain.unhashed (List.mem_append_left _ member)
  have straight := plain.straight
  have undotted := plain.undotted
  rcases takeWhile_join cs ds with path | path
  · rw [path] at straight undotted
    exact ⟨unhashed, straight, undotted⟩
  · rw [path] at straight undotted
    exact ⟨unhashed, fun member => straight (List.mem_append_left _ member),
      (undotted_append.mp undotted).1⟩

/-- A text is what is left of it without the slashes at its end, and slashes. -/
theorem dropTrailing_slashes (cs : List Char) :
    ∃ n, cs = Text.dropTrailing '/' cs ++ List.replicate n '/' := by
  have slashes : ∀ c ∈ cs.rtakeWhile (· == '/'), c = '/' := by
    intro c member
    simpa using List.mem_rtakeWhile_imp member
  refine ⟨(cs.rtakeWhile (· == '/')).length, ?_⟩
  rw [← List.eq_replicate_of_mem slashes]
  exact List.rdropWhile_append_rtakeWhile.symm

theorem IsPlainText.dropTrailing (plain : IsPlainText cs) :
    IsPlainText (Text.dropTrailing '/' cs) := by
  obtain ⟨n, parts⟩ := dropTrailing_slashes cs
  cases n with
  | zero =>
    rw [List.replicate_zero, List.append_nil] at parts
    rwa [← parts]
  | succ n =>
    rw [List.replicate_succ] at parts
    rw [parts] at plain
    exact plain.left

theorem unhashed_parts (unhashed : '#' ∉ cs) :
    cs.takeWhile (fun c => c != '?' && c != '#') = cs.takeWhile (· != '?') ∧
      cs.dropWhile (fun c => c != '?' && c != '#') = cs.dropWhile (· != '?') := by
  have same : ∀ c ∈ cs, (c != '?' && c != '#') = (c != '?') := by
    intro c member
    have other : c ≠ '#' := by
      rintro rfl
      exact unhashed member
    simp [other]
  induction cs with
  | nil => exact ⟨rfl, rfl⟩
  | cons c cs ih =>
    obtain ⟨here, later⟩ := List.forall_mem_cons.mp same
    obtain ⟨path, query⟩ := ih (fun member => unhashed (List.mem_cons_of_mem _ member)) later
    rw [List.takeWhile_cons, List.dropWhile_cons, List.takeWhile_cons, List.dropWhile_cons, here,
      path, query]
    exact ⟨rfl, rfl⟩

def renderQuery : Option String → List Char
  | none => []
  | some q => '?' :: q.toList

theorem target_eq (u : Url) : u.target = u.path.toList ++ renderQuery u.query := by
  rw [target]
  cases u.query <;> rfl

theorem tail_unhashed (unhashed : '#' ∉ cs) :
    renderQuery (tail (cs.dropWhile (· != '?'))).1 = queryText (cs.dropWhile (· != '?')) := by
  have whole : (cs.dropWhile (· != '?')).takeWhile (· != '#') = cs.dropWhile (· != '?') := by
    refine List.takeWhile_eq_self_iff.mpr fun c member => ?_
    rw [bne_iff_ne]
    rintro rfl
    exact unhashed ((List.dropWhile_sublist _).subset member)
  simp only [tail, whole]
  rcases dropWhile_question cs with none | ⟨q, some_query⟩
  · rw [none]
    rfl
  · rw [some_query]
    simp [queryText, renderQuery]

/-- The path of a plain text that stands behind an authority is what the text spells. -/
theorem path_withRest (u : Url) (plain : IsPlainText ('/' :: cs)) :
    (u.withRest ('/' :: cs)).path.toList = encode inPath (('/' :: cs).takeWhile (· != '?')) := by
  have slash : ('/' :: cs).takeWhile (· != '?') = '/' :: cs.takeWhile (· != '?') :=
    List.takeWhile_cons_of_pos (by decide)
  have straight := plain.straight
  have undotted := plain.undotted
  rw [slash] at straight undotted
  have rooted := renderSegments_undotted (fun member => straight (List.mem_cons_of_mem _ member))
    (undotted_rooted.mp undotted)
  have unencoded : inPath '/' = false := by decide
  simp only [withRest, (unhashed_parts plain.unhashed).1]
  rw [slash, String.toList_ofList, rooted, encode_cons, unencoded]
  rfl

/-- A plain text is sent as it is, up to its encoding, when it stands behind an authority. -/
theorem target_withRest (u : Url) (plain : IsPlainText ('/' :: cs)) :
    (u.withRest ('/' :: cs)).target = spelled ('/' :: cs) := by
  rw [target_eq, path_withRest u plain, spelled]
  simp only [withRest, (unhashed_parts plain.unhashed).2, tail_unhashed plain.unhashed]

theorem takeWhile_before {q : Char → Bool} (stop : q c = false) (before after : List Char) :
    (before ++ c :: after).takeWhile q = before.takeWhile q := by
  rw [List.takeWhile_append]
  split
  case isTrue whole =>
    rw [List.takeWhile_cons_of_neg (by simp [stop]), List.append_nil,
      (List.takeWhile_prefix q).eq_of_length whole]
  case isFalse => rfl

/-- A fragment hides what follows it. -/
theorem target_hashed (u : Url) (front cs ds : List Char) :
    (u.withRest (front ++ '#' :: cs)).target = (u.withRest (front ++ '#' :: ds)).target := by
  have stop : ('#' != '?' && '#' != '#') = false := by decide
  have query : ∀ before cs : List Char,
      (tail (before ++ '#' :: cs)).1 = (tail (before ++ '#' :: ds)).1 := by
    intro before cs
    simp only [tail, takeWhile_before (q := (· != '#')) (by decide : ('#' != '#') = false)]
    split <;> rfl
  simp only [target_eq, withRest, takeWhile_before (q := fun c => c != '?' && c != '#') stop,
    dropWhile_before (q := fun c => c != '?' && c != '#') stop, query _ cs]

theorem inPath_solid (plain : inPath c = false) : 0x20 < c.toNat ∧ c ≠ '#' ∧ c ≠ '?' := by
  simp only [inPath, inFragment, isControl, Bool.or_eq_false_iff, beq_eq_false_iff_ne, ne_eq,
    decide_eq_false_iff_not] at plain
  have blank := toNat_eq_space (c := c)
  grind

theorem inQuery_solid (plain : inQuery c = false) : 0x20 < c.toNat ∧ c ≠ '#' := by
  simp only [inQuery, isControl, Bool.or_eq_false_iff, beq_eq_false_iff_ne, ne_eq,
    decide_eq_false_iff_not] at plain
  have blank := toNat_eq_space (c := c)
  grind

theorem IsSettled.mem_path (settled : u.IsSettled) (member : c ∈ u.path.toList) :
    inPath c = false ∧ c ≠ '\\' := by
  obtain ⟨ss, -, sound, path⟩ := settled.path
  rw [path] at member
  have slash : inPath '/' = false ∧ '/' ≠ '\\' := by decide
  rcases List.mem_cons.mp member with rfl | member
  · exact slash
  rcases Text.mem_intercalate.mp member with ⟨s, within, here⟩ | ⟨rfl, -⟩
  · refine ⟨(sound s within).plain c here, ?_⟩
    rintro rfl
    have whole := (sound s within).whole '\\' here
    exact absurd whole (by decide)
  · exact slash

theorem IsSettled.path_solid (settled : u.IsSettled) : ∀ c ∈ u.path.toList, 0x20 < c.toNat :=
  fun _ member => (inPath_solid (settled.mem_path member).1).1

theorem IsSettled.path_unqueried (settled : u.IsSettled) : '?' ∉ u.path.toList :=
  fun member => (inPath_solid (settled.mem_path member).1).2.2 rfl

theorem IsSettled.path_isPlainText (settled : u.IsSettled) : IsPlainText u.path.toList where
  unhashed member := (inPath_solid (settled.mem_path member).1).2.1 rfl
  straight := by
    rw [takeWhile_unqueried settled.path_unqueried]
    exact fun member => (settled.mem_path member).2 rfl
  undotted := by
    rw [takeWhile_unqueried settled.path_unqueried]
    obtain ⟨ss, filled, sound, path⟩ := settled.path
    rw [path]
    exact undotted_rooted.mpr (undotted_segments filled sound)

/-- The target of a URL that has been read is plain. -/
theorem IsSettled.target_isPlainText (settled : u.IsSettled) : IsPlainText u.target := by
  have path := settled.path_isPlainText
  rw [target_eq]
  cases query : u.query with
  | none => rwa [renderQuery, List.append_nil]
  | some q =>
    have straight := path.straight
    have undotted := path.undotted
    rw [takeWhile_unqueried settled.path_unqueried] at straight undotted
    have unhashed : '#' ∉ q.toList := fun member =>
      (inQuery_solid (settled.query q query '#' member)).2 rfl
    rw [renderQuery]
    refine ⟨?_, ?_, ?_⟩
    · simp [path.unhashed, unhashed]
    · rwa [takeWhile_query settled.path_unqueried]
    · rwa [takeWhile_query settled.path_unqueried]

theorem IsSettled.target_solid (settled : u.IsSettled) : ∀ c ∈ u.target, 0x20 < c.toNat := by
  rw [target_eq]
  refine List.forall_mem_append.mpr ⟨settled.path_solid, ?_⟩
  cases query : u.query with
  | none => simp [renderQuery]
  | some q =>
    exact List.forall_mem_cons.mpr
      ⟨by decide, fun c member => (inQuery_solid (settled.query q query c member)).1⟩

/-- Plain texts behind a base without a fragment have the same target only if they are the same. -/
theorem target_join (settled : u.IsSettled) (bare : u.fragment = none) (plain : IsPlainText cs)
    (plain' : IsPlainText ds) (unescaped : '%' ∉ cs) (unescaped' : '%' ∉ ds) :
    (u.withRest (Text.dropTrailing '/' u.hind ++ '/' :: cs)).target =
      (u.withRest (Text.dropTrailing '/' u.hind ++ '/' :: ds)).target ↔ cs = ds := by
  have base : IsPlainText u.hind := by
    rw [hind, bare, List.append_nil]
    exact settled.target_isPlainText
  have sent : ∀ {es : List Char}, IsPlainText es →
      (u.withRest (Text.dropTrailing '/' u.hind ++ '/' :: es)).target =
        spelled (Text.dropTrailing '/' u.hind ++ '/' :: es) := by
    intro es plain
    have joined := base.dropTrailing.join plain
    obtain ⟨rest, rooted⟩ := hind_join_rooted settled es
    rw [rooted] at joined ⊢
    exact target_withRest u joined
  rw [sent plain, sent plain']
  constructor
  · intro same
    have slashed := spelled_append_injective _ (by simpa using unescaped)
      (by simpa using unescaped') same
    exact (List.cons.inj slashed).2
  · rintro rfl
    rfl

theorem cleanedEnd_join (settled : u.IsSettled) (bare : u.fragment = none)
    (clean : cleanedEnd cs = cs) :
    cleanedEnd (Text.dropTrailing '/' u.hind ++ '/' :: cs) =
      Text.dropTrailing '/' u.hind ++ '/' :: cs := by
  have solid : ∀ c ∈ Text.dropTrailing '/' u.hind, 0x20 < c.toNat := by
    rw [hind, bare, List.append_nil]
    exact fun c member => settled.target_solid c ((List.rdropWhile_prefix _ _).subset member)
  rw [cleanedEnd_solid solid (by decide), clean]

/-- Every path below a base with a fragment has the same target. -/
theorem target_below_fragment (settled : u.IsSettled) (hashed : u.fragment ≠ none)
    (path path' : String) :
    (u.withRest (cleanedEnd (u.joinedHind path))).target =
      (u.withRest (cleanedEnd (u.joinedHind path'))).target := by
  obtain ⟨f, fragment⟩ := Option.ne_none_iff_exists'.mp hashed
  have hidden : ∀ path : String, ∃ rest,
      cleanedEnd (u.joinedHind path) = u.target ++ '#' :: rest := by
    intro path
    have kept := dropEndWhile_before (q := (· == '/')) (c := '#') (by decide) u.target f.toList
    rw [joinedHind, hind, fragment, Text.dropTrailing, kept, List.append_assoc, List.cons_append,
      cleanedEnd_solid settled.target_solid (by decide)]
    exact ⟨_, rfl⟩
  obtain ⟨rest, left⟩ := hidden path
  obtain ⟨rest', right⟩ := hidden path'
  rw [left, right]
  exact target_hashed u u.target rest rest'

end ExtensionAdmin.Url
