import ExtensionAdmin.Proofs.Url.Below
import ExtensionAdmin.Proofs.Url.Host
import ExtensionAdmin.Proofs.Url.Segments

/-! A URL keeps its authority when its path is changed. The text of a URL up to its path is read as
what it was written from, whatever follows the slash behind it: user name and password hold no
character that ends them, the host none that ends a host, and cleaning does not reach beyond the
slash. So every path below a base has the base's authority. -/

namespace ExtensionAdmin

namespace Url

open Text (dropEndWhile_before)

variable {c : Char} {cs rest : List Char} {u : Url}

theorem encode_inUserinfo (member : c ∈ encode inUserinfo cs) : inUserinfo c = false :=
  encode_reserved (by decide) (by decide) member

structure IsSettled (u : Url) : Prop where
  username : ∀ c ∈ u.username.toList, inUserinfo c = false
  password : ∀ c ∈ u.password.toList, inUserinfo c = false
  host : u.host.IsSound
  port : IsPort u.scheme.defaultPort u.port
  path : ∃ ss, ss ≠ [] ∧ (∀ s ∈ ss, IsSegment s) ∧ u.path.toList = '/' :: ['/'].intercalate ss
  query : ∀ q ∈ u.query, ∀ c ∈ q.toList, inQuery c = false

theorem tail_query {q : String} (found : (tail cs).1 = some q) :
    ∀ c ∈ q.toList, inQuery c = false := by
  simp only [tail] at found
  split at found
  · cases found
    rw [String.toList_ofList]
    exact fun c member => encode_reserved (by decide) (by decide) member
  · cases found

theorem afterSlashes_settled {scheme : Scheme} (found : afterSlashes scheme cs = .ok u) :
    u.IsSettled ∧ u.scheme = scheme := by
  unfold afterSlashes at found
  obtain ⟨⟨host, port⟩, served, same⟩ := Fallible.bind_eq_ok.mp found
  cases same
  obtain ⟨sound, known⟩ := hostAndPort_sound served
  refine ⟨⟨?_, ?_, sound, known, ?_, fun q found => tail_query found⟩, rfl⟩
  · intro c member
    rw [String.toList_ofList] at member
    exact encode_inUserinfo member
  · intro c member
    rw [String.toList_ofList] at member
    exact encode_inUserinfo member
  · obtain ⟨filled, segments⟩ := segments_sound
      ((cs.dropWhile fun c => !endsAuthority c).takeWhile fun c => c != '?' && c != '#')
    exact ⟨_, filled, segments, by rw [String.toList_ofList, renderSegments_eq filled]⟩

theorem read_settled (found : read cs = .ok (.web u)) : u.IsSettled := by
  obtain ⟨scheme, rest, -, ok⟩ := read_eq_web.mp found
  exact (afterSlashes_settled ok).1

theorem splitUserinfo_none (single : '@' ∉ cs) : splitUserinfo cs = (none, cs) := by
  rw [splitUserinfo, if_neg (by simpa using single)]

theorem splitUserinfo_some (single : '@' ∉ rest) :
    splitUserinfo (cs ++ '@' :: rest) = (some cs, rest) := by
  have last : ((cs ++ '@' :: rest).reverse.takeWhile (· != '@')).reverse = rest := by
    have apart : ∀ c ∈ rest.reverse, (c != '@') = true := by
      intro c member
      have other : c ≠ '@' := by
        rintro rfl
        exact single (List.mem_reverse.mp member)
      simpa using other
    rw [List.reverse_append, List.reverse_cons, List.append_assoc,
      List.takeWhile_append_of_pos apart]
    simp
  have size : (cs ++ '@' :: rest).length - rest.length - 1 = cs.length := by
    simp only [List.length_append, List.length_cons]
    omega
  rw [splitUserinfo, if_pos (by simp)]
  simp only [last, size, List.take_left]

theorem toNat_eq_space : c.toNat = 0x20 ↔ c = ' ' :=
  ⟨fun same => Char.toNat_inj.mp same, fun same => congrArg Char.toNat same⟩

/-- Characters of user names and passwords are not among those that mean something in an
authority. -/
theorem inUserinfo_firm (plain : inUserinfo c = false) : isFirm c = true ∧ c ≠ ':' := by
  simp only [inUserinfo, inPath, inFragment, isControl, Bool.or_eq_false_iff,
    beq_eq_false_iff_ne, ne_eq, decide_eq_false_iff_not] at plain
  simp only [isFirm, endsAuthority, Bool.and_eq_true, Bool.not_eq_true', Bool.or_eq_false_iff,
    beq_eq_false_iff_ne, bne_iff_ne, decide_eq_true_iff]
  have blank := toNat_eq_space (c := c)
  grind

def userText (u : Url) : List Char :=
  u.username.toList ++ (if u.password.isEmpty then [] else ':' :: u.password.toList)

theorem userinfo_userText (settled : u.IsSettled) :
    userinfo u.userText = (u.username, u.password) := by
  have apart : ∀ c ∈ u.username.toList, (c != ':') = true := by
    intro c member
    simpa using (inUserinfo_firm (settled.username c member)).2
  have name : u.userText.takeWhile (· != ':') = u.username.toList := by
    rw [userText, List.takeWhile_append_of_pos apart]
    split <;> simp
  have secret : (u.userText.dropWhile (· != ':')).drop 1 = u.password.toList := by
    rw [userText, List.dropWhile_append_of_pos apart]
    split
    case isTrue empty => simp [String.isEmpty_iff.mp empty]
    case isFalse => simp
  rw [userinfo, name, secret, encode_eq settled.username, encode_eq settled.password,
    String.ofList_toList, String.ofList_toList]

theorem server_eq (u : Url) : u.server = u.host.render ++ portText u.port := by
  rw [server]
  cases u.port <;> simp [portText]

theorem server_firm (settled : u.IsSettled) : ∀ c ∈ u.server, isFirm c = true := by
  rw [server_eq]
  refine List.forall_mem_append.mpr ⟨Host.render_firm settled.host, ?_⟩
  cases u.port with
  | none => simp [portText]
  | some n =>
    refine List.forall_mem_cons.mpr ⟨by decide, fun c member => ?_⟩
    obtain ⟨d, small, rfl⟩ := mem_toDigits (by decide) (by decide) member
    exact (digitChar_firm (by omega)).1

theorem userText_firm (settled : u.IsSettled) : ∀ c ∈ u.userText, isFirm c = true := by
  refine List.forall_mem_append.mpr
    ⟨fun c member => (inUserinfo_firm (settled.username c member)).1, ?_⟩
  split
  · simp
  · exact List.forall_mem_cons.mpr
      ⟨by decide, fun c member => (inUserinfo_firm (settled.password c member)).1⟩

theorem renderUserinfo_eq (u : Url) : u.renderUserinfo =
    if u.username.isEmpty && u.password.isEmpty then [] else u.userText ++ ['@'] := rfl

/-- The user and the server are found in an authority that is written for them. -/
theorem splitUserinfo_render (settled : u.IsSettled) :
    (splitUserinfo (u.renderUserinfo ++ u.server)).2 = u.server ∧
      userinfo ((splitUserinfo (u.renderUserinfo ++ u.server)).1.getD []) =
        (u.username, u.password) := by
  have single : '@' ∉ u.server := by
    intro member
    have firm := server_firm settled '@' member
    exact absurd firm (by decide)
  rw [renderUserinfo_eq]
  split
  case isTrue empty =>
    rw [Bool.and_eq_true, String.isEmpty_iff, String.isEmpty_iff] at empty
    rw [List.nil_append, splitUserinfo_none single, empty.1, empty.2]
    exact ⟨rfl, rfl⟩
  case isFalse =>
    rw [List.append_assoc, List.singleton_append, splitUserinfo_some single]
    exact ⟨rfl, userinfo_userText settled⟩

def withRest (u : Url) (rest : List Char) : Url :=
  { u with
    path := String.ofList (renderSegments (segments (rest.takeWhile fun c => c != '?' && c != '#')))
    query := (tail (rest.dropWhile fun c => c != '?' && c != '#')).1
    fragment := (tail (rest.dropWhile fun c => c != '?' && c != '#')).2 }

theorem authority_inside (settled : u.IsSettled) :
    ∀ c ∈ u.renderUserinfo ++ u.server, (!endsAuthority c) = true ∧ 0x20 < c.toNat := by
  have firm : ∀ c, isFirm c = true → (!endsAuthority c) = true ∧ 0x20 < c.toNat := by
    intro c firm
    simp only [isFirm, Bool.and_eq_true, decide_eq_true_iff] at firm
    exact ⟨firm.1.2, firm.1.1⟩
  refine List.forall_mem_append.mpr ⟨?_, fun c member => firm c (server_firm settled c member)⟩
  rw [renderUserinfo_eq]
  split
  · simp
  · refine List.forall_mem_append.mpr ⟨fun c member => firm c (userText_firm settled c member), ?_⟩
    simp
    decide

/-- An authority is read as it is written, up to the slash behind it. -/
theorem afterSlashes_front (settled : u.IsSettled) (rest : List Char) :
    afterSlashes u.scheme (u.renderUserinfo ++ u.server ++ '/' :: rest) =
      if u.host.isOverlong then .error .invalidDomain else .ok (u.withRest ('/' :: rest)) := by
  have inside : ∀ c ∈ u.renderUserinfo ++ u.server, (!endsAuthority c) = true :=
    fun c member => (authority_inside settled c member).1
  have authority : (u.renderUserinfo ++ u.server ++ '/' :: rest).takeWhile
      (fun c => !endsAuthority c) = u.renderUserinfo ++ u.server := by
    rw [List.takeWhile_append_of_pos inside, List.takeWhile_cons_of_neg (by decide),
      List.append_nil]
  have behind : (u.renderUserinfo ++ u.server ++ '/' :: rest).dropWhile
      (fun c => !endsAuthority c) = '/' :: rest := by
    rw [List.dropWhile_append_of_pos inside, List.dropWhile_cons_of_neg (by decide)]
  obtain ⟨server, user⟩ := splitUserinfo_render settled
  have served := hostAndPort_server settled.host settled.port
  rw [← server_eq] at served
  rw [afterSlashes]
  simp only [authority, behind, server, user, served]
  cases u.host.isOverlong <;> rfl

def front (u : Url) : List Char := u.renderScheme ++ (u.renderUserinfo ++ u.server)

theorem front_inside (settled : u.IsSettled) : ∀ c ∈ u.front, 0x20 < c.toNat := by
  refine List.forall_mem_append.mpr ⟨?_, fun c member => (authority_inside settled c member).2⟩
  rw [renderScheme]
  cases u.scheme <;> simp [Scheme.name]

/-- A text without the blanks at its end, and without tabs and line breaks. -/
def cleanedEnd (cs : List Char) : List Char :=
  (Text.dropEndWhile (fun c => c.toNat ≤ 0x20) cs).filter
    fun c => c != '\t' && c != '\n' && c != '\r'

theorem solid_kept (solid : 0x20 < c.toNat) : (c != '\t' && c != '\n' && c != '\r') = true := by
  simp only [Bool.and_eq_true, bne_iff_ne, ne_eq]
  refine ⟨⟨?_, ?_⟩, ?_⟩ <;> rintro rfl <;> revert solid <;> decide

/-- A character that is no blank ends what is dropped at the end. -/
theorem cleanedEnd_before (last : 0x20 < c.toNat) (cs rest : List Char) :
    cleanedEnd (cs ++ c :: rest) =
      (cs.filter fun c => c != '\t' && c != '\n' && c != '\r') ++ c :: cleanedEnd rest := by
  have stop : decide (c.toNat ≤ 0x20) = false := by simpa using last
  rw [cleanedEnd, dropEndWhile_before (q := fun c => decide (c.toNat ≤ 0x20)) stop,
    List.filter_append, List.filter_cons, if_pos (solid_kept last), cleanedEnd]

theorem cleanedEnd_solid (solid : ∀ c ∈ cs, 0x20 < c.toNat) (last : 0x20 < c.toNat)
    (rest : List Char) : cleanedEnd (cs ++ c :: rest) = cs ++ c :: cleanedEnd rest := by
  rw [cleanedEnd_before last, List.filter_eq_self.mpr fun c member => solid_kept (solid c member)]

theorem cleanedEnd_clean (clean : cleanedEnd cs = cs) (last : 0x20 < c.toNat) (rest : List Char) :
    cleanedEnd (cs ++ c :: rest) = cs ++ c :: cleanedEnd rest := by
  have kept : ∀ c ∈ cs, (c != '\t' && c != '\n' && c != '\r') = true := by
    intro c member
    rw [← clean] at member
    exact (List.mem_filter.mp member).2
  rw [cleanedEnd_before last, List.filter_eq_self.mpr kept]

theorem cleaned_front (settled : u.IsSettled) (rest : List Char) :
    cleaned (u.front ++ '/' :: rest) = u.front ++ '/' :: cleanedEnd rest := by
  have begins : (u.front ++ '/' :: rest).dropWhile (fun c => decide (c.toNat ≤ 0x20)) =
      u.front ++ '/' :: rest := by
    rw [front, renderScheme]
    cases u.scheme <;> rfl
  rw [cleaned, begins, ← cleanedEnd, cleanedEnd_solid (front_inside settled) (by decide)]

theorem splitScheme?_front (u : Url) (rest : List Char) :
    splitScheme? (u.front ++ rest) =
      some (u.scheme.name.toList, '/' :: '/' :: (u.renderUserinfo ++ u.server ++ rest)) := by
  rw [front, renderScheme]
  cases u.scheme <;> rfl

/-- The slashes behind a scheme end where an authority begins. -/
theorem dropWhile_isSlash (filled : cs ≠ []) (inside : ∀ c ∈ cs, (!endsAuthority c) = true)
    (rest : List Char) : ('/' :: '/' :: (cs ++ rest)).dropWhile isSlash = cs ++ rest := by
  obtain ⟨c, cs, rfl⟩ := List.exists_cons_of_ne_nil filled
  have first := inside c List.mem_cons_self
  have other : isSlash c = false := by
    simp only [endsAuthority, Bool.not_eq_true', Bool.or_eq_false_iff] at first
    simp only [isSlash, Bool.or_eq_false_iff]
    exact first.1.1
  rw [List.dropWhile_cons_of_pos (by decide), List.dropWhile_cons_of_pos (by decide),
    List.cons_append, List.dropWhile_cons_of_neg (by simp [other])]

theorem authority_ne_nil (settled : u.IsSettled) : u.renderUserinfo ++ u.server ≠ [] := by
  rw [server_eq]
  simp [Host.render_ne_nil settled.host]

/-- What follows the front of a URL is read as its path, query and fragment, and all else is as
it was, unless the host has a label that is too long by now. -/
theorem read_front (settled : u.IsSettled) (rest : List Char) :
    read (u.front ++ '/' :: rest) =
      if u.host.isOverlong then .error .invalidDomain
      else .ok (.web (u.withRest ('/' :: cleanedEnd rest))) := by
  have split := splitScheme?_front u ('/' :: cleanedEnd rest)
  rw [← cleaned_front settled] at split
  have inside : ∀ c ∈ u.renderUserinfo ++ u.server, (!endsAuthority c) = true :=
    fun c member => (authority_inside settled c member).1
  rw [read_of_split split, dropWhile_isSlash (authority_ne_nil settled) inside,
    afterSlashes_front settled]
  cases u.host.isOverlong <;> rfl

def hind (u : Url) : List Char :=
  u.target ++
    (match u.fragment with
    | none => []
    | some f => '#' :: f.toList)

theorem render_eq (u : Url) : u.render = u.front ++ u.hind := by
  rw [render, front, hind]
  cases u.fragment <;> simp only [List.append_assoc]

theorem hind_rooted (settled : u.IsSettled) : ∃ rest, u.hind = '/' :: rest := by
  obtain ⟨ss, -, -, path⟩ := settled.path
  exact ⟨_, by rw [hind, target, path, List.cons_append, List.cons_append]⟩

/-- What stands behind the authority of a base when a path has been joined to it, without the slash
that comes first. -/
def joinedHind (base : Url) (path : String) : List Char :=
  Text.dropTrailing '/' base.hind ++ '/' :: Text.dropLeading '/' path.toList

theorem joined_eq (settled : u.IsSettled) (path : String) :
    joined u path = u.front ++ u.joinedHind path := by
  have served : u.server ≠ [] := by
    rw [server_eq]
    simp [Host.render_ne_nil settled.host]
  obtain ⟨before, last, spelled⟩ := (List.eq_nil_or_concat' u.server).resolve_left served
  have other : (last == '/') = false := by
    have firm := server_firm settled last (by simp [spelled])
    refine beq_eq_false_iff_ne.mpr ?_
    rintro rfl
    exact absurd firm (by decide)
  have kept := dropEndWhile_before (q := (· == '/')) other
    (u.renderScheme ++ (u.renderUserinfo ++ before)) u.hind
  rw [joined, joinedHind, render_eq, front, spelled]
  simp only [Text.dropTrailing, List.append_assoc, List.singleton_append] at kept ⊢
  rw [kept]
  simp only [List.append_assoc, List.cons_append]

theorem dropTrailing_rooted (x c : Char) (cs : List Char) :
    Text.dropTrailing x (c :: cs) = [] ∨ ∃ rest, Text.dropTrailing x (c :: cs) = c :: rest := by
  have front : Text.dropTrailing x (c :: cs) <+: c :: cs := List.rdropWhile_prefix _ _
  exact (List.prefix_cons_iff.mp front).imp_right fun ⟨rest, same, _⟩ => ⟨rest, same⟩

theorem hind_join_rooted (settled : u.IsSettled) (cs : List Char) :
    ∃ rest, Text.dropTrailing '/' u.hind ++ '/' :: cs = '/' :: rest := by
  obtain ⟨hind, rooted⟩ := hind_rooted settled
  rw [rooted]
  rcases dropTrailing_rooted '/' '/' hind with empty | ⟨rest, kept⟩
  · exact ⟨_, by rw [empty, List.nil_append]⟩
  · exact ⟨_, by rw [kept, List.cons_append]⟩

/-- A path below a base has the base's authority, whatever it holds. -/
theorem join_base (settled : u.IsSettled) {path : String} (relative : isAbsolute path = false) :
    u.join path =
      if u.host.isOverlong then .error .invalidDomain
      else .ok (.web (u.withRest (cleanedEnd (u.joinedHind path)))) := by
  obtain ⟨rest, rooted⟩ := hind_join_rooted settled (Text.dropLeading '/' path.toList)
  rw [← joinedHind] at rooted
  have cleaned : cleanedEnd ([] ++ '/' :: rest) = [] ++ '/' :: cleanedEnd rest :=
    cleanedEnd_solid (by simp) (by decide) rest
  rw [List.nil_append, List.nil_append] at cleaned
  rw [join, if_neg (by simp [relative]), joined_eq settled, rooted, read_front settled, cleaned]

theorem cleaned_solid (solid : ∀ c ∈ cs, 0x20 < c.toNat) : cleaned cs = cs := by
  have none : ∀ ds : List Char, (∀ c ∈ ds, 0x20 < c.toNat) →
      ds.dropWhile (fun c => decide (c.toNat ≤ 0x20)) = ds := by
    intro ds solid
    cases ds with
    | nil => rfl
    | cons d ds => exact List.dropWhile_cons_of_neg (by simpa using solid d List.mem_cons_self)
  have ends : Text.dropEndWhile (fun c => decide (c.toNat ≤ 0x20)) cs = cs := by
    rw [Text.dropEndWhile, none cs.reverse (by simpa using solid), List.reverse_reverse]
  rw [cleaned, none cs solid, ends, List.filter_eq_self]
  exact fun c member => solid_kept (solid c member)

theorem read_host {host : Host} (filled : cs ≠ []) (firm : ∀ c ∈ cs, isFirm c = true)
    (whole : hostLength false cs = cs.length) (named : Host.read cs = .ok host) :
    read (['h', 't', 't', 'p', ':', '/', '/'] ++ cs) =
      .ok (.web ⟨.http, "", "", host, none, "/", none, none⟩) := by
  -- Nothing in the host ends the authority or is trimmed off, and there is neither a name of a user
  -- nor a port.
  have parts : ∀ c ∈ cs, 0x20 < c.toNat ∧ (!endsAuthority c) = true ∧ c ≠ '@' := by
    intro c member
    have here := firm c member
    simp only [isFirm, Bool.and_eq_true, decide_eq_true_iff, bne_iff_ne] at here
    exact ⟨here.1.1, here.1.2, here.2⟩
  have inside : ∀ c ∈ cs, (!endsAuthority c) = true := fun c member => (parts c member).2.1
  have single : '@' ∉ cs := fun member => (parts '@' member).2.2 rfl
  have solid : ∀ c ∈ ['h', 't', 't', 'p', ':', '/', '/'] ++ cs, 0x20 < c.toNat :=
    List.forall_mem_append.mpr ⟨by simp, fun c member => (parts c member).1⟩
  have split : splitScheme? (['h', 't', 't', 'p', ':', '/', '/'] ++ cs) =
      some (Scheme.http.name.toList, '/' :: '/' :: cs) := rfl
  have unslashed := dropWhile_isSlash filled inside []
  rw [List.append_nil] at unslashed
  rw [← cleaned_solid solid] at split
  have authority : cs.takeWhile (fun c => !endsAuthority c) = cs :=
    List.takeWhile_eq_self_iff.mpr inside
  have behind : cs.dropWhile (fun c => !endsAuthority c) = [] :=
    List.dropWhile_eq_nil_iff.mpr inside
  have server : hostAndPort Scheme.http.defaultPort cs = .ok (host, none) := by
    rw [hostAndPort, whole, List.take_length, List.drop_length, named]
    simp [filled, bind, Except.bind, pure, Except.pure, port?]
  rw [read_of_split split, unslashed, afterSlashes]
  simp only [authority, behind, splitUserinfo_none single, server]
  rfl

end Url

end ExtensionAdmin
