import Mathlib.Data.List.DropRight
import ExtensionAdmin.Http.Client
import ExtensionAdmin.Proofs.Fallible
import ExtensionAdmin.Proofs.Text.Trim

/-! URLs further below. Whether a text is read as a URL, and of which server, is settled by its
scheme and its authority. A text that is read as one is still read as one when a slash and anything
else follow it, since the authority ends before the slash. -/

namespace ExtensionAdmin.Url

open Text (dropWhile_before dropEndWhile_before)

variable {cs rest : List Char}

theorem dropWhile_further {q : Char → Bool} (left : cs.dropWhile q ≠ []) :
    (cs ++ rest).dropWhile q = cs.dropWhile q ++ rest := by
  rw [List.dropWhile_append, if_neg (by simpa using left)]

theorem takeWhile_further {q : Char → Bool} (left : cs.dropWhile q ≠ []) :
    (cs ++ rest).takeWhile q = cs.takeWhile q := by
  rw [List.takeWhile_append, if_neg]
  intro whole
  have parts := congrArg List.length (List.takeWhile_append_dropWhile (p := q) (l := cs))
  rw [List.length_append, whole] at parts
  exact left (List.length_eq_zero_iff.mp (by omega))

/-- What follows a slash does not change what is before it, if that ends in no blank. -/
theorem cleaned_further (before : List Char) {c : Char} (solid : ¬ c.toNat ≤ 0x20)
    (after : List Char) :
    ∃ left, cleaned (before ++ c :: '/' :: after) = cleaned (before ++ [c]) ++ '/' :: left := by
  have stop : (fun d : Char => decide (d.toNat ≤ 0x20)) c = false := by simpa using solid
  have kept := dropEndWhile_before (q := fun d : Char => decide (d.toNat ≤ 0x20)) (c := '/')
    (by decide) [] after
  rw [List.nil_append, List.nil_append] at kept
  rw [cleaned, cleaned, dropWhile_before stop, dropWhile_before stop, dropEndWhile_before stop,
    dropEndWhile_before stop, kept, List.append_cons, List.filter_append,
    List.filter_cons_of_pos (by decide)]
  exact ⟨_, rfl⟩

theorem splitScheme?_further {name left : List Char} (split : splitScheme? cs = some (name, left))
    (rest : List Char) : splitScheme? (cs ++ rest) = some (name, left ++ rest) := by
  cases cs with
  | nil => cases split
  | cons c cs =>
    simp only [splitScheme?, List.cons_append] at split ⊢
    split at split
    case isFalse => cases split
    case isTrue letter =>
      split at split
      case h_2 => cases split
      case h_1 found colon =>
        have some_left : (c :: cs).dropWhile isSchemeChar ≠ [] := by simp [colon]
        rw [← List.cons_append, dropWhile_further some_left, takeWhile_further some_left, colon,
          if_pos letter]
        cases split
        rfl

/-- The parts of a URL behind its scheme are there as soon as its host and port are. -/
theorem afterSlashes_ok_iff {scheme : Scheme} {host : Host} {port : Option Nat} :
    (∃ u, afterSlashes scheme cs = .ok u ∧ u.host = host ∧ u.port = port) ↔
      hostAndPort scheme.defaultPort (splitUserinfo (cs.takeWhile fun c => !endsAuthority c)).2 =
        .ok (host, port) := by
  unfold afterSlashes
  simp only [Fallible.bind_eq_ok, pure, Except.pure, Except.ok.injEq]
  constructor
  · rintro ⟨u, ⟨server, found, rfl⟩, rfl, rfl⟩
    exact found
  · intro found
    exact ⟨_, ⟨_, found, rfl⟩, rfl, rfl⟩

theorem afterSlashes_further {scheme : Scheme} {u : Url} (found : afterSlashes scheme cs = .ok u)
    (rest : List Char) :
    ∃ v, afterSlashes scheme (cs ++ '/' :: rest) = .ok v ∧ v.host = u.host ∧ v.port = u.port := by
  have same : (cs ++ '/' :: rest).takeWhile (fun c => !endsAuthority c) =
      cs.takeWhile fun c => !endsAuthority c := by
    rw [List.takeWhile_append]
    split
    case isTrue whole =>
      rw [List.takeWhile_cons_of_neg (by decide), List.append_nil]
      exact (List.takeWhile_prefix _).eq_of_length whole |>.symm
    case isFalse => rfl
  rw [afterSlashes_ok_iff, same, ← afterSlashes_ok_iff]
  exact ⟨u, found, rfl, rfl⟩

theorem afterSlashes_filled {scheme : Scheme} {u : Url} (found : afterSlashes scheme cs = .ok u) :
    cs ≠ [] := by
  rintro rfl
  cases found

theorem read_of_split {scheme : Scheme}
    (split : splitScheme? (cleaned cs) = some (scheme.name.toList, rest)) :
    read cs = (afterSlashes scheme (rest.dropWhile isSlash)).map .web := by
  rw [read, split]
  cases scheme with
  | http => rfl
  | https => rfl

/-- A text is a web address when its scheme is one of the web, and the rest is read behind its
slashes. -/
theorem read_eq_web {u : Url} : read cs = .ok (.web u) ↔ ∃ (scheme : Scheme) (rest : List Char),
    splitScheme? (cleaned cs) = some (scheme.name.toList, rest) ∧
      afterSlashes scheme (rest.dropWhile isSlash) = .ok u := by
  have spelled : Scheme.http.name.toList = ['h', 't', 't', 'p'] ∧
      Scheme.https.name.toList = ['h', 't', 't', 'p', 's'] := by decide
  constructor
  · intro found
    rw [read] at found
    split at found
    case h_1 => cases found
    case h_2 name rest split =>
      by_cases http : name = ['h', 't', 't', 'p']
      · rw [if_pos http] at found
        obtain ⟨w, ok, same⟩ := Fallible.exceptMap_eq_ok.mp found
        cases same
        exact ⟨.http, rest, by rw [split, http, spelled.1], ok⟩
      by_cases https : name = ['h', 't', 't', 'p', 's']
      · rw [if_neg http, if_pos https] at found
        obtain ⟨w, ok, same⟩ := Fallible.exceptMap_eq_ok.mp found
        cases same
        exact ⟨.https, rest, by rw [split, https, spelled.2], ok⟩
      -- Other schemes are checked in ways of their own, but none of them comes to a web address.
      · have apart : ∀ x : Except Fault Unit,
            (do x; pure (Reading.other (String.ofList name))) ≠ .ok (.web u) := by
          intro x web
          obtain ⟨_, _, same⟩ := Fallible.bind_eq_ok.mp web
          cases same
        simp only [if_neg http, if_neg https] at found
        split at found
        · exact absurd found (apart _)
        split at found
        · exact absurd found (apart _)
        split at found
        · exact absurd found (apart _)
        · cases found
  · rintro ⟨scheme, rest, split, ok⟩
    rw [read_of_split split, ok]
    rfl

/-- A web address is still one, of the same server, with a slash and anything else behind it. -/
theorem read_further {before : List Char} {c : Char} {u : Url} (solid : ¬ c.toNat ≤ 0x20)
    (found : read (before ++ [c]) = .ok (.web u)) (after : List Char) :
    ∃ v, read (before ++ c :: '/' :: after) = .ok (.web v) ∧ v.server = u.server := by
  obtain ⟨left, same⟩ := cleaned_further before solid after
  obtain ⟨scheme, rest, split, ok⟩ := read_eq_web.mp found
  have filled : rest.dropWhile isSlash ≠ [] := afterSlashes_filled ok
  obtain ⟨v, further, host, port⟩ := afterSlashes_further ok left
  refine ⟨v, read_eq_web.mpr ⟨scheme, rest ++ '/' :: left, ?_, ?_⟩, ?_⟩
  · rw [same, splitScheme?_further split]
  · rw [dropWhile_further filled, further]
  · rw [server, server, host, port]

theorem join_further (base : Url) {path : String} {inner : List Char} {c : Char} {u : Url}
    (rooted : path.toList = '/' :: (inner ++ [c])) (solid : ¬ c.toNat ≤ 0x20) (other : c ≠ '/')
    (found : base.join path = .ok (.web u)) (after : String) :
    ∃ v, base.join (path ++ "/" ++ after) = .ok (.web v) ∧ v.server = u.server := by
  have relative : ∀ s : String, s.toList.head? = some '/' → isAbsolute s = false := by
    intro s first
    obtain ⟨cs, spelled⟩ : ∃ cs, s.toList = '/' :: cs := by
      cases same : s.toList <;> simp_all
    rw [isAbsolute, spelled]
    rfl
  have further : (path ++ "/" ++ after).toList = '/' :: (inner ++ c :: '/' :: after.toList) := by
    simp [rooted]
  have before : ∀ left, Text.dropLeading '/' ('/' :: (inner ++ c :: left)) =
      ('/' :: inner).dropWhile (· == '/') ++ c :: left :=
    dropWhile_before (q := (· == '/')) (by simpa using other) ('/' :: inner)
  have near : isAbsolute path = false := relative path (by rw [rooted]; rfl)
  have far : isAbsolute (path ++ "/" ++ after) = false := relative _ (by rw [further]; rfl)
  rw [join, if_neg (by simp [near]), joined, rooted, before, ← List.cons_append,
    ← List.append_assoc] at found
  obtain ⟨v, ok, same⟩ := read_further solid found after.toList
  refine ⟨v, ?_, same⟩
  rw [join, if_neg (by simp [far]), joined, further, before]
  simpa using ok

end ExtensionAdmin.Url
