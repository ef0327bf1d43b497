import ExtensionAdmin.Proofs.Url.Address
import ExtensionAdmin.Proofs.Url.Domain
import ExtensionAdmin.Url.Basic

/-! Servers are read as they are written. A host that has been read is read once more as the same
host, unless it is a domain with a label that is too long by now. What is written for a host, and
for a port after it, holds no character that would end the server or be dropped. -/

namespace ExtensionAdmin.Url

open Text (isAscii splitOn)

variable {c : Char} {cs name rest : List Char}

def Host.isOverlong : Host → Bool
  | .domain name => hasOverlongLabel name.toList
  | .ipv4 _ => false
  | .ipv6 _ => false

def Host.IsSound : Host → Prop
  | .domain name => (∃ bytes, asciiDomain bytes = .ok name.toList) ∧ name.toList ≠ [] ∧
      endsInNumber name.toList = false
  | .ipv4 n => n < 256 ^ 4
  | .ipv6 gs => gs.length = 8 ∧ ∀ g ∈ gs, g < 65536

theorem read_of_domain (unbracketed : cs.head? ≠ some '[') : Host.read cs = do
    let name ← asciiDomain (decode cs)
    if name.isEmpty then throw .emptyHost
    else if endsInNumber name then
      match ipv4? name with
      | some n => return .ipv4 n
      | none => throw .invalidIpv4
    else return .domain (String.ofList name) := by
  unfold Host.read
  split
  case h_1 => exact absurd rfl unbracketed
  case h_2 => rfl

theorem Host.read_sound {host : Host} (found : Host.read cs = .ok host) : host.IsSound := by
  unfold Host.read at found
  split at found
  -- In brackets stands an address of the sixth version; everything else is read as a domain first.
  case h_1 =>
    split at found
    case isFalse => cases found
    case isTrue =>
      split at found
      case h_1 gs read =>
        cases found
        exact ipv6?_sound read
      case h_2 => cases found
  case h_2 =>
    obtain ⟨name, ascii, found⟩ := Fallible.bind_eq_ok.mp found
    split at found
    case isTrue => cases found
    case isFalse filled =>
      split at found
      case isTrue =>
        split at found
        case h_1 n read =>
          cases found
          exact ipv4?_lt read
        case h_2 => cases found
      case isFalse named =>
        cases found
        rw [Host.IsSound, String.toList_ofList]
        exact ⟨⟨_, ascii⟩, by simpa using filled, Bool.eq_false_iff.mpr named⟩

theorem IsPlain.unbracketed (plain : IsPlain name) : name.head? ≠ some '[' := by
  intro bracket
  have allowed := plain.allowed '[' (List.mem_of_mem_head? bracket)
  exact absurd allowed (by decide)

theorem mem_renderIpv4 {n : Nat} (member : c ∈ renderIpv4 n) :
    c = '.' ∨ ∃ d < 10, c = d.digitChar := by
  rcases Text.mem_intercalate.mp member with ⟨part, among, within⟩ | ⟨dot, -⟩
  · obtain ⟨b, -, rfl⟩ := List.mem_map.mp among
    exact Or.inr (mem_toDigits (by decide) (by decide) within)
  · exact Or.inl dot

theorem isPlain_renderIpv4 (n : Nat) : IsPlain (renderIpv4 n) := by
  have all : ∀ c ∈ renderIpv4 n, isAscii c = true ∧ Domain.isCapital c.toNat = false ∧
      isForbidden c = false := by
    intro c member
    rcases mem_renderIpv4 member with rfl | ⟨d, small, rfl⟩
    · decide
    · have digits : ∀ e ∈ List.range 10, isAscii e.digitChar = true ∧
        Domain.isCapital e.digitChar.toNat = false ∧ isForbidden e.digitChar = false := by decide
      exact digits d (List.mem_range.mpr small)
  exact ⟨fun c member => (all c member).1, fun c member => (all c member).2.1,
    fun c member => (all c member).2.2⟩

theorem asciiDomain_renderIpv4 (n : Nat) :
    asciiDomain (decode (renderIpv4 n)) = .ok (renderIpv4 n) := by
  refine asciiDomain_unencoded (isPlain_renderIpv4 n) fun label member => ?_
  rw [splitOn_renderIpv4] at member
  obtain ⟨b, -, rfl⟩ := List.mem_map.mp member
  refine Bool.eq_false_iff.mpr fun encoded => ?_
  have mark : 'x' ∈ Nat.toDigits 10 b := by
    rw [isEncodedLabel, beq_iff_eq] at encoded
    exact List.mem_of_mem_take (encoded ▸ List.mem_cons_self)
  exact toDigits_ten_ne (by decide) b mark

/-- A host is read once more as the same host, unless a label of it is too long by now. -/
theorem Host.read_render {host : Host} (sound : host.IsSound) :
    Host.read host.render = if host.isOverlong then .error .invalidDomain else .ok host := by
  cases host with
  | domain name =>
    obtain ⟨⟨bytes, found⟩, filled, named⟩ := sound
    rw [Host.render, read_of_domain (asciiDomain_plain found).unbracketed, asciiDomain_again found,
      Host.isOverlong]
    cases hasOverlongLabel name.toList with
    | true => rfl
    | false => simp [bind, Except.bind, filled, named, pure, Except.pure]
  | ipv4 n =>
    have filled : renderIpv4 n ≠ [] := by
      intro empty
      have number := endsInNumber_renderIpv4 n
      rw [empty] at number
      exact absurd number (by decide)
    rw [Host.render, read_of_domain (isPlain_renderIpv4 n).unbracketed, asciiDomain_renderIpv4]
    simp [bind, Except.bind, filled, endsInNumber_renderIpv4, ipv4?_renderIpv4 sound, pure,
      Except.pure, Host.isOverlong]
  | ipv6 gs =>
    rw [Host.render, List.cons_append, Host.read, List.getLast?_concat, if_pos rfl,
      List.dropLast_concat, ipv6?_renderIpv6 sound.1 sound.2]
    rfl

/-- Whether a character stays where it is in the authority of a URL: it is no blank, which is
dropped at the ends of a text, ends no authority, and parts no user from a server. -/
def isFirm (c : Char) : Bool := 0x20 < c.toNat && !endsAuthority c && c != '@'

theorem isFirm_of_allowed (allowed : isForbidden c = false) : isFirm c = true := by
  simp only [isForbidden, Bool.or_eq_false_iff, beq_eq_false_iff_ne, ne_eq,
    decide_eq_false_iff_not] at allowed
  simp only [isFirm, endsAuthority, Bool.and_eq_true, Bool.not_eq_true', Bool.or_eq_false_iff,
    beq_eq_false_iff_ne, bne_iff_ne, decide_eq_true_iff]
  grind

theorem digitChar_firm {d : Nat} (small : d < 16) :
    isFirm d.digitChar = true ∧ d.digitChar ≠ ']' ∧ d.digitChar ≠ '.' := by
  have all : ∀ e ∈ List.range 16,
      isFirm e.digitChar = true ∧ e.digitChar ≠ ']' ∧ e.digitChar ≠ '.' := by decide
  exact all d (List.mem_range.mpr small)

theorem mem_renderGroups {xs : List Nat} (member : c ∈ renderGroups xs) :
    c = ':' ∨ ∃ d < 16, c = d.digitChar := by
  rcases Text.mem_intercalate.mp member with ⟨part, among, within⟩ | ⟨colon, -⟩
  · obtain ⟨n, -, rfl⟩ := List.mem_map.mp among
    exact Or.inr (mem_toDigits (by decide) (by decide) within)
  · exact Or.inl colon

theorem mem_renderIpv6 {gs : List Nat} (member : c ∈ renderIpv6 gs) :
    c = ':' ∨ ∃ d < 16, c = d.digitChar := by
  simp only [renderIpv6] at member
  split at member
  · exact mem_renderGroups member
  · rcases List.mem_append.mp member with front | back
    · rcases List.mem_append.mp front with before | gap
      · exact mem_renderGroups before
      · simp at gap
        exact Or.inl gap
    · exact mem_renderGroups back

theorem Host.render_firm {host : Host} (sound : host.IsSound) :
    ∀ c ∈ host.render, isFirm c = true := by
  cases host with
  | domain name =>
    obtain ⟨⟨bytes, found⟩, -⟩ := sound
    exact fun c member => isFirm_of_allowed ((asciiDomain_plain found).allowed c member)
  | ipv4 n => exact fun c member => isFirm_of_allowed ((isPlain_renderIpv4 n).allowed c member)
  | ipv6 gs =>
    intro c member
    simp only [Host.render, List.cons_append, List.mem_cons, List.mem_append, List.not_mem_nil,
      or_false] at member
    rcases member with rfl | within | rfl
    · decide
    · rcases mem_renderIpv6 within with rfl | ⟨d, small, rfl⟩
      · decide
      · exact (digitChar_firm small).1
    · decide

theorem Host.render_ne_nil {host : Host} (sound : host.IsSound) : host.render ≠ [] := by
  cases host with
  | domain name => exact sound.2.1
  | ipv4 n =>
    intro empty
    have number := endsInNumber_renderIpv4 n
    rw [Host.render] at empty
    rw [empty] at number
    exact absurd number (by decide)
  | ipv6 gs => simp [Host.render]

theorem hostLength_outside (plain : ∀ c ∈ cs, c ≠ ':' ∧ c ≠ '[') (rest : List Char) :
    hostLength false (cs ++ rest) = cs.length + hostLength false rest := by
  induction cs with
  | nil => simp
  | cons c cs ih =>
    obtain ⟨⟨colon, bracket⟩, later⟩ := List.forall_mem_cons.mp plain
    rw [List.cons_append, hostLength, if_neg (by simp [colon]), if_neg bracket]
    simp only [ite_self, ih later, List.length_cons]
    omega

theorem hostLength_inside (within : ∀ c ∈ cs, c ≠ ']') (rest : List Char) :
    hostLength true (cs ++ ']' :: rest) = cs.length + 1 + hostLength false rest := by
  induction cs with
  | nil => simp [hostLength, Nat.add_comm]
  | cons c cs ih =>
    obtain ⟨here, later⟩ := List.forall_mem_cons.mp within
    rw [List.cons_append, hostLength, if_neg (by simp), if_neg here]
    simp only [ite_self, ih later, List.length_cons]
    omega

/-- The host ends where it ended when it was written. -/
theorem hostLength_render {host : Host} (sound : host.IsSound)
    (colon : ∀ c ∈ rest.head?, c = ':') :
    hostLength false (host.render ++ rest) = host.render.length := by
  have stop : hostLength false rest = 0 := by
    cases rest with
    | nil => rfl
    | cons c rest =>
      rw [colon c rfl]
      rfl
  have unparted : ∀ c, isForbidden c = false → c ≠ ':' ∧ c ≠ '[' := by
    rintro c allowed
    constructor <;> rintro rfl <;> revert allowed <;> decide
  -- A colon ends a host outside of brackets alone, and only the last kind of host has brackets.
  cases host with
  | domain name =>
    obtain ⟨⟨bytes, found⟩, -⟩ := sound
    have plain := asciiDomain_plain found
    rw [Host.render, hostLength_outside fun c member => unparted c (plain.allowed c member), stop,
      Nat.add_zero]
  | ipv4 n =>
    have plain := isPlain_renderIpv4 n
    rw [Host.render, hostLength_outside fun c member => unparted c (plain.allowed c member), stop,
      Nat.add_zero]
  | ipv6 gs =>
    have within : ∀ c ∈ renderIpv6 gs, c ≠ ']' := by
      intro c member
      rcases mem_renderIpv6 member with rfl | ⟨d, small, rfl⟩
      · decide
      · exact (digitChar_firm small).2.1
    rw [Host.render, List.append_assoc, List.cons_append, hostLength, if_neg (by simp), if_pos rfl,
      List.singleton_append, hostLength_inside within, stop]
    simp

theorem readPort_append (n : Nat) (cs ds : List Char) :
    readPort n (cs ++ ds) = readPort n cs >>= fun m => readPort m ds := by
  induction cs generalizing n with
  | nil => rfl
  | cons c cs ih =>
    rw [List.cons_append, readPort, readPort]
    dsimp only
    split
    · split
      · rfl
      · exact ih _
    · rfl

theorem readPort_toDigits (n : Nat) (small : n ≤ 65535) :
    readPort 0 (Nat.toDigits 10 n) = .ok n := by
  have digit : ∀ m d, d < 10 → m * 10 + d ≤ 65535 →
      readPort m [d.digitChar] = .ok (m * 10 + d) := by
    intro m d ten fits
    have value : d.digitChar.toNat - 0x30 = d := by
      rw [Nat.toNat_digitChar_of_lt_ten ten]
      omega
    have isDigit : d.digitChar.isDigit = true := by
      have all : ∀ e ∈ List.range 10, e.digitChar.isDigit = true := by decide
      exact all d (List.mem_range.mpr ten)
    rw [readPort, if_pos isDigit, value]
    dsimp only
    rw [if_neg (Nat.not_lt.mpr fits), readPort]
  -- All digits but the last are those of a tenth of the number.
  induction n using Nat.strongRecOn with
  | _ n ih =>
    rcases Nat.lt_or_ge n 10 with few | large
    · have once := digit 0 n few (by omega)
      rwa [Nat.zero_mul, Nat.zero_add, ← Nat.toDigits_of_lt_base few] at once
    · rw [Nat.toDigits_of_base_le (by decide) large, readPort_append,
        ih (n / 10) (by omega) (by omega)]
      have last := digit (n / 10) (n % 10) (Nat.mod_lt n (by decide)) (by omega)
      rwa [Nat.div_add_mod'] at last

theorem readPort_le {n m : Nat} (found : readPort n cs = .ok m) (small : n ≤ 65535) :
    m ≤ 65535 := by
  induction cs generalizing n with
  | nil =>
    cases found
    exact small
  | cons c cs ih =>
    rw [readPort] at found
    dsimp only at found
    split at found
    · split at found
      · cases found
      · exact ih found (by omega)
    · cases found

def portText : Option Nat → List Char
  | none => []
  | some n => ':' :: Nat.toDigits 10 n

def IsPort (default : Nat) (port : Option Nat) : Prop := ∀ n ∈ port, n ≤ 65535 ∧ n ≠ default

theorem port?_sound {default : Nat} {port : Option Nat} (found : port? default cs = .ok port) :
    IsPort default port := by
  unfold port? at found
  split at found
  · cases found
    intro n none
    cases none
  · obtain ⟨m, read, rfl⟩ := Fallible.exceptMap_eq_ok.mp found
    intro n same
    split at same
    · cases same
    case isFalse other =>
      cases same
      exact ⟨readPort_le read (by decide), other⟩

theorem port?_portText {default : Nat} {port : Option Nat} (sound : IsPort default port) :
    port? default ((portText port).drop 1) = .ok port := by
  cases port with
  | none => rfl
  | some n =>
    obtain ⟨small, other⟩ := sound n rfl
    rw [portText, List.drop_one, List.tail_cons, port?, if_neg (by simp [Nat.toDigits_ne_nil]),
      readPort_toDigits n small]
    simp [Except.map, other]

/-- A server is read as it is written, unless its host has a label that is too long by now. -/
theorem hostAndPort_server {default : Nat} {host : Host} {port : Option Nat} (sound : host.IsSound)
    (known : IsPort default port) : hostAndPort default (host.render ++ portText port) =
      if host.isOverlong then .error .invalidDomain else .ok (host, port) := by
  have colon : ∀ c ∈ (portText port).head?, c = ':' := by
    cases port <;> simp [portText]
  rw [hostAndPort, hostLength_render sound colon, List.take_left, List.drop_left,
    Host.read_render sound, port?_portText known]
  have filled := Host.render_ne_nil sound
  cases host.isOverlong <;> simp [bind, Except.bind, pure, Except.pure, filled]

theorem hostAndPort_sound {default : Nat} {host : Host} {port : Option Nat}
    (found : hostAndPort default cs = .ok (host, port)) : host.IsSound ∧ IsPort default port := by
  unfold hostAndPort at found
  dsimp only at found
  split at found
  · cases found
  · obtain ⟨read, named, found⟩ := Fallible.bind_eq_ok.mp found
    obtain ⟨text, ported, same⟩ := Fallible.bind_eq_ok.mp found
    cases same
    exact ⟨Host.read_sound named, port?_sound ported⟩

end ExtensionAdmin.Url
