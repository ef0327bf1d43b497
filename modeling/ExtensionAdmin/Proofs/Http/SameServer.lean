import ExtensionAdmin.Http.Client
import ExtensionAdmin.Proofs.Url.Authority
import ExtensionAdmin.Proofs.Url.FarLabel
import ExtensionAdmin.Proofs.Url.Ideograph

/-! Requests stay on the server of the settings. A path that is no URL of its own leads to the
server that a client was built for, as the same user: what is joined to the base stands behind its
authority. The base is read once more for that, which finds the same authority unless a label of its
host has become too long in ASCII; then no path leads anywhere. -/

namespace ExtensionAdmin

structure Url.SameServer (u v : Url) : Prop where
  scheme : u.scheme = v.scheme
  username : u.username = v.username
  password : u.password = v.password
  host : u.host = v.host
  port : u.port = v.port

theorem Url.withRest_sameServer (u : Url) (rest : List Char) : (u.withRest rest).SameServer u :=
  ⟨rfl, rfl, rfl, rfl, rfl⟩

theorem Settings.endpoint_settled {s : Settings} {base : Url} (found : s.endpoint = .ok base) :
    base.IsSettled := by
  unfold endpoint Url.parse at found
  split at found
  case h_1 => cases found
  case h_2 => cases found
  case h_3 url read =>
    cases found
    exact Url.read_settled read

theorem Settings.endpoint_of_valid {s : Settings} (valid : s.validate = .ok ()) :
    ∃ base, s.endpoint = .ok base := by
  cases found : s.endpoint with
  | ok base => exact ⟨base, rfl⟩
  | error fault =>
    rw [validate, found] at valid
    cases valid

theorem Settings.validate_of_endpoint {s : Settings} {base : Url} (found : s.endpoint = .ok base)
    (token : Text.blank s.authToken = false) (version : Text.blank s.apiVersion = false)
    (timeout : s.timeout ≠ 0) : s.validate = .ok () := by
  rw [validate, found]
  simp only [token, version, if_neg timeout]
  rfl

namespace Http.Client

theorem ofSettings_eq_ok_iff {s : Settings} {c : Client} :
    ofSettings s = .ok c ↔ s.validate = .ok () ∧
      ∃ base, s.endpoint = .ok base ∧ c = ⟨base, s.apiVersion, s.authToken⟩ := by
  rw [ofSettings, Fallible.bind_eq_ok]
  constructor
  · rintro ⟨_, valid, built⟩
    obtain ⟨base, found, same⟩ := Fallible.bind_eq_ok.mp built
    cases same
    exact ⟨valid, base, found, rfl⟩
  · rintro ⟨valid, base, found, rfl⟩
    exact ⟨(), valid, Fallible.bind_eq_ok.mpr ⟨base, found, rfl⟩⟩

theorem ofSettings_settled {s : Settings} {c : Client} (built : ofSettings s = .ok c) :
    c.base.IsSettled := by
  obtain ⟨-, base, found, rfl⟩ := ofSettings_eq_ok_iff.mp built
  exact s.endpoint_settled found

/-- A path that is no URL of its own leads to the base with another path, or nowhere. -/
theorem url_relative {c : Client} (settled : c.base.IsSettled) {path : String}
    (relative : Url.isAbsolute path = false) :
    c.url path =
      if c.base.host.isOverlong then .error (.invalidUrl .invalidDomain)
      else .ok (c.base.withRest (Url.cleanedEnd (c.base.joinedHind path))) := by
  rw [url, Url.join_base settled relative]
  cases c.base.host.isOverlong <;> rfl

/-- The session token stays on the configured server. With settings that are valid, every path
that is no URL of its own leads to the server of their endpoint, in the same way and as the same
user, whatever the path holds and whatever stands behind the endpoint's authority. The host may have
a label that is too long to be read once more; then no such path leads anywhere. -/
theorem path_keeps_server {s : Settings} (valid : s.validate = .ok ()) :
    ∃ c, ofSettings s = .ok c ∧ s.endpoint = .ok c.base ∧
      ∀ path, Url.isAbsolute path = false →
        if c.base.host.isOverlong then c.url path = .error (.invalidUrl .invalidDomain)
        else ∃ u, c.url path = .ok u ∧ u.SameServer c.base := by
  obtain ⟨base, found⟩ := s.endpoint_of_valid valid
  have settled := s.endpoint_settled found
  refine ⟨⟨base, s.apiVersion, s.authToken⟩,
    ofSettings_eq_ok_iff.mpr ⟨valid, base, found, rfl⟩, found, fun path relative => ?_⟩
  have led := url_relative (c := ⟨base, s.apiVersion, s.authToken⟩) settled relative
  cases long : base.host.isOverlong with
  | true =>
    rw [if_pos rfl]
    rwa [if_pos long] at led
  | false =>
    rw [if_neg Bool.false_ne_true]
    rw [if_neg (by simp [long])] at led
    exact ⟨_, led, base.withRest_sameServer _⟩

def portalSettings : Settings := ⟨"http://Admin:key@H:8080/portal/?q#f", "29.0", "token", 30⟩

def portalBase : Url :=
  ⟨.http, "Admin", "key", .domain "h", some 8080, "/portal/", some "q", some "f"⟩

theorem portal_keeps_server : portalSettings.validate = .ok () ∧
    Url.isAbsolute "\\\\@other:1/x" = false ∧ ∃ c u, ofSettings portalSettings = .ok c ∧
      c.url "\\\\@other:1/x" = .ok u ∧ u.SameServer portalBase := by
  have valid : portalSettings.validate = .ok () := rfl
  have base : portalSettings.endpoint = .ok portalBase := rfl
  have relative : Url.isAbsolute "\\\\@other:1/x" = false := by decide
  obtain ⟨c, built, found, keeps⟩ := path_keeps_server valid
  obtain same : portalBase = c.base := Except.ok.inj (base.symm.trans found)
  have led := keeps "\\\\@other:1/x" relative
  rw [← same, if_neg (by decide)] at led
  obtain ⟨u, url, server⟩ := led
  exact ⟨valid, relative, c, u, built, url, server⟩

def labelSettings (label : List Char) : Settings :=
  ⟨String.ofList (['h', 't', 't', 'p', ':', '/', '/'] ++ label), "29.0", "token", 30⟩

variable {label : List Char}

theorem labelSettings_endpoint (ideographs : ∀ c ∈ label, Url.Domain.isIdeograph c.toNat = true)
    (filled : label ≠ []) (short : label.length ≤ 1000)
    (long : 2000 < (Url.Punycode.encode label).length) :
    ∃ base, (labelSettings label).endpoint = .ok base ∧ base.host.isOverlong = true := by
  obtain ⟨host, overlong⟩ := Url.Host.read_ideographs ideographs filled short
  have read := Url.read_host filled (fun c member => Url.isFirm_ideograph (ideographs c member))
    (Url.hostLength_ideographs ideographs) host
  refine ⟨⟨.http, "", "", .domain (String.ofList (Url.encodedName label)), none, "/", none, none⟩,
    ?_, overlong.mpr long⟩
  rw [Settings.endpoint, Url.parse, labelSettings, String.toList_ofList, read]

/-- A name of one label leads nowhere if it is too long to be read once more when it is written in
ASCII. -/
theorem labelSettings_nowhere (ideographs : ∀ c ∈ label, Url.Domain.isIdeograph c.toNat = true)
    (filled : label ≠ []) (short : label.length ≤ 1000)
    (long : 2000 < (Url.Punycode.encode label).length) :
    (labelSettings label).validate = .ok () ∧ ∃ c, ofSettings (labelSettings label) = .ok c ∧
      ∀ path, Url.isAbsolute path = false → ¬ ∃ u, c.url path = .ok u := by
  obtain ⟨base, found, overlong⟩ := labelSettings_endpoint ideographs filled short long
  have valid := Settings.validate_of_endpoint found (by decide : Text.blank "token" = false)
    (by decide : Text.blank "29.0" = false) (by decide : 30 ≠ 0)
  refine ⟨valid, ⟨base, "29.0", "token"⟩, ofSettings_eq_ok_iff.mpr ⟨valid, base, found, rfl⟩, ?_⟩
  rintro path relative ⟨u, led⟩
  rw [url_relative ((labelSettings label).endpoint_settled found) relative, if_pos overlong] at led
  cases led

/-- The server of seven hundred ideographs cannot be reached. -/
theorem spread_leads_nowhere : (labelSettings Url.Punycode.spreadLabel).validate = .ok () ∧
    Url.isAbsolute "/api" = false ∧
    ∃ c, ofSettings (labelSettings Url.Punycode.spreadLabel) = .ok c ∧
      ¬ ∃ u, c.url "/api" = .ok u := by
  have size : Url.Punycode.spreadLabel.length = 700 := by
    rw [Url.Punycode.spreadLabel, List.length_map, List.length_range]
  have filled : Url.Punycode.spreadLabel ≠ [] := List.ne_nil_of_length_pos (by omega)
  obtain ⟨valid, c, built, nowhere⟩ := labelSettings_nowhere Url.Punycode.isIdeograph_spreadLabel
    filled (by omega) Url.Punycode.encode_spreadLabel
  exact ⟨valid, by decide, c, built, nowhere "/api" (by decide)⟩

end Http.Client

end ExtensionAdmin
