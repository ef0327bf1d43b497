import ExtensionAdmin.Proofs.Service.PluginAddress
import ExtensionAdmin.Proofs.Service.Recording
import ExtensionAdmin.Service.ApiExtensions

/-! What settings that are valid are good for. A client is built from them, and each call of a
service builds its request in one way: from a path, with the session token and the version of the
settings in its headers. If these can be written there and the path leads to where a request can be
sent, a call sends one request. The check of the settings does not ask for that: it takes a token
and a version that hold a line break or another control character, and a host with a double quote,
and then no call sends anything. -/

namespace ExtensionAdmin

open Batch (Transition)
open Http (Client Format Network Request isHeaderValue)

/-- Whether the token and the version of settings can be written in headers: neither holds a control
character other than a tab. -/
def Settings.Sendable (s : Settings) : Prop :=
  isHeaderValue s.authToken = true ∧ isHeaderValue s.apiVersion = true

instance (s : Settings) : Decidable s.Sendable :=
  inferInstanceAs (Decidable (_ ∧ _))

theorem Http.Client.admits_iff {s : Settings} {c : Client} (built : ofSettings s = .ok c)
    (format : Format) : c.Admits format ↔ s.Sendable := by
  obtain ⟨-, base, -, rfl⟩ := ofSettings_eq_ok_iff.mp built
  obtain ⟨front, plain, -, whole⟩ := accept_eq ⟨base, s.apiVersion, s.authToken⟩ format
  simp [Admits, Settings.Sendable, whole, isHeaderValue_append, plain]

namespace Service

inductive Call (α : Type) where
  | list
  | change (e : α) (t : Transition)
deriving DecidableEq, Repr

def Carries (s : Settings) (u : Url) (sent : List Request) : Prop :=
  ∃ r, sent = [r] ∧ r.url = u ∧ r.token = s.authToken ∧
    ("version=" ++ s.apiVersion).toList <:+ r.accept.toList

namespace Endpoint

variable {α σ : Type} (ep : Endpoint α) (c : Client) (net : Network σ)

def offers : Call α → Bool
  | .list => true
  | .change _ t => ep.supports t

def callRequest : Call α → Except Error Request
  | .list => ep.listRequest c
  | .change e t => ep.changeRequest c e t

def call : Call α → σ → Option (Except Error Unit) × σ
  | .list, w =>
    let (a, w) := ep.list c net w
    (a.map fun r => r.map fun _ => (), w)
  | .change e t, w => ep.change c net e t w

def Addressed (path : Call α → String) (format : Format) : Prop :=
  ∀ a, ep.offers a = true → ∃ method contentType body, ∀ c,
    ep.callRequest c a = c.request method (path a) format contentType body

/-- How the calls of a service go with a client that was built from settings, over any network: as
one request if the headers can be written and the URL can be a target, and else not at all. -/
def Uses (s : Settings) (c : Client) (path : Call α → String) : Prop :=
  ∀ (σ : Type) (net : Network σ) (w : σ) (a : Call α) (u : Url), ep.offers a = true →
    c.url (path a) = .ok u →
      (s.Sendable → u.isTarget = true → Carries s u (ep.call c net.recording a ([], w)).2.1) ∧
      (¬ s.Sendable → ep.call c net.recording a ([], w) =
        (some (.error (.transport .invalidHeader)), ([], w))) ∧
      (s.Sendable → u.isTarget = false → ep.call c net.recording a ([], w) =
        (some (.error (.transport .invalidTarget)), ([], w)))

/-- A call for which a request is built sends that request, and no other. -/
theorem call_sends {a : Call α} {r : Request} (built : ep.callRequest c a = .ok r) (w : σ) :
    (ep.call c net.recording a ([], w)).2.1 = [r] := by
  cases a with
  | list =>
    have built : ep.listRequest c = .ok r := built
    simp [call, recorded_list, built, Except.toOption]
  | change e t =>
    have built : ep.changeRequest c e t = .ok r := built
    simp [call, change, recorded_sendOne, built]

theorem call_refused {a : Call α} {f : Error} (refused : ep.callRequest c a = .error f) (w : σ) :
    ep.call c net a w = (some (.error f), w) := by
  cases a with
  | list =>
    have refused : ep.listRequest c = .error f := refused
    simp [call, list, refused, Except.map]
  | change e t =>
    have refused : ep.changeRequest c e t = .error f := refused
    simp [call, change, refused]

variable {ep c}

/-- The request of a call is built from its path, or refused for its headers or its URL. -/
theorem Addressed.uses {path : Call α → String} {format : Format}
    (addressed : ep.Addressed path format) {s : Settings} (made : Client.ofSettings s = .ok c) :
    ep.Uses s c path := by
  intro σ net w a u offered found
  obtain ⟨method, contentType, body, builds⟩ := addressed a offered
  have admits := Client.admits_iff made format
  refine ⟨fun sendable target => ?_, fun unsendable => ?_, fun sendable untargeted => ?_⟩
  · have built : ep.callRequest c a =
        .ok ⟨method, u, c.token, c.accept format, contentType, body⟩ :=
      (builds c).trans (Client.request_eq_ok_iff.mpr ⟨admits.mpr sendable, u, found, target, rfl⟩)
    have ends := c.accept_ends format
    rw [ep.call_sends _ net built w]
    obtain ⟨-, base, -, rfl⟩ := Client.ofSettings_eq_ok_iff.mp made
    exact ⟨_, rfl, rfl, rfl, ends⟩
  · have refused : ep.callRequest c a = .error (.transport .invalidHeader) :=
      (builds c).trans
        (Client.request_eq_invalidHeader found fun admitted => unsendable (admits.mp admitted))
    exact ep.call_refused _ net.recording refused ([], w)
  · have refused : ep.callRequest c a = .error (.transport .invalidTarget) :=
      (builds c).trans
        (Client.request_eq_invalidTarget (admits.mpr sendable) found untargeted)
    exact ep.call_refused _ net.recording refused ([], w)

end Endpoint

def ApiExtensions.callPath : Call ServiceRecord → String
  | .list => queryPath
  | .change r _ => r.href

theorem ApiExtensions.addressed : endpoint.Addressed callPath .xml := by
  intro a offered
  cases a with
  | list =>
    refine ⟨.get, none, "", fun c => ?_⟩
    simp only [Endpoint.callRequest, endpoint, callPath, Client.bare]
  | change r t =>
    have built : ∀ c, endpoint.callRequest c (.change r t) = changeRequest c r t := fun c => by
      simp only [Endpoint.callRequest, endpoint]
    simp only [built, callPath]
    cases t with
    | enable => exact ⟨.put, some updateType, updateDocument r true, fun c => rfl⟩
    | disable => exact ⟨.put, some updateType, updateDocument r false, fun c => rfl⟩
    | delete => exact ⟨.delete, none, "", fun c => rfl⟩
    | changeScope s => cases offered
    | publishAll => cases offered
    | unpublishAll => cases offered

def UiPlugins.callPath : Call UiPlugin → String
  | .list => collectionPath
  | .change p t => pluginPath p ++ addressSuffix t

theorem UiPlugins.addressed : endpoint.Addressed callPath .json := by
  intro a _
  cases a with
  | list =>
    refine ⟨.get, none, "", fun c => ?_⟩
    simp only [Endpoint.callRequest, endpoint, callPath, Client.bare]
  | change p t =>
    have built : ∀ c, endpoint.callRequest c (.change p t) = changeRequest c p t := fun c => by
      simp only [Endpoint.callRequest, endpoint]
    have whole : pluginPath p ++ "" = pluginPath p := String.append_empty
    simp only [built, callPath]
    cases t with
    | enable =>
      simp only [addressSuffix, whole]
      exact ⟨.put, some updateType, (p.withEnabled true).toValue.text, fun c => rfl⟩
    | disable =>
      simp only [addressSuffix, whole]
      exact ⟨.put, some updateType, (p.withEnabled false).toValue.text, fun c => rfl⟩
    | delete =>
      simp only [addressSuffix, whole]
      exact ⟨.delete, none, "", fun c => rfl⟩
    | changeScope s =>
      simp only [addressSuffix, whole]
      exact ⟨.put, some updateType, (p.withScope s).toValue.text, fun c => rfl⟩
    | publishAll => exact ⟨.post, none, "", fun c => rfl⟩
    | unpublishAll => exact ⟨.post, none, "", fun c => rfl⟩

end Service

namespace Settings

theorem validated_ok {s t : Settings} (checked : s.validated = .ok t) : t.validate = .ok () := by
  obtain ⟨_, valid, same⟩ := Fallible.bind_eq_ok.mp checked
  cases same
  exact valid

theorem load_valid {source : Option Source} {lookup : String → Option String} {s : Settings}
    (loaded : load source lookup = .ok s) : s.validate = .ok () := by
  cases source with
  | none =>
    have loaded : (default.withEnvironment lookup >>= validated) = .ok s := loaded
    obtain ⟨_, -, checked⟩ := Fallible.bind_eq_ok.mp loaded
    exact validated_ok checked
  | some f =>
    obtain ⟨read, -, loaded⟩ := Fallible.bind_eq_ok.mp loaded
    obtain ⟨_, -, checked⟩ := Fallible.bind_eq_ok.mp loaded
    exact validated_ok checked

end Settings

namespace Service

/-- Settings that are loaded are valid, and with settings that are valid a client is built. With it
each call of a service whose path leads to a URL sends exactly one request, to that URL and with the
token and the version of the settings, if neither of them holds a control character other than a tab
and a request can be sent to the URL. Otherwise no such call sends anything. -/
theorem valid_settings_use (s : Settings) :
    (∀ source lookup, Settings.load source lookup = .ok s → s.validate = .ok ()) ∧
    (s.validate = .ok () → ∃ c, Client.ofSettings s = .ok c ∧
      ApiExtensions.endpoint.Uses s c ApiExtensions.callPath ∧
      UiPlugins.endpoint.Uses s c UiPlugins.callPath) := by
  refine ⟨fun _ _ => Settings.load_valid, fun valid => ?_⟩
  obtain ⟨base, found⟩ := s.endpoint_of_valid valid
  have made := Client.ofSettings_eq_ok_iff.mpr ⟨valid, base, found, rfl⟩
  exact ⟨_, made, ApiExtensions.addressed.uses made, UiPlugins.addressed.uses made⟩

-- The host is valid, but no request can name it.
example : (Client.ofSettings ⟨"http://a\"b", "29.0", "token", 30⟩).map (fun c => c.base.isTarget) =
    .ok false := rfl

def environment (token : String) (name : String) : Option String :=
  [(Settings.baseUrlVariable, "http://h"), (Settings.authTokenVariable, token)].lookup name

def tokenSettings (token : String) : Settings := ⟨"http://h", "29.0", token, 30⟩

def tokenClient (token : String) : Client :=
  ⟨⟨.http, "", "", .domain "h", none, "/", none, none⟩, "29.0", token⟩

def urlOf (path : String) : Url := ⟨.http, "", "", .domain "h", none, path, none, none⟩

def wire : Network (List Request × Unit) := (Network.unreachable Unit).recording

def ticketing : ServiceRecord := ⟨"/service/1", "ticketing", "", false, "", "", 0, false⟩

/-- With one token a list and a deletion are sent; with the same token and a line break nothing
is. -/
theorem token_used :
    Settings.load none (environment "token") = .ok (tokenSettings "token") ∧
    (tokenSettings "token").Sendable ∧
    Carries (tokenSettings "token") (urlOf "/cloudapi/extensions/ui")
      (UiPlugins.endpoint.call (tokenClient "token") wire .list ([], ())).2.1 ∧
    Carries (tokenSettings "token") (urlOf "/service/1")
      (ApiExtensions.endpoint.call (tokenClient "token") wire (.change ticketing .delete)
        ([], ())).2.1 ∧
    Settings.load none (environment "token\n") = .ok (tokenSettings "token\n") ∧
    ¬ (tokenSettings "token\n").Sendable ∧
    UiPlugins.endpoint.call (tokenClient "token\n") wire .list ([], ()) =
      (some (.error (.transport .invalidHeader)), ([], ())) := by
  have sendable : (tokenSettings "token").Sendable := by decide
  have unsendable : ¬ (tokenSettings "token\n").Sendable := by decide
  obtain ⟨valid, use⟩ := valid_settings_use (tokenSettings "token")
  obtain ⟨c, built, services, plugins⟩ := use (valid none (environment "token") rfl)
  obtain rfl : c = tokenClient "token" := Except.ok.inj (built.symm.trans rfl)
  obtain ⟨valid, use⟩ := valid_settings_use (tokenSettings "token\n")
  obtain ⟨c, built, -, unused⟩ := use (valid none (environment "token\n") rfl)
  obtain rfl : c = tokenClient "token\n" := Except.ok.inj (built.symm.trans rfl)
  have listed := plugins Unit (.unreachable Unit) () .list (urlOf "/cloudapi/extensions/ui") rfl rfl
  have deleted := services Unit (.unreachable Unit) () (.change ticketing .delete)
    (urlOf "/service/1") rfl rfl
  have silent := unused Unit (.unreachable Unit) () .list (urlOf "/cloudapi/extensions/ui") rfl rfl
  exact ⟨rfl, sendable, listed.1 sendable rfl, deleted.1 sendable rfl, rfl, unsendable,
    silent.2.1 unsendable⟩

/-- A token with a line break at its end is taken as valid, and with it nothing is sent. -/
theorem newline_unsent :
    Settings.load none (environment "token\n") = .ok (tokenSettings "token\n") ∧
    (tokenSettings "token\n").validate = .ok () ∧
    Client.ofSettings (tokenSettings "token\n") = .ok (tokenClient "token\n") ∧
    (tokenClient "token\n").url (UiPlugins.callPath .list) = .ok (urlOf "/cloudapi/extensions/ui") ∧
    UiPlugins.endpoint.call (tokenClient "token\n") wire .list ([], ()) =
      (some (.error (.transport .invalidHeader)), ([], ())) :=
  ⟨rfl, rfl, rfl, rfl, rfl⟩

end Service

end ExtensionAdmin
