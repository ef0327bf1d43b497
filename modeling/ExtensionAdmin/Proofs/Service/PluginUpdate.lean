import ExtensionAdmin.Proofs.Entity.PluginText
import ExtensionAdmin.Service.UiPlugins

/-! What an update of a plugin sends. The body of an update holds what the plugin was read from: the
members that the update sets have their new values, the fields that are always written are there,
fields that were null are gone, and all else is as it was. The text of the body gives the updated
plugin back exactly when the members that are no fields are legible: a number beyond 64 bits, or a
fraction that is not read as it was written, changes on its way. -/

namespace ExtensionAdmin.Service.UiPlugins

open Http (Client Request)
open Json (Value Members)

inductive Update where
  | enabling (enabled : Bool)
  | scoping (scope : Scope)
deriving DecidableEq, Repr

namespace Update

def apply : Update → UiPlugin → UiPlugin
  | .enabling enabled, p => p.withEnabled enabled
  | .scoping s, p => p.withScope s

def request (c : Client) (p : UiPlugin) : Update → Except Error Request
  | .enabling enabled => setEnabled c p enabled
  | .scoping s => changeScope c p s

def changes : Update → Members
  | .enabling enabled => [("enabled", .bool enabled)]
  | .scoping s => [("provider_scoped", .bool s.serviceProvider), ("tenant_scoped", .bool s.tenant)]

def sentBack (u : Update) (v : Value) (name : String) : Option Value :=
  (u.changes.get? name).or (UiPlugin.carried name (v.get? name))

variable {p : UiPlugin}

theorem request_eq (c : Client) (p : UiPlugin) (u : Update) :
    u.request c p =
      c.request .put (pluginPath p) .json (some updateType) (u.apply p).toValue.text := by
  cases u <;> rfl

theorem apply_extra (u : Update) (p : UiPlugin) : (u.apply p).extra = p.extra := by
  cases u <;> rfl

theorem apply_kept (u : Update) (kept : p.Kept) : (u.apply p).Kept := by
  constructor <;> rw [apply_extra]
  · exact kept.ascending
  · exact kept.foreign
  · exact kept.canonical

theorem changes_isField (u : Update) : ∀ m ∈ u.changes, UiPlugin.isField m.1 = true := by
  cases u <;> simp [changes, UiPlugin.isField, UiPlugin.fields]

theorem entries_apply (u : Update) (p : UiPlugin) :
    (u.apply p).entries = p.entries.map fun e => (e.1, (u.changes.get? e.1).or e.2) := by
  cases u <;>
    simp [UiPlugin.entries, apply, changes, UiPlugin.withEnabled, UiPlugin.withScope, Members.get?]

/-- An update changes the members that it sets, and no others. -/
theorem get?_apply (u : Update) (kept : p.Kept) (name : String) :
    (u.apply p).toMembers.get? name = (u.changes.get? name).or (p.toMembers.get? name) := by
  cases field : UiPlugin.isField name with
  | true =>
    rw [UiPlugin.isField_iff, ← p.entries_names] at field
    obtain ⟨e, member, rfl⟩ := List.mem_map.mp field
    have changed : (e.1, (u.changes.get? e.1).or e.2) ∈ (u.apply p).entries := by
      rw [entries_apply]
      exact List.mem_map.mpr ⟨e, member, rfl⟩
    rw [kept.get?_entry member, (apply_kept u kept).get?_entry changed]
  | false =>
    have untouched : u.changes.get? name = none :=
      Members.get?_eq_none fun m member =>
        UiPlugin.ne_of_foreign (changes_isField u m member) field
    rw [UiPlugin.get?_foreign _ field, UiPlugin.get?_foreign _ field, apply_extra, untouched,
      Option.none_or]

end Update

/-- What an update of a plugin that was read from an object sends: a body that holds the object with
the changes of the update, and that stands for the updated plugin. Its text is read as that plugin
exactly when the members that are no fields are legible. -/
structure SentBack (c : Client) (v : Value) (p : UiPlugin) (u : Update) (body : Members) :
    Prop where
  request : u.request c p =
    c.request .put (pluginPath p) .json (some updateType) (Value.object body).text
  distinct : body.names.Nodup
  members : ∀ name, body.get? name = u.sentBack v name
  plugin : UiPlugin.ofVerbatim (.object body) = .ok (u.apply p)
  text : UiPlugin.read? Json.maxDepth (Value.object body).text.toList = some (u.apply p) ↔
    ∀ m ∈ p.extra, m.2.Legible (Json.maxDepth - 1)

/-- An update sends back all that a plugin was read from, with its own changes. -/
theorem update_sent_back (c : Client) {v : Value} {p : UiPlugin}
    (read : UiPlugin.ofValue v.canonical = .ok p) (u : Update) :
    ∃ body, SentBack c v.canonical p u body := by
  obtain ⟨ms, same, reads⟩ := UiPlugin.ofValue_canonical read
  have canonical : (Value.object ms).Canonical := same ▸ Value.canonical_canonical v
  have kept := u.apply_kept (reads.kept canonical)
  refine ⟨(u.apply p).toMembers, u.request_eq c p, kept.distinct, fun name => ?_,
    kept.ofVerbatim_toValue, ?_⟩
  · rw [u.get?_apply (reads.kept canonical), reads.get?_toMembers canonical, same]
    rfl
  · rw [Value.text, String.toList_ofList, ← u.apply_extra p, ← UiPlugin.reread_eq_self_iff]
    have text : UiPlugin.read? Json.maxDepth (Value.object (u.apply p).toMembers).render =
        (u.apply p).reread (Json.maxDepth - 1) := kept.read?_render
    rw [text]

def sampleClient : Client where
  base := ⟨.https, "", "", .domain "vcd.example.com", none, "/", none, none⟩
  apiVersion := "38.1"
  token := "session"

def ticketing : Value := .object [
  ("custom", .object [("retries", .array [.null, .number (.int 7)]), ("vendor", .string "Acme")]),
  ("description", .string "Tickets"), ("enabled", .bool true), ("hint", .null),
  ("id", .string "urn:1"), ("license", .null), ("pluginName", .string "Ticketing"),
  ("provider_scoped", .bool true), ("vendor", .string "VMware")]

def ticketingPlugin : UiPlugin where
  id := "urn:1"
  name := "Ticketing"
  vendor := "VMware"
  description := some "Tickets"
  version := ""
  license := none
  link := none
  tenantScoped := false
  providerScoped := true
  enabled := true
  status := none
  resourcePath := none
  extra := [
    ("custom", .object [("retries", .array [.null, .number (.int 7)]), ("vendor", .string "Acme")]),
    ("hint", .null)]

theorem ticketing_read : UiPlugin.ofValue ticketing.canonical = .ok ticketingPlugin := by
  simp only [ticketing, Value.canonical, Value.canonicalMembers, Value.canonicalEach,
    Value.canonicalItems]
  rfl

theorem ticketing_sent_back :
    UiPlugin.ofValue ticketing.canonical = .ok ticketingPlugin ∧
      ∃ body, SentBack sampleClient ticketing.canonical ticketingPlugin (.enabling false) body :=
  ⟨ticketing_read, update_sent_back sampleClient ticketing_read (.enabling false)⟩

def largeSerial : String :=
  "\x7b\"id\":\"p\",\"pluginName\":\"P\",\"serial\":123456789012345678901234567890\x7d"

def largeSerialPlugin : UiPlugin where
  id := "p"
  name := "P"
  vendor := ""
  description := none
  version := ""
  license := none
  link := none
  tenantScoped := false
  providerScoped := false
  enabled := false
  status := none
  resourcePath := none
  extra := [("serial", .number (.float ⟨5042042089369253694⟩))]

def enabledLargeSerial (serial : String) : String :=
  "\x7b\"id\":\"p\",\"pluginName\":\"P\",\"vendor\":\"\",\"version\":\"\",\"tenant_scoped\":false," ++
    "\"provider_scoped\":false,\"enabled\":true,\"serial\":" ++ serial ++ "\x7d"

/-- The number is sent back rounded. -/
theorem largeSerial_rounded :
    UiPlugin.read? Json.maxDepth largeSerial.toList = some largeSerialPlugin ∧
      setEnabled sampleClient largeSerialPlugin true =
        sampleClient.request .put "/cloudapi/extensions/ui/p" .json (some updateType)
          (enabledLargeSerial "1.2345678901234568e+29") ∧
      enabledLargeSerial "1.2345678901234568e+29" ≠
        enabledLargeSerial "123456789012345678901234567890" := by
  have value : Json.readWithin? Json.maxDepth largeSerial.toList = some (.object
      [("id", .string "p"), ("pluginName", .string "P"),
        ("serial", .number (.float ⟨5042042089369253694⟩))]) := by decide +kernel
  refine ⟨?_, ?_, by decide +kernel⟩
  · rw [UiPlugin.read?, value, Option.bind_some, UiPlugin.ofVerbatim]
    simp only [Value.canonical, Value.canonicalMembers, Value.canonicalEach]
    rfl
  · have sent : (largeSerialPlugin.withEnabled true).toValue.text =
        enabledLargeSerial "1.2345678901234568e+29" := by decide +kernel
    rw [setEnabled, update, sent]
    rfl

end ExtensionAdmin.Service.UiPlugins
