import ExtensionAdmin.Proofs.Http.Client
import ExtensionAdmin.Proofs.Http.SameServer
import ExtensionAdmin.Proofs.Url.Target
import ExtensionAdmin.Service.UiPlugins

/-! Where changes of plugins are sent. The identifier of a plugin stands in the path of its requests
as it is. Plain identifiers are read there as they were written, so requests for different plugins
that have such identifiers have different targets. Any other identifier can lead to the target of
another plugin; and below a base with a fragment the requests for all plugins have one target. -/

namespace ExtensionAdmin.Service.UiPlugins

open Batch (Transition)
open Http (Client Request)
open Url (IsPlainText cleanedEnd)

variable {s : Settings} {c : Client} {p q : UiPlugin} {t t' : Transition} {r r' : Request}

def addressSuffix : Transition → String
  | .publishAll => "/tenants/publishAll"
  | .unpublishAll => "/tenants/unpublishAll"
  | _ => ""

theorem changeRequest_url (built : changeRequest c p t = .ok r) :
    c.url (pluginPath p ++ addressSuffix t) = .ok r.url := by
  have whole : pluginPath p ++ "" = pluginPath p := String.append_empty
  cases t <;>
    simp only [changeRequest, setEnabled, changeScope, update, delete, publishAll, unpublishAll,
      Client.bare, Client.request_eq_ok_iff] at built <;>
    obtain ⟨-, url, led, -, rfl⟩ := built <;>
    simpa only [addressSuffix, whole] using led

/-- Whether an identifier is read in a path as it is written: it holds no percent sign and no number
sign, cleaning leaves it as it is, and before a question mark there is neither a backslash nor a dot
segment. -/
structure IsPlainId (id : String) : Prop where
  unescaped : '%' ∉ id.toList
  clean : cleanedEnd id.toList = id.toList
  plain : IsPlainText id.toList

instance (id : String) : Decidable (IsPlainId id) :=
  decidable_of_iff ('%' ∉ id.toList ∧ cleanedEnd id.toList = id.toList ∧ IsPlainText id.toList)
    ⟨fun ⟨unescaped, clean, plain⟩ => ⟨unescaped, clean, plain⟩,
      fun id => ⟨id.unescaped, id.clean, id.plain⟩⟩

def addressText (id suffix : String) : List Char :=
  collectionPath.toList.tail ++ '/' :: (id.toList ++ suffix.toList)

theorem dropLeading_address (id suffix : String) :
    Text.dropLeading '/' (collectionPath ++ "/" ++ id ++ suffix).toList =
      addressText id suffix := by
  simp only [String.toList_append, List.append_assoc]
  rfl

theorem addressText_injective {id id' : String} (suffix : String) :
    addressText id suffix = addressText id' suffix ↔ id = id' := by
  simp [addressText, String.toList_inj]

theorem addressSuffix_eq (t : Transition) :
    (addressSuffix t).toList = [] ∨ ∃ rest, (addressSuffix t).toList = '/' :: rest ∧
      IsPlainText rest ∧ cleanedEnd rest = rest ∧ '%' ∉ rest := by
  cases t
  case publishAll => exact Or.inr ⟨"tenants/publishAll".toList, by decide⟩
  case unpublishAll => exact Or.inr ⟨"tenants/unpublishAll".toList, by decide⟩
  all_goals exact Or.inl rfl

/-- The address of a plugin with a plain identifier is plain. -/
theorem IsPlainId.address {id : String} (plain : IsPlainId id) (t : Transition) :
    IsPlainText (addressText id (addressSuffix t)) ∧
      cleanedEnd (addressText id (addressSuffix t)) = addressText id (addressSuffix t) ∧
      '%' ∉ addressText id (addressSuffix t) := by
  have collection : IsPlainText collectionPath.toList.tail := by decide
  have solid : ∀ c ∈ collectionPath.toList.tail, 0x20 < c.toNat := by simp [collectionPath]
  have unescaped : '%' ∉ collectionPath.toList.tail := by decide
  rcases addressSuffix_eq t with none | ⟨rest, suffix, plain', clean', unescaped'⟩
  · rw [addressText, none, List.append_nil]
    refine ⟨collection.join plain.plain, ?_, ?_⟩
    · rw [Url.cleanedEnd_solid solid (by decide), plain.clean]
    · simp [unescaped, plain.unescaped]
  · rw [addressText, suffix]
    refine ⟨collection.join (plain.plain.join plain'), ?_, ?_⟩
    · rw [Url.cleanedEnd_solid solid (by decide), Url.cleanedEnd_clean plain.clean (by decide),
        clean']
    · simp [unescaped, plain.unescaped, unescaped']

theorem isAbsolute_pluginPath (p : UiPlugin) (suffix : String) :
    Url.isAbsolute (pluginPath p ++ suffix) = false := by
  simp only [Url.isAbsolute, pluginPath, String.toList_append, List.append_assoc]
  rfl

theorem changeRequest_joined (settled : c.base.IsSettled) (sent : changeRequest c p t = .ok r) :
    r.url = c.base.withRest (cleanedEnd (c.base.joinedHind (pluginPath p ++ addressSuffix t))) := by
  have led := changeRequest_url sent
  rw [Client.url_relative settled (isAbsolute_pluginPath p _)] at led
  split at led
  case isTrue => cases led
  case isFalse => exact (Except.ok.inj led).symm

theorem joinedHind_address (base : Url) (p : UiPlugin) (suffix : String) :
    base.joinedHind (pluginPath p ++ suffix) =
      Text.dropTrailing '/' base.hind ++ '/' :: addressText p.id suffix := by
  rw [Url.joinedHind, pluginPath, dropLeading_address]

/-- Changes of plugins with different plain identifiers have different targets below a base
without a fragment, also changes of two kinds if both are sent to the same address of a plugin. -/
theorem changes_told_apart (built : Client.ofSettings s = .ok c) (bare : c.base.fragment = none)
    (plain : IsPlainId p.id) (plain' : IsPlainId q.id) (alike : addressSuffix t = addressSuffix t')
    (sent : changeRequest c p t = .ok r) (sent' : changeRequest c q t' = .ok r') :
    r.url.target = r'.url.target ↔ p.id = q.id := by
  have settled := Client.ofSettings_settled built
  obtain ⟨text, clean, unescaped⟩ := plain.address t
  obtain ⟨text', clean', unescaped'⟩ := plain'.address t'
  rw [changeRequest_joined settled sent, changeRequest_joined settled sent', joinedHind_address,
    joinedHind_address, Url.cleanedEnd_join settled bare clean,
    Url.cleanedEnd_join settled bare clean',
    Url.target_join settled bare text text' unescaped unescaped', ← alike, addressText_injective]

def rootSettings : Settings := ⟨"http://h", "29.0", "token", 30⟩

def rootClient : Client := ⟨⟨.http, "", "", .domain "h", none, "/", none, none⟩, "29.0", "token"⟩

theorem rootSettings_client : Client.ofSettings rootSettings = .ok rootClient := rfl

def identified (id : String) : UiPlugin :=
  ⟨id, "P", "", none, "", none, none, false, false, true, none, none, []⟩

def deletion (path : String) : Request :=
  ⟨.delete, { rootClient.base with path }, "token", "application/json;version=29.0", none, ""⟩

theorem urns_told_apart :
    Client.ofSettings rootSettings = .ok rootClient ∧ rootClient.base.fragment = none ∧
    IsPlainId "urn:vcloud:uiPlugin:1" ∧ IsPlainId "urn:vcloud:uiPlugin:2" ∧
    ∃ r r', changeRequest rootClient (identified "urn:vcloud:uiPlugin:1") .delete = .ok r ∧
      changeRequest rootClient (identified "urn:vcloud:uiPlugin:2") .delete = .ok r' ∧
      r.url.target ≠ r'.url.target := by
  have plain : IsPlainId (identified "urn:vcloud:uiPlugin:1").id := by decide
  have plain' : IsPlainId (identified "urn:vcloud:uiPlugin:2").id := by decide
  have sent : changeRequest rootClient (identified "urn:vcloud:uiPlugin:1") .delete =
      .ok (deletion "/cloudapi/extensions/ui/urn:vcloud:uiPlugin:1") := rfl
  have sent' : changeRequest rootClient (identified "urn:vcloud:uiPlugin:2") .delete =
      .ok (deletion "/cloudapi/extensions/ui/urn:vcloud:uiPlugin:2") := rfl
  have apart := changes_told_apart rootSettings_client rfl plain plain' rfl sent sent'
  exact ⟨rootSettings_client, rfl, plain, plain', _, _, sent, sent',
    fun same => absurd (apart.mp same) (by decide)⟩

/-- A plugin can be deleted under the address of another one. -/
theorem dotted_deletes_other :
    Client.ofSettings rootSettings = .ok rootClient ∧
    (identified "b/../a").id ≠ (identified "a").id ∧
    ∃ r r', changeRequest rootClient (identified "b/../a") .delete = .ok r ∧
      changeRequest rootClient (identified "a") .delete = .ok r' ∧
      r.url.target = r'.url.target :=
  ⟨rootSettings_client, by decide, deletion "/cloudapi/extensions/ui/a",
    deletion "/cloudapi/extensions/ui/a", rfl, rfl, rfl⟩

/-- Below a base with a fragment all changes of all plugins have one target. -/
theorem changes_below_fragment (built : Client.ofSettings s = .ok c)
    (hashed : c.base.fragment ≠ none) (sent : changeRequest c p t = .ok r)
    (sent' : changeRequest c q t' = .ok r') : r.url.target = r'.url.target := by
  have settled := Client.ofSettings_settled built
  rw [changeRequest_joined settled sent, changeRequest_joined settled sent']
  exact Url.target_below_fragment settled hashed _ _

end ExtensionAdmin.Service.UiPlugins
