import ExtensionAdmin.Json.Value

/-! Things that an operator manages: they have a key, a name, can be enabled or disabled, and belong
to one of two families. -/

namespace ExtensionAdmin

structure Scope where
  serviceProvider : Bool
  tenant : Bool
deriving DecidableEq, Repr

namespace Scope

def serviceProviderName : String := "service-provider"

def tenantName : String := "tenant"

def nowhere : Scope := ⟨false, false⟩

def ofNames (names : List String) : Scope :=
  ⟨names.contains serviceProviderName, names.contains tenantName⟩

def display : Scope → String
  | ⟨true, true⟩ => serviceProviderName ++ " and " ++ tenantName
  | ⟨true, false⟩ => serviceProviderName
  | ⟨false, true⟩ => tenantName
  | ⟨false, false⟩ => "no portal"

def toValue (s : Scope) : Json.Value :=
  .object [("service_provider", .bool s.serviceProvider), ("tenant", .bool s.tenant)]

end Scope

inductive Kind where
  | apiExtension
  | uiPlugin
deriving DecidableEq, Repr

namespace Kind

def singular : Kind → String
  | .apiExtension => "API Extension"
  | .uiPlugin => "UI Plugin"

def plural : Kind → String
  | .apiExtension => "API Extensions"
  | .uiPlugin => "UI Plugins"

end Kind

/-- What batches need to know of a managed thing. The key addresses it; the name is for people. -/
class Entity (α : Type) where
  kind : Kind
  key : α → String
  name : α → String
  enabled : α → Bool
  scope? : α → Option Scope

end ExtensionAdmin
