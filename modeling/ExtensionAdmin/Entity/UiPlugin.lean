import ExtensionAdmin.Entity.Basic
import ExtensionAdmin.Json.Decode

/-! Plugins of the user interface, as their listing describes them. Members that are not fields of a
plugin are kept as they are, so that an update sends everything back that the listing held. -/

namespace ExtensionAdmin

open Json (Value Members Decoded)

structure UiPlugin where
  id : String
  name : String
  vendor : String
  description : Option String
  version : String
  license : Option String
  link : Option String
  tenantScoped : Bool
  providerScoped : Bool
  enabled : Bool
  status : Option String
  resourcePath : Option String
  extra : Members
deriving DecidableEq, Repr

namespace UiPlugin

def scope (p : UiPlugin) : Scope := ⟨p.providerScoped, p.tenantScoped⟩

def withEnabled (p : UiPlugin) (enabled : Bool) : UiPlugin := { p with enabled }

def withScope (p : UiPlugin) (s : Scope) : UiPlugin :=
  { p with providerScoped := s.serviceProvider, tenantScoped := s.tenant }

inductive FieldType where
  | text
  | optionalText
  | flag
deriving DecidableEq, Repr

def fields : List (String × FieldType) := [
  ("id", .text), ("pluginName", .text), ("vendor", .text), ("description", .optionalText),
  ("version", .text), ("license", .optionalText), ("link", .optionalText),
  ("tenant_scoped", .flag), ("provider_scoped", .flag), ("enabled", .flag),
  ("plugin_status", .optionalText), ("resourcePath", .optionalText)]

def isField (name : String) : Bool := fields.any fun f => f.1 = name

def checkMember (m : String × Value) : Decoded Unit :=
  match fields.lookup m.1 with
  | none => .ok ()
  | some .text => discard m.2.toText
  | some .optionalText => discard m.2.toText?
  | some .flag => discard m.2.toBool

def ofMembers (ms : Members) : Decoded UiPlugin := do
  ms.forM checkMember
  return {
    id := ← ms.required "id" Value.toText
    name := ← ms.required "pluginName" Value.toText
    vendor := ← ms.optional "vendor" "" Value.toText
    description := ← ms.optional "description" none Value.toText?
    version := ← ms.optional "version" "" Value.toText
    license := ← ms.optional "license" none Value.toText?
    link := ← ms.optional "link" none Value.toText?
    tenantScoped := ← ms.optional "tenant_scoped" false Value.toBool
    providerScoped := ← ms.optional "provider_scoped" false Value.toBool
    enabled := ← ms.optional "enabled" false Value.toBool
    status := ← ms.optional "plugin_status" none Value.toText?
    resourcePath := ← ms.optional "resourcePath" none Value.toText?
    extra := ms.filter fun m => !isField m.1 }

def ofValue : Value → Decoded UiPlugin
  | .object ms => ofMembers ms
  | v => .error (.wrongType v "struct UiPlugin")

def repeatedField? : List (String × Value) → Option String
  | [] => none
  | m :: rest =>
    if isField m.1 && rest.any (fun n => n.1 = m.1) then some m.1 else repeatedField? rest

/-- A plugin from a value whose members are still as they were written: a field must not be named
twice, while of other members the last of a name stays. -/
def ofVerbatim : Value → Decoded UiPlugin
  | .object ms =>
    match repeatedField? ms with
    | some name => .error (.duplicateField name)
    | none => ofValue (Value.object ms).canonical
  | v => ofValue v

def optionalMember (name : String) : Option String → Members
  | none => []
  | some s => [(name, .string s)]

def toMembers (p : UiPlugin) : Members :=
  [("id", .string p.id), ("pluginName", .string p.name), ("vendor", .string p.vendor)] ++
    optionalMember "description" p.description ++
    [("version", .string p.version)] ++
    optionalMember "license" p.license ++
    optionalMember "link" p.link ++
    [("tenant_scoped", .bool p.tenantScoped), ("provider_scoped", .bool p.providerScoped),
      ("enabled", .bool p.enabled)] ++
    optionalMember "plugin_status" p.status ++
    optionalMember "resourcePath" p.resourcePath ++
    p.extra

def toValue (p : UiPlugin) : Value := .object p.toMembers

end UiPlugin

instance : Entity UiPlugin where
  kind := .uiPlugin
  key p := p.id
  name p := p.name
  enabled p := p.enabled
  scope? p := some p.scope

end ExtensionAdmin
