import ExtensionAdmin.Entity.Basic
import ExtensionAdmin.Json.Decode

/-! Registered extension services, as the rows of an admin query describe them. -/

namespace ExtensionAdmin

open Json (Value Members Decoded)

structure ServiceRecord where
  href : String
  name : String
  nameSpace : String
  enabled : Bool
  exchange : String
  routingKey : String
  priority : Int
  authorization : Bool
deriving DecidableEq, Repr

instance : Entity ServiceRecord where
  kind := .apiExtension
  key r := r.href
  name r := r.name
  enabled r := r.enabled
  scope? _ := none

namespace ServiceRecord

def checkMember : String × Value → Decoded Unit
  | (name, v) =>
    if name = "enabled" || name = "isAuthorizationEnabled" then discard v.toBool
    else if name = "priority" then discard v.toInt64
    else .ok ()

def text (v : Value) : Decoded String := .ok v.toLenientText

def ofMembers (ms : Members) : Decoded ServiceRecord := do
  ms.forM checkMember
  return {
    href := ← ms.required "href" text
    name := ← ms.required "name" text
    nameSpace := ← ms.optional "namespace" "" text
    enabled := ← ms.optional "enabled" false Value.toBool
    exchange := ← ms.optional "exchange" "" text
    routingKey := ← ms.optional "routingKey" "" text
    priority := ← ms.optional "priority" 0 Value.toInt64
    authorization := ← ms.optional "isAuthorizationEnabled" false Value.toBool }

def tooShort (length : Nat) : Decoded String :=
  .error (.wrongLength length "struct AdminServiceRecord with 8 elements")

def ofItems (items : List Value) : Decoded ServiceRecord :=
  Json.positionally items do
    return {
      href := ← Json.nextOr (tooShort 0) text
      name := ← Json.nextOr (tooShort 1) text
      nameSpace := ← Json.nextOr (.ok "") text
      enabled := ← Json.nextOr (.ok false) Value.toBool
      exchange := ← Json.nextOr (.ok "") text
      routingKey := ← Json.nextOr (.ok "") text
      priority := ← Json.nextOr (.ok 0) Value.toInt64
      authorization := ← Json.nextOr (.ok false) Value.toBool }

def ofValue : Value → Decoded ServiceRecord
  | .object ms => ofMembers ms
  | .array items => ofItems items
  | v => .error (.wrongType v "struct AdminServiceRecord")

def toValue (r : ServiceRecord) : Value :=
  .object [
    ("href", .string r.href),
    ("name", .string r.name),
    ("namespace", .string r.nameSpace),
    ("enabled", .bool r.enabled),
    ("exchange", .string r.exchange),
    ("routingKey", .string r.routingKey),
    ("priority", .number (.int r.priority)),
    ("isAuthorizationEnabled", .bool r.authorization)]

def listName : String := "QueryResultRecords"

def rowName : String := "AdminServiceRecord"

inductive QueryFault where
  | missingList
  | row (fault : Json.DecodeFault)
deriving DecidableEq, Repr

def ofQuery (document : Value) : Except QueryFault (List ServiceRecord) :=
  match document.get? listName with
  | none => .error .missingList
  | some records =>
    match records.get? rowName with
    | none => .ok []
    | some rows => rows.toList.mapM fun row => (ofValue row).mapError .row

end ServiceRecord

end ExtensionAdmin
