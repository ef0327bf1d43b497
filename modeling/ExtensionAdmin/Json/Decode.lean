import ExtensionAdmin.Json.Printer

/-! Reading typed data out of structured values. A record is read from an object, whose members are
looked at in their order, or from a sequence with one item for each field. Type faults come before
missing fields. -/

namespace ExtensionAdmin.Json

inductive DecodeFault where
  | missingField (name : String)
  | duplicateField (name : String)
  | wrongType (found : Value) (expected : String)
  | outOfRange (value : Int) (expected : String)
  | wrongLength (length : Nat) (expected : String)
  | notJson
deriving DecidableEq, Repr

def Value.describe : Value → String
  | .null => "null"
  | .bool true => "boolean `true`"
  | .bool false => "boolean `false`"
  | .number (.int i) => s!"integer `{i}`"
  | .number (.float x) => "floating point `" ++ String.ofList x.render ++ "`"
  | .string s => "string " ++ Text.quote s
  | .array _ => "sequence"
  | .object _ => "map"

def DecodeFault.message : DecodeFault → String
  | .missingField name => s!"missing field `{name}`"
  | .duplicateField name => s!"duplicate field `{name}`"
  | .wrongType found expected => s!"invalid type: {found.describe}, expected {expected}"
  | .outOfRange value expected => s!"invalid value: integer `{value}`, expected {expected}"
  | .wrongLength length expected => s!"invalid length {length}, expected {expected}"
  | .notJson => "malformed JSON"

abbrev Decoded (α : Type) := Except DecodeFault α

namespace Value

def toBool : Value → Decoded Bool
  | .bool b => .ok b
  | v => .error (.wrongType v "a boolean")

def toText : Value → Decoded String
  | .string s => .ok s
  | v => .error (.wrongType v "a string")

def toText? : Value → Decoded (Option String)
  | .null => .ok none
  | v => some <$> v.toText

def toLenientText : Value → String
  | .null => ""
  | v => v.plainText

def toItems : Value → Decoded (List Value)
  | .array items => .ok items
  | v => .error (.wrongType v "a sequence")

def toInt64 : Value → Decoded Int
  | .number (.int i) =>
    if -0x8000000000000000 ≤ i ∧ i < 0x8000000000000000 then .ok i else .error (.outOfRange i "i64")
  | v => .error (.wrongType v "i64")

def toUInt64 : Value → Decoded Nat
  | .number (.int i) =>
    if 0 ≤ i ∧ i < 0x10000000000000000 then .ok i.toNat else .error (.outOfRange i "u64")
  | v => .error (.wrongType v "u64")

end Value

namespace Members

def required {α : Type} (ms : Members) (name : String) (read : Value → Decoded α) : Decoded α :=
  match ms.get? name with
  | none => .error (.missingField name)
  | some v => read v

def optional {α : Type} (ms : Members) (name : String) (default : α) (read : Value → Decoded α) :
    Decoded α :=
  match ms.get? name with
  | none => .ok default
  | some v => read v

end Members

abbrev Positional (α : Type) := StateT (List Value) (Except DecodeFault) α

def nextOr {α : Type} (default : Decoded α) (read : Value → Decoded α) : Positional α :=
  fun items => match items with
  | [] => do return (← default, [])
  | v :: rest => do return (← read v, rest)

def positionally {α : Type} (items : List Value) (read : Positional α) : Decoded α := do
  let (x, rest) ← read items
  if rest.isEmpty then return x
  else throw (.wrongLength items.length "fewer elements in array")

end ExtensionAdmin.Json
