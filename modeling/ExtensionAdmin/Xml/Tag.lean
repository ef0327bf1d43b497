import ExtensionAdmin.Xml.Reference

/-! The inside of a tag: a name, then attributes with quoted values. Attributes are read in one
pass, in the same way as tokens: between two characters the reader is in a mode that holds what was
read of the attribute under way. Positions count bytes from the start of the name. -/

namespace ExtensionAdmin.Xml

abbrev Attribute := String × String

structure RawAttribute where
  key : List Char
  position : Nat
  value : List Char
deriving DecidableEq, Repr

inductive TagMode where
  | between
  | key (start : Nat) (seen : List Char)
  | afterKey (start : Nat) (key : List Char)
  | afterEquals (start : Nat) (key : List Char)
  | value (start : Nat) (key : List Char) (quote : Char) (seen : List Char)
deriving DecidableEq, Repr

structure RawAttributes where
  attributes : List RawAttribute
  fault : Option AttributeFault
deriving DecidableEq, Repr

def RawAttributes.cons (a : RawAttribute) (r : RawAttributes) : RawAttributes :=
  ⟨a :: r.attributes, r.fault⟩

def firstUse? (key : List Char) (known : List (List Char × Nat)) : Option Nat :=
  (known.find? fun k => k.1 = key).map (·.2)

/-- Reads attributes from byte `pos` on; `known` holds the keys so far with their positions, oldest
first. A key is checked against them as soon as its `=` is read. -/
def attributesFrom (known : List (List Char × Nat)) (pos : Nat) :
    TagMode → List Char → RawAttributes
  | .between, [] => ⟨[], none⟩
  | .key _ _, [] => ⟨[], some (.missingEquals pos)⟩
  | .afterKey _ _, [] => ⟨[], some (.missingEquals pos)⟩
  | .afterEquals _ _, [] => ⟨[], some (.missingValue pos)⟩
  | .value _ _ q _, [] => ⟨[], some (.unclosedQuote pos q)⟩
  | .between, c :: cs =>
    if Text.isSeparator c then attributesFrom known (pos + c.utf8Size) .between cs
    else attributesFrom known (pos + c.utf8Size) (.key pos [c]) cs
  | .key start seen, c :: cs =>
    if c = '=' then
      match firstUse? seen.reverse known with
      | some first => ⟨[], some (.duplicate start first)⟩
      | none => attributesFrom known (pos + c.utf8Size) (.afterEquals start seen.reverse) cs
    else if Text.isSeparator c then
      attributesFrom known (pos + c.utf8Size) (.afterKey start seen.reverse) cs
    else attributesFrom known (pos + c.utf8Size) (.key start (c :: seen)) cs
  | .afterKey start key, c :: cs =>
    if c = '=' then
      match firstUse? key known with
      | some first => ⟨[], some (.duplicate start first)⟩
      | none => attributesFrom known (pos + c.utf8Size) (.afterEquals start key) cs
    else if Text.isSeparator c then
      attributesFrom known (pos + c.utf8Size) (.afterKey start key) cs
    else ⟨[], some (.missingEquals pos)⟩
  | .afterEquals start key, c :: cs =>
    if Text.isSeparator c then
      attributesFrom known (pos + c.utf8Size) (.afterEquals start key) cs
    else if c = '"' || c = '\'' then
      attributesFrom known (pos + c.utf8Size) (.value start key c []) cs
    else ⟨[], some (.unquotedValue pos)⟩
  | .value start key q seen, c :: cs =>
    if c = q then
      (attributesFrom (known ++ [(key, start)]) (pos + c.utf8Size) .between cs).cons
        ⟨key, start, seen.reverse⟩
    else attributesFrom known (pos + c.utf8Size) (.value start key q (c :: seen)) cs

def tagName (content : List Char) : List Char :=
  content.takeWhile fun c => !Text.isSeparator c

def tagRest (content : List Char) : List Char :=
  content.dropWhile fun c => !Text.isSeparator c

def rawAttributes (content : List Char) : RawAttributes :=
  attributesFrom [] (Text.byteLength (tagName content)) .between (tagRest content)

def RawAttribute.decode (a : RawAttribute) : Except Fault Attribute :=
  match unescape a.value with
  | .ok v => .ok (String.ofList a.key, String.ofList v)
  | .error f => .error (.reference f)

def RawAttributes.decode (r : RawAttributes) : Except Fault (List Attribute) := do
  let decoded ← r.attributes.mapM RawAttribute.decode
  match r.fault with
  | none => return decoded
  | some f => throw (.attribute f)

def tagAttributes (content : List Char) : Except Fault (List Attribute) :=
  (rawAttributes content).decode

end ExtensionAdmin.Xml
