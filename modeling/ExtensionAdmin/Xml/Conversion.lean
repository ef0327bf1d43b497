import ExtensionAdmin.Json.Printer
import ExtensionAdmin.Json.Reader
import ExtensionAdmin.Xml.Node

/-! Between trees and structured values. A node becomes an object of its attributes and of its
children grouped by name; text and attribute values are taken as JSON where they are JSON, and as
strings otherwise. In the other direction the scalar members of an object become attributes and all
others child elements. -/

namespace ExtensionAdmin.Xml

open Json (Value Members)

/-- The value of a raw text: the JSON value that it spells, white space around it aside, or else the
text itself. -/
def literal (raw : String) : Value :=
  (Json.read? (Text.trim raw.toList)).getD (.string raw)

/-- One more value under a name that may be taken: the second and later ones make a sequence. -/
def merged (value : Value) : Option Value → Value
  | none => value
  | some (.array items) => .array (items ++ [value])
  | some first => .array [first, value]

def merge (name : String) (value : Value) (ms : Members) : Members :=
  Members.alter name (merged value) ms

def attributeMembers (attributes : List Attribute) : Members :=
  attributes.foldl (fun ms a => Members.insert a.1 (literal a.2) ms) []

namespace Node

mutual

def toValue : Node → Value
  | .text content => literal content
  | .document children => .object (mergeChildren [] children)
  | .element _ attributes children => .object (mergeChildren (attributeMembers attributes) children)

def mergeChildren (ms : Members) : List Node → Members
  | [] => ms
  | n :: ns => mergeChildren (merge n.name (toValue n) ms) ns

end

end Node

def readValue (s : String) : Except Fault Value :=
  (Node.parse s).map Node.toValue

def scalarAttributes (ms : Members) : List Attribute :=
  ms.filterMap fun m =>
    if m.2.isScalar && m.1 ≠ Node.textName then some (m.1, m.2.plainText) else none

def scalarText? (ms : Members) : Option String :=
  (ms.find? fun m => m.2.isScalar && m.1 = Node.textName).map fun m => m.2.plainText

def hasChildren (ms : Members) : Bool :=
  ms.any fun m => !m.2.isScalar

mutual

def writeValue (name : String) : Value → Except Fault (List Char)
  | .array _ => .error (.bareSequence name)
  | .object ms =>
    let attributes := scalarAttributes ms
    match scalarText? ms, hasChildren ms with
    | none, false => .ok (emptyTag name attributes)
    | text, _ => do
      let inner ← writeMembers ms
      return startTag name attributes ++ escape (text.getD "").toList ++ inner ++ endTag name
  | v => .ok (startTag name [] ++ escape v.plainText.toList ++ endTag name)

def writeMembers : List (String × Value) → Except Fault (List Char)
  | [] => .ok []
  | (name, .object ms) :: rest => do
    let first ← writeValue name (.object ms)
    let others ← writeMembers rest
    return first ++ others
  | (name, .array items) :: rest => do
    let first ← writeItems name items
    let others ← writeMembers rest
    return first ++ others
  | _ :: rest => writeMembers rest

def writeItems (name : String) : List Value → Except Fault (List Char)
  | [] => .ok []
  | .array _ :: _ => .error (.nestedSequence name)
  | v :: rest => do
    let first ← writeValue name v
    let others ← writeItems name rest
    return first ++ others

end

def writeDocument (root : String) (v : Value) : Except Fault String :=
  (writeValue root v).map String.ofList

end ExtensionAdmin.Xml
