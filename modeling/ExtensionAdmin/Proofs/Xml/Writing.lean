import ExtensionAdmin.Proofs.Json.Canonical
import ExtensionAdmin.Proofs.Xml.Grouping
import ExtensionAdmin.Proofs.Xml.ValueRoundTrip

/-! What is written of a value, and which values cannot be written. A value is met part by part:
first itself, then its members or items in order, each with all that is in it. A sequence has no
element of its own, since its items are elements of the name that it stands under. So a sequence has
no place as the whole value or as an item of another sequence, and the first such sequence that is
met is the one that is refused. A value without one is written, and nothing of it is left out: each
scalar of an object is an attribute or the text of its element, and each object and each item of a
sequence is an element of its own, in order. -/

namespace ExtensionAdmin.Xml

open Fallible (bind_eq_ok)
open Json (Value Members)

inductive Place where
  | whole
  | member
  | item
deriving DecidableEq, Repr

structure Part where
  place : Place
  name : String
  value : Value

mutual

def walk (place : Place) (name : String) : Value → List Part
  | .array items => ⟨place, name, .array items⟩ :: walkItems name items
  | .object ms => ⟨place, name, .object ms⟩ :: walkMembers ms
  | v => [⟨place, name, v⟩]

def walkItems (name : String) : List Value → List Part
  | [] => []
  | v :: rest => walk .item name v ++ walkItems name rest

def walkMembers : List (String × Value) → List Part
  | [] => []
  | (name, v) :: rest => walk .member name v ++ walkMembers rest

end

attribute [local simp] walk walkItems walkMembers

attribute [local simp] writeValue writeItems writeMembers

def refusal {α : Type} : Except Fault α → Option Fault
  | .ok _ => none
  | .error f => some f

/-- A text of siblings. An element without children is an empty element, or a start tag with its end
tag. -/
inductive Shown : List Node → List Char → Prop
  | nil : Shown [] []
  | text {ns : List Node} {cs : List Char} (content : String) (others : Shown ns cs) :
      Shown (.text content :: ns) (escape content.toList ++ cs)
  | empty {ns : List Node} {cs : List Char} (name : String) (attributes : List Attribute)
      (others : Shown ns cs) :
      Shown (.element name attributes [] :: ns) (emptyTag name attributes ++ cs)
  | element {ns children : List Node} {cs inside : List Char} (name : String)
      (attributes : List Attribute) (inner : Shown children inside) (others : Shown ns cs) :
      Shown (.element name attributes children :: ns)
        (startTag name attributes ++ inside ++ endTag name ++ cs)

theorem Shown.append {ms ns : List Node} {cs ds : List Char} (first : Shown ms cs)
    (second : Shown ns ds) : Shown (ms ++ ns) (cs ++ ds) := by
  induction first with
  | nil => exact second
  | text content others ih => simpa using Shown.text content ih
  | empty name attributes others ih => simpa using Shown.empty name attributes ih
  | element name attributes inner others ihInner ih =>
    simpa using Shown.element name attributes inner ih

end ExtensionAdmin.Xml
