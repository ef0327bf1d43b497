import ExtensionAdmin.Entity.Basic
import ExtensionAdmin.Error

/-! The list that was fetched last, and the operator's selection from it. -/

namespace ExtensionAdmin.Batch

structure Inventory (α : Type) where
  entities : List α
  selected : List α
deriving DecidableEq, Repr

namespace Inventory

variable {α : Type} [Entity α]

def empty : Inventory α := ⟨[], []⟩

/-- A freshly fetched list. What was selected and is still there stays selected, as its fresh copy
and in the order of the fresh list. -/
def replace (i : Inventory α) (fresh : List α) : Inventory α where
  entities := fresh
  selected := fresh.filter fun e => i.selected.any fun s => Entity.key s == Entity.key e

/-- The first entity with a key, or else the first with that name. -/
def find? (i : Inventory α) (ident : String) : Option α :=
  match i.entities.find? fun e => Entity.key e == ident with
  | some e => some e
  | none => i.entities.find? fun e => Entity.name e == ident

def addNew (selected : List α) (e : α) : List α :=
  if selected.any fun s => Entity.key s == Entity.key e then selected else selected ++ [e]

def collect (i : Inventory α) : List α → List String → Except Error (List α)
  | selected, [] => .ok selected
  | selected, ident :: rest =>
    match i.find? ident with
    | none => .error (.notFound s!"{(Entity.kind α).singular} '{ident}'")
    | some e => i.collect (addNew selected e) rest

def select (i : Inventory α) (idents : List String) : Except Error (Inventory α) :=
  (i.collect [] idents).map fun selected => { i with selected }

def selectAll (i : Inventory α) : Inventory α := { i with selected := i.entities }

def clear (i : Inventory α) : Inventory α := { i with selected := [] }

def canEnable (i : Inventory α) : Bool := i.selected.any fun e => !Entity.enabled e

def canDisable (i : Inventory α) : Bool := i.selected.any fun e => Entity.enabled e

def hasNamed (i : Inventory α) (name : String) : Bool :=
  i.entities.any fun e => Entity.name e == name

end Inventory

end ExtensionAdmin.Batch
