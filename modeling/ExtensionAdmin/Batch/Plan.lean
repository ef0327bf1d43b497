import ExtensionAdmin.Entity.Basic

/-! What a batch does to each of its entities, and a selection divided by what is still to do. -/

namespace ExtensionAdmin.Batch

inductive Transition where
  | enable
  | disable
  | delete
  | changeScope (scope : Scope)
  | publishAll
  | unpublishAll
deriving DecidableEq, Repr

namespace Transition

def title : Transition → String
  | .enable => "Enable"
  | .disable => "Disable"
  | .delete => "Delete"
  | .changeScope _ => "Change scope"
  | .publishAll => "Publish"
  | .unpublishAll => "Unpublish"

def display : Transition → String
  | .enable => "enable"
  | .disable => "disable"
  | .delete => "delete"
  | .changeScope s => "change-scope(" ++ s.display ++ ")"
  | .publishAll => "publish"
  | .unpublishAll => "unpublish"

def question (kind : Kind) : Transition → String
  | .enable => s!"Are you sure you want to enable the {kind.plural}?"
  | .disable => s!"Are you sure you want to disable the {kind.plural}?"
  | .delete => s!"Are you sure you want to delete these {kind.plural}?"
  | .changeScope s =>
    s!"Are you sure you want to change the scope of the {kind.plural} to {s.display}?"
  | .publishAll => s!"Are you sure you want to publish the {kind.plural} for all tenants?"
  | .unpublishAll => s!"Are you sure you want to unpublish the {kind.plural} from all tenants?"

def target : Transition → String
  | .enable => "enabled"
  | .disable => "disabled"
  | .delete => "deleted"
  | .changeScope s => "scoped to " ++ s.display
  | .publishAll => "published"
  | .unpublishAll => "unpublished"

/-- Whether an entity already is where the change would take it. A listing does not tell what is
published, and what is listed is not deleted. -/
def satisfiedBy {α : Type} [Entity α] (t : Transition) (e : α) : Bool :=
  match t with
  | .enable => Entity.enabled e
  | .disable => !Entity.enabled e
  | .changeScope s => Entity.scope? e == some s
  | .delete => false
  | .publishAll => false
  | .unpublishAll => false

end Transition

/-- A question, or a notice that has no label to decline with. One that waits to be closed stays
open until it is closed. -/
structure Modal where
  title : String
  body : String
  accept : Option String
  decline : Option String
  waitToClose : Bool
deriving DecidableEq, Repr

namespace Modal

def question (title body : String) : Modal := ⟨title, body, some "Yes", some "No", true⟩

def notice (title body : String) : Modal := ⟨title, body, some "OK", none, true⟩

def withLabels (m : Modal) (accept decline : String) : Modal :=
  { m with accept := some accept, decline := some decline }

def isQuestion (m : Modal) : Bool := m.decline.isSome

end Modal

structure Plan (α : Type) where
  transition : Transition
  eligible : List α
  satisfied : List α
deriving DecidableEq, Repr

namespace Plan

variable {α : Type} [Entity α]

def ofSelection (selected : List α) (t : Transition) : Plan α where
  transition := t
  eligible := selected.filter fun e => !t.satisfiedBy e
  satisfied := selected.filter fun e => t.satisfiedBy e

def total (p : Plan α) : Nat := p.eligible.length + p.satisfied.length

def isNoop (p : Plan α) : Bool := p.eligible.isEmpty

def isPartial (p : Plan α) : Bool := !p.eligible.isEmpty && !p.satisfied.isEmpty

def enabledEligible (p : Plan α) : List α := p.eligible.filter fun e => Entity.enabled e

def question (p : Plan α) : Modal :=
  .question p.transition.title (p.transition.question (Entity.kind α))

def notice (p : Plan α) : Modal :=
  .notice p.transition.title
    s!"All {p.total} {(Entity.kind α).plural} are already {p.transition.target}."

def partialQuestion (p : Plan α) : Modal :=
  .question p.transition.title
    (s!"{p.satisfied.length} of {p.total} are already {p.transition.target}. " ++
      "Do you want to proceed?")

def remedyQuestion (_ : Plan α) : Modal :=
  { (Modal.question Transition.delete.title
      s!"You must disable the {(Entity.kind α).singular}(s) before delete.").withLabels
        "Disable" "Cancel" with waitToClose := false }

end Plan

end ExtensionAdmin.Batch
