import ExtensionAdmin.Batch.Dialogue
import ExtensionAdmin.Batch.Inventory
import ExtensionAdmin.Batch.Plan

/-! The course of a batch. A batch is confirmed by the operator, sent as one wave of requests, and
followed by one fetch of the list. A refused deletion is remedied, if the operator agrees, by a wave
that disables what is enabled and a second wave of deletions. -/

namespace ExtensionAdmin.Batch

variable {α : Type} [Entity α]

abbrev Ended (α : Type) := Except Error Outcome × Inventory α

def refresh (i : Inventory α) : Dialogue α (Except Error Unit × Inventory α) :=
  .list fun
    | .ok fresh => .done (.ok (), i.replace fresh)
    | .error e => .done (.error e, i)

def load (i : Inventory α) : Dialogue α (Except Error Unit × Inventory α) :=
  refresh i.clear

def settle (t : Transition) : Nat → List α → Tally → Dialogue α Tally
  | 0, _, tally => .done tally
  | n + 1, underWay, tally =>
    .await underWay t fun i v => settle t n (underWay.eraseIdx i) (tally.add v)

/-- Sends a request for each entity, and then waits for those that were not answered at once. An
error changes the tally and nothing else: what is left is still sent and waited for. -/
def gather (t : Transition) : List α → List α → Tally → Dialogue α Tally
  | [], underWay, tally => settle t underWay.length underWay tally
  | e :: rest, underWay, tally =>
    .send e t fun
      | some v => gather t rest underWay (tally.add v)
      | none => gather t rest (underWay ++ [e]) tally

def execute (entities : List α) (t : Transition) : Dialogue α (Except Error Report) := do
  let tally ← gather t entities [] .fresh
  return tally.report t entities.length

def abort (i : Inventory α) (outcome : Outcome) : Dialogue α (Ended α) :=
  .close (.enter .aborted (.enter .idle (.done (.ok outcome, i))))

def disableAndDelete (entities : List α) : Dialogue α (Except Error Report) := do
  match ← execute entities .disable with
  | .error e => return .error e
  | .ok _ =>
    match ← execute entities .delete with
    | .error e => return .error e
    | .ok report => return .ok { report with remedied := entities.length }

def settled (result : Except Error Report) : Phase :=
  match result with
  | .ok _ => .succeeded
  | .error _ => .failed

def remedy (p : Plan α) (refusal : Error) : Dialogue α (Except Error Report) :=
  if p.enabledEligible.isEmpty then .enter .failed (.done (.error refusal))
  else
    .enter .failed (.enter .confirming (.ask p.remedyQuestion fun
      | true => .enter .executing (do
          let result ← disableAndDelete p.enabledEligible
          .enter (settled result) (.done result))
      | false => .enter .aborted (.done (.error refusal))))

def submit (p : Plan α) : Dialogue α (Except Error Report) := do
  match ← execute p.eligible p.transition with
  | .ok report => .enter .succeeded (.done (.ok report))
  | .error e =>
    if p.transition = .delete ∧ e.isRefusal then remedy p e
    else .enter .failed (.done (.error e))

/-- The result of a batch and of the fetch after it: the batch's own error comes first. -/
def conclude (result : Except Error Report) (refreshed : Except Error Unit) :
    Except Error Outcome :=
  match result, refreshed with
  | .ok report, .ok _ => .ok (.completed report)
  | .ok _, .error e => .error e
  | .error e, _ => .error e

def carryOut (i : Inventory α) (p : Plan α) : Dialogue α (Ended α) :=
  .close (.enter .executing (do
    let result ← submit p
    let (refreshed, fresh) ← refresh i
    .enter .idle (.done (conclude result refreshed, fresh))))

def confirm (i : Inventory α) (p : Plan α) : Dialogue α (Ended α) :=
  .enter .confirming (.ask p.question fun
    | false => abort i .declined
    | true =>
      if p.isNoop then .ask p.notice fun _ => abort i (.alreadySatisfied p.total)
      else if p.isPartial then
        .enter .confirming (.ask p.partialQuestion fun
          | true => carryOut i p
          | false => abort i .declined)
      else carryOut i p)

def run (supports : Transition → Bool) (i : Inventory α) (t : Transition) : Dialogue α (Ended α) :=
  if i.selected.isEmpty then .done (.ok .nothingSelected, i)
  else if supports t then confirm i (Plan.ofSelection i.selected t)
  else
    .done (.error (.unsupported s!"{t.display} is not available for {(Entity.kind α).plural}"), i)

end ExtensionAdmin.Batch
