import ExtensionAdmin.Config.Settings
import ExtensionAdmin.Console.CommandLine
import ExtensionAdmin.Console.Terminal
import ExtensionAdmin.Entity.ServiceRecord
import ExtensionAdmin.Entity.UiPlugin
import ExtensionAdmin.Service.ApiExtensions
import ExtensionAdmin.Service.UiPlugins
import ExtensionAdmin.Text.Basic

/-! The program: a command carried out against a server, with the operator at a terminal. -/

namespace ExtensionAdmin.Console

open Batch (Dialogue Environment Inventory Outcome Transition)
open Http (Client Network)
open Service (Endpoint)

class Tabular (α : Type) extends Entity α where
  header : List String
  row : α → List String

def truth (b : Bool) : String := if b then "true" else "false"

instance : Tabular ServiceRecord where
  header := ["NAME", "NAMESPACE", "ENABLED", "HREF"]
  row r := [r.name, r.nameSpace, truth r.enabled, r.href]

instance : Tabular UiPlugin where
  header := ["ID", "NAME", "VERSION", "VENDOR", "ENABLED", "SCOPE"]
  row p := [p.id, p.name, p.version, p.vendor, truth p.enabled, p.scope.display]

def widths (rows : List (List String)) : List Nat :=
  match rows with
  | [] => []
  | first :: rest =>
    rest.foldl (fun ws row => ws.zipWith max (row.map String.length)) (first.map String.length)

def pad (cell : String) (width : Nat) : List Char :=
  cell.toList ++ List.replicate (width - cell.length) ' '

def line (ws : List Nat) (row : List String) : List Char :=
  Text.dropEndWhile Text.isBlank ([' ', ' '].intercalate (row.zipWith pad ws))

def table {α : Type} [Tabular α] (entities : List α) : String :=
  let rows := Tabular.header α :: entities.map Tabular.row
  String.ofList (['\n'].intercalate (rows.map (line (widths rows))))

def programName : String := "plugin-lifecycle"

def version : String := "0.1.0"

def configVariable : String := "PLUGIN_LIFECYCLE_CONFIG"

def buildLine (build : String) : String := version ++ " (" ++ build ++ ")"

def versionLine : String := programName ++ " " ++ version ++ "\n"

variable {α : Type} [Tabular α]

def listing : Dialogue α (Except Error String) := do
  match ← Batch.load Inventory.empty with
  | (.error e, _) => return .error e
  | (.ok _, i) => return .ok (table i.entities ++ "\n")

def chosen (i : Inventory α) (targets : Targets) : Except Error (Inventory α) :=
  if targets.all then .ok i.selectAll else i.select targets.ids

def summary (t : Transition) (i : Inventory α) : Outcome → String
  | .nothingSelected => s!"No {(Entity.kind α).plural} to act on.\n"
  | .declined => "Cancelled, nothing was changed.\n"
  | .alreadySatisfied _ => ""
  | .completed r =>
    (if 0 < r.remedied then
      s!"Disabled {r.remedied} {(Entity.kind α).plural} before deleting.\n" else "") ++
    s!"{t.title}: {r.succeeded} of {r.requested} requests succeeded.\n" ++
    table i.entities ++ "\n"

def changing (supports : Transition → Bool) (targets : Targets) (t : Transition) :
    Dialogue α (Except Error String) := do
  match ← Batch.load Inventory.empty with
  | (.error e, _) => return .error e
  | (.ok _, i) =>
    match chosen i targets with
    | .error e => return .error e
    | .ok i =>
      match ← Batch.run supports i t with
      | (.error e, _) => return .error e
      | (.ok outcome, i) => return .ok (summary t i outcome)

def dialogue (supports : Transition → Bool) : Action → Dialogue α (Except Error String)
  | .list => listing
  | .change verb targets scopes =>
    match verb.transition? scopes with
    | none => listing
    | some t => changing supports targets t

structure Ending where
  status : Nat
  output : String
  error : Option Error
deriving DecidableEq, Repr

def carryOut {σ : Type} (ep : Endpoint α) (c : Client) (net : Network σ) (terminal : Terminal)
    (w : σ) (action : Action) : Ending × σ :=
  let env := ep.environment c net (fun m (t : Terminal) =>
    let (yes, t) := t.ask m
    (some yes, t)) id
  let played := (dialogue ep.supports action).play env .idle (terminal, w)
  let (terminal, w) := played.world
  match played.result with
  | some (.ok text) => (⟨0, (terminal.say text).output, none⟩, w)
  | some (.error e) => (⟨1, terminal.output, some e⟩, w)
  | none => (⟨1, terminal.output, none⟩, w)

def runCommand {σ : Type} (net : Network σ) (w : σ) (input : List UInt8)
    (settings : Except ConfigFault Settings) (command : Invocation) : Ending × σ :=
  match settings.bind Client.ofSettings with
  | .error f => (⟨1, "", some (.config f)⟩, w)
  | .ok c =>
    let terminal : Terminal := ⟨command.yes, false, input, ""⟩
    match command.kind with
    | .apiExtension => carryOut Service.ApiExtensions.endpoint c net terminal w command.action
    | .uiPlugin => carryOut Service.UiPlugins.endpoint c net terminal w command.action

def usageLine : String := "Usage: " ++ programName ++ " [OPTIONS] <COMMAND>\n"

def isUsageError : UsageFault → Bool
  | .displayHelp => false
  | .displayVersion => false
  | .displayHelpOnMissing => false
  | _ => true

/-- How a faulty command line ends. Help and the version are no failures; what they print, the
version aside, is left to the outer layer. -/
def usageEnding : UsageFault → Ending
  | .displayHelp => ⟨0, "", none⟩
  | .displayVersion => ⟨0, versionLine, none⟩
  | _ => ⟨2, "", none⟩

end ExtensionAdmin.Console
