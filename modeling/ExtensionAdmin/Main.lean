import ExtensionAdmin.Console.Program

/-! The program as it runs: words, environment variables, the settings file and standard input are
read here, and what the program says is printed. Requests are built and responses read by the
library; what carries them is not part of it. The program by itself is offline: every exchange ends
as it does when no server can be reached. -/

namespace ExtensionAdmin

open Console (Ending Invocation UsageFault)

def variableNames : List String := [
  Console.configVariable, Settings.baseUrlVariable, Settings.apiVersionVariable,
  Settings.authTokenVariable, Settings.timeoutVariable]

def readVariables : IO (List (String × String)) :=
  variableNames.filterMapM fun name => do
    return (← IO.getEnv name).map fun value => (name, value)

def readSettings (path : String) : IO Settings.Source :=
  try
    return .content (← IO.FS.readFile path)
  catch e => return .unreadable e.toString

partial def readRest (input : IO.FS.Stream) (before : ByteArray) : IO ByteArray := do
  let bytes ← input.read 65536
  if bytes.isEmpty then return before
  readRest input (before ++ bytes)

def readAnswers (command : Invocation) : IO (List UInt8) := do
  if command.yes || command.action == .list then return []
  return (← readRest (← IO.getStdin) .empty).toList

def report (ending : Ending) : IO UInt32 := do
  IO.print ending.output
  match ending.error with
  | some e => IO.eprintln ("Error: " ++ e.message)
  | none => return ending.status.toUInt32
  return ending.status.toUInt32

def reportUsage (fault : UsageFault) : IO UInt32 := do
  if Console.isUsageError fault then IO.eprintln ("error: " ++ fault.name)
  else if fault != .displayVersion then IO.print Console.usageLine
  report (Console.usageEnding fault)

end ExtensionAdmin

open ExtensionAdmin in
def main (words : List String) : IO UInt32 := do
  let environment ← readVariables
  let lookup := fun name => environment.lookup name
  match Console.parseCommand words (lookup Console.configVariable) with
  | .error fault => reportUsage fault
  | .ok command =>
    let source ← command.config.mapM readSettings
    let answers ← readAnswers command
    let (ending, _) := Console.runCommand (Http.Network.unreachable Unit) () answers
      (Settings.load source lookup) command
    report ending
