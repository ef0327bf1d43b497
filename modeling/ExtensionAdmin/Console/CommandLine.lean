import ExtensionAdmin.Batch.Plan

/-! The command line: a family of entities, an action on it, and options. Words are read from left
to right, one level of commands inside another. An option that takes a value is only looked at when
the next option or a positional word after it is met, or its level ends; until then other mistakes
come first. A level is checked when the levels inside it are done. -/

namespace ExtensionAdmin.Console

open Batch (Transition)

inductive UsageFault where
  | displayHelp
  | displayVersion
  | displayHelpOnMissing
  | missingSubcommand
  | invalidSubcommand
  | unknownArgument
  | invalidValue
  | tooManyValues
  | argumentConflict
  | missingRequiredArgument
deriving DecidableEq, Repr

def UsageFault.name : UsageFault → String
  | .displayHelp => "DisplayHelp"
  | .displayVersion => "DisplayVersion"
  | .displayHelpOnMissing => "DisplayHelpOnMissingArgumentOrSubcommand"
  | .missingSubcommand => "MissingSubcommand"
  | .invalidSubcommand => "InvalidSubcommand"
  | .unknownArgument => "UnknownArgument"
  | .invalidValue => "InvalidValue"
  | .tooManyValues => "TooManyValues"
  | .argumentConflict => "ArgumentConflict"
  | .missingRequiredArgument => "MissingRequiredArgument"

inductive Verb where
  | list
  | enable
  | disable
  | delete
  | scope
  | publish
  | unpublish
deriving DecidableEq, Repr

def Verb.name : Verb → String
  | .list => "list"
  | .enable => "enable"
  | .disable => "disable"
  | .delete => "delete"
  | .scope => "scope"
  | .publish => "publish"
  | .unpublish => "unpublish"

def verbs : Kind → List Verb
  | .apiExtension => [.list, .enable, .disable, .delete]
  | .uiPlugin => [.list, .enable, .disable, .delete, .scope, .publish, .unpublish]

def familyName : Kind → String
  | .apiExtension => "extensions"
  | .uiPlugin => "plugins"

inductive Level where
  | program
  | family (kind : Kind)
  | action (kind : Kind) (verb : Verb)
deriving DecidableEq, Repr

def Level.enter? : Level → String → Option Level
  | .program, word =>
    ([Kind.apiExtension, .uiPlugin].find? fun k => familyName k = word).map .family
  | .family kind, word => ((verbs kind).find? fun v => v.name = word).map (.action kind)
  | .action _ _, _ => none

def Level.isOpen : Level → Bool
  | .action _ _ => false
  | _ => true

def Level.takesTargets : Level → Bool
  | .action _ v => v != .list
  | _ => false

def Level.takesScopes : Level → Bool
  | .action _ v => v == .scope
  | _ => false

inductive Valued where
  | config
  | scope
deriving DecidableEq, Repr

inductive Flag where
  | yes
  | all
  | help
  | version
deriving DecidableEq, Repr

/-- What was read at one level. `pending` is an option whose value, if it has one yet, is still to
be looked at. -/
structure Given where
  config : Option String
  yes : Bool
  all : Bool
  scopes : List String
  ids : List String
  pending : Option (Valued × Option String)
deriving DecidableEq, Repr

namespace Given

def nothing : Given := ⟨none, false, false, [], [], none⟩

def take (g : Given) : Valued → String → Except UsageFault Given
  | .config, v =>
    if g.config.isSome then .error .argumentConflict
    else if v.isEmpty then .error .invalidValue
    else .ok { g with config := some v }
  | .scope, v =>
    if v = Scope.serviceProviderName || v = Scope.tenantName then
      .ok { g with scopes := g.scopes ++ [v] }
    else .error .invalidValue

def settle (g : Given) : Except UsageFault Given :=
  match g.pending with
  | none => .ok g
  | some (_, none) => .error .invalidValue
  | some (o, some v) => { g with pending := none }.take o v

def raise (g : Given) (f : Flag) : Except UsageFault Given := do
  let g ← g.settle
  match f with
  | .yes => if g.yes then throw .argumentConflict else return { g with yes := true }
  | .all => if g.all then throw .argumentConflict else return { g with all := true }
  | .help => throw .displayHelp
  | .version => throw .displayVersion

def attach (g : Given) (o : Valued) (v : String) : Except UsageFault Given := do
  (← g.settle).take o v

def await (g : Given) (o : Valued) : Except UsageFault Given := do
  return { ← g.settle with pending := some (o, none) }

def awaits (g : Given) : Option Valued :=
  match g.pending with
  | some (o, none) => some o
  | _ => none

def target (g : Given) (word : String) : Except UsageFault Given := do
  let g ← g.settle
  return { g with ids := g.ids ++ [word] }

end Given

def longOption? (l : Level) (name : String) : Option (Valued ⊕ Flag) :=
  if name = "config" then some (.inl .config)
  else if name = "yes" then some (.inr .yes)
  else if name = "help" then some (.inr .help)
  else if name = "version" && l = .program then some (.inr .version)
  else if name = "all" && l.takesTargets then some (.inr .all)
  else if name = "scope" && l.takesScopes then some (.inl .scope)
  else none

def shortOption? (l : Level) (c : Char) : Option (Valued ⊕ Flag) :=
  if c = 'c' then some (.inl .config)
  else if c = 'y' then some (.inr .yes)
  else if c = 'h' then some (.inr .help)
  else if c = 'V' && l = .program then some (.inr .version)
  else none

def readLong (l : Level) (g : Given) (cs : List Char) : Except UsageFault Given :=
  let name := String.ofList (cs.takeWhile (· != '='))
  let value :=
    match cs.dropWhile (· != '=') with
    | [] => none
    | _ :: v => some (String.ofList v)
  match longOption? l name, value with
  | none, _ => .error .unknownArgument
  | some (.inl o), some v => g.attach o v
  | some (.inl o), none => g.await o
  | some (.inr _), some _ => .error .tooManyValues
  | some (.inr f), none => g.raise f

def readShort (l : Level) (g : Given) : List Char → Except UsageFault Given
  | [] => .ok g
  | c :: cs =>
    match shortOption? l c with
    | none => .error .unknownArgument
    | some (.inr f) =>
      match g.raise f with
      | .error e => .error e
      | .ok g => readShort l g cs
    | some (.inl o) =>
      match cs with
      | [] => g.await o
      | '=' :: v => g.attach o (String.ofList v)
      | v => g.attach o (String.ofList v)

def strayWord (l : Level) (afterDashes : Bool) (word : String) : UsageFault :=
  if afterDashes && ((l.enter? word).isSome || (l.isOpen && word = "help")) then .unknownArgument
  else if l.isOpen then .invalidSubcommand
  else .unknownArgument

def helpOn (l : Level) : List String → UsageFault
  | [] => .displayHelp
  | word :: rest =>
    match l.enter? word with
    | some inner => helpOn inner rest
    | none => if l.isOpen && word = "help" then helpOn (.action .apiExtension .list) rest
      else .invalidSubcommand

def finishLevel (l : Level) (inner : Bool) (env : Option String) (g : Given) :
    Except UsageFault Given := do
  let g ← g.settle
  if g.config.isNone && env = some "" then throw .invalidValue
  if l.isOpen && !inner then
    if g.config.isNone && !g.yes && env.isNone then throw .displayHelpOnMissing
    else throw .missingSubcommand
  if g.all && !g.ids.isEmpty then throw .argumentConflict
  if l.takesTargets && !g.all && g.ids.isEmpty then throw .missingRequiredArgument
  if l.takesScopes && g.scopes.isEmpty then throw .missingRequiredArgument
  return g

/-- Reads the words of a level and of those inside it: the innermost level, and what was given at
each level, outermost first. -/
def readLevel (env : Option String) : Level → Bool → Given → List String →
    Except UsageFault (Level × List Given)
  | l, _, g, [] => do
    let g ← finishLevel l false env g
    return (l, [g])
  | l, afterDashes, g, word :: rest =>
    let positional : Except UsageFault (Level × List Given) :=
      if l.takesTargets then
        match g.target word with
        | .error e => .error e
        | .ok g => readLevel env l afterDashes g rest
      else .error (strayWord l afterDashes word)
    if afterDashes then positional
    else
      match (if g.awaits.isSome then none else l.enter? word) with
      | some inner => do
        let (leaf, below) ← readLevel env inner false .nothing rest
        let g ← finishLevel l true env g
        return (leaf, g :: below)
      | none =>
        if g.awaits.isNone && l.isOpen && word = "help" then .error (helpOn l rest)
        else
          match word.toList with
          | ['-', '-'] => readLevel env l true g rest
          | '-' :: '-' :: cs =>
            match readLong l g cs with
            | .error e => .error e
            | .ok g => readLevel env l false g rest
          | '-' :: c :: cs =>
            match readShort l g (c :: cs) with
            | .error e => .error e
            | .ok g => readLevel env l false g rest
          | _ =>
            match g.awaits with
            | some o => readLevel env l false { g with pending := some (o, some word) } rest
            | none => positional

structure Targets where
  ids : List String
  all : Bool
deriving DecidableEq, Repr

inductive Action where
  | list
  | change (verb : Verb) (targets : Targets) (scopes : List String)
deriving DecidableEq, Repr

structure Invocation where
  config : Option String
  yes : Bool
  kind : Kind
  action : Action
deriving DecidableEq, Repr

def Verb.transition? (scopes : List String) : Verb → Option Transition
  | .list => none
  | .enable => some .enable
  | .disable => some .disable
  | .delete => some .delete
  | .scope => some (.changeScope (Scope.ofNames scopes))
  | .publish => some .publishAll
  | .unpublish => some .unpublishAll

def innermostConfig (env : Option String) (levels : List Given) : Option String :=
  ((levels.reverse.find? fun g => g.config.isSome).bind (·.config)).or env

def parseCommand (words : List String) (env : Option String) : Except UsageFault Invocation := do
  let (leaf, levels) ← readLevel env .program false .nothing words
  let last := levels.getLastD .nothing
  match leaf with
  | .action kind verb =>
    return {
      config := innermostConfig env levels
      yes := levels.any (·.yes)
      kind
      action := if verb = .list then .list else .change verb ⟨last.ids, last.all⟩ last.scopes }
  | _ => throw .missingSubcommand

end ExtensionAdmin.Console
