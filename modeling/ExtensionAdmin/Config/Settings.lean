import ExtensionAdmin.Config.Yaml.Document
import ExtensionAdmin.Config.Yaml.Printer
import ExtensionAdmin.Error
import ExtensionAdmin.Url.Basic

/-! Connection settings: where the server is, and how to speak to it. Settings come from a file,
from environment variables, or from both, in which case the variables win. They can be used once
they are validated. -/

namespace ExtensionAdmin

open Json (Value Members Decoded)

structure Settings where
  baseUrl : String
  apiVersion : String
  authToken : String
  timeout : Nat
deriving DecidableEq, Repr

namespace Settings

def default : Settings := ⟨"", "29.0", "", 30⟩

def baseUrlVariable : String := "VCD_BASE_URL"

def apiVersionVariable : String := "VCD_API_VERSION"

def authTokenVariable : String := "VCD_AUTH_TOKEN"

def timeoutVariable : String := "VCD_TIMEOUT"

def withEnvironment (s : Settings) (lookup : String → Option String) :
    Except ConfigFault Settings := do
  let s := { s with
    baseUrl := (lookup baseUrlVariable).getD s.baseUrl
    apiVersion := (lookup apiVersionVariable).getD s.apiVersion
    authToken := (lookup authTokenVariable).getD s.authToken }
  match lookup timeoutVariable with
  | none => return s
  | some text =>
    match Text.readWhole text with
    | .ok n => return { s with timeout := n }
    | .error f => throw (.invalidTimeout f)

def endpoint (s : Settings) : Except ConfigFault Url :=
  match Url.parse s.baseUrl with
  | .error f => .error (.invalidUrl f)
  | .ok (.other scheme) => .error (.unsupportedScheme scheme)
  | .ok (.web url) => .ok url

def validate (s : Settings) : Except ConfigFault Unit := do
  discard s.endpoint
  if Text.blank s.authToken then throw .missingToken
  if Text.blank s.apiVersion then throw .missingVersion
  if s.timeout = 0 then throw .zeroTimeout

def validated (s : Settings) : Except ConfigFault Settings := do
  s.validate
  return s

def checkMember : String × Value → Decoded Unit
  | (name, v) =>
    if name = "timeout" then discard v.toUInt64
    else if name = "base_url" || name = "api_version" || name = "auth_token" then discard v.toText
    else .ok ()

def ofMembers (ms : Members) : Decoded Settings := do
  ms.forM checkMember
  return {
    baseUrl := ← ms.optional "base_url" default.baseUrl Value.toText
    apiVersion := ← ms.optional "api_version" default.apiVersion Value.toText
    authToken := ← ms.optional "auth_token" default.authToken Value.toText
    timeout := ← ms.optional "timeout" default.timeout Value.toUInt64 }

def ofValue : Value → Decoded Settings
  | .object ms => ofMembers ms
  | .array items =>
    Json.positionally items do
      return {
        baseUrl := ← Json.nextOr (.ok default.baseUrl) Value.toText
        apiVersion := ← Json.nextOr (.ok default.apiVersion) Value.toText
        authToken := ← Json.nextOr (.ok default.authToken) Value.toText
        timeout := ← Json.nextOr (.ok default.timeout) Value.toUInt64 }
  | v => .error (.wrongType v "struct ClientConfig")

def wholeIn? (base : Nat) (cs : List Char) : Option Nat :=
  if cs.isEmpty then none
  else (Text.inBase? base cs).bind fun n => if n < 0x10000000000000000 then some n else none

/-- A number of seconds in a file: decimal without leading zeros, or hexadecimal, octal or
binary. -/
def fileWhole? (cs : List Char) : Option Nat :=
  let unsigned := if cs.head? = some '+' then cs.drop 1 else cs
  match unsigned with
  | '0' :: 'x' :: ds => wholeIn? 16 ds
  | '0' :: 'o' :: ds => wholeIn? 8 ds
  | '0' :: 'b' :: ds => wholeIn? 2 ds
  | '0' :: _ :: _ => none
  | ds => wholeIn? 10 ds

def wholeTag : List Char := "tag:yaml.org,2002:int".toList

def seconds? (s : Config.Yaml.Scalar) : Option Nat :=
  if s.style = .plain || (s.style = .literal && s.tag = some wholeTag) then
    fileWhole? s.text.toList
  else none

/-- One entry of a file on top of settings; the names that were set so far must not come again. -/
def addEntry (d : Config.Yaml.Document) :
    Settings × List String → Config.Yaml × Config.Yaml → Option (Settings × List String)
  | (s, seen), (key, value) => do
    let name := (← d.scalar? key).text
    if name = "base_url" || name = "api_version" || name = "auth_token" || name = "timeout" then
      if seen.contains name then none
      let content ← d.scalar? value
      let s ←
        if name = "base_url" then some { s with baseUrl := content.text }
        else if name = "api_version" then some { s with apiVersion := content.text }
        else if name = "auth_token" then some { s with authToken := content.text }
        else (seconds? content).map fun n => { s with timeout := n }
      return (s, name :: seen)
    else return (s, seen)

def ofFile? (text : String) : Option Settings := do
  let d ← Config.Yaml.read? text.toList
  match d.root with
  | .scalar s => if s.text.isEmpty && s.style = .plain then some default else none
  | .mapping entries => (entries.foldlM (addEntry d) (default, [])).map (·.1)
  | _ => none

inductive Source where
  | content (text : String)
  | unreadable (detail : String)
deriving DecidableEq, Repr

def readSource : Source → Except ConfigFault Settings
  | .unreadable detail => .error (.unreadable detail)
  | .content text =>
    match ofFile? text with
    | some s => .ok s
    | none => .error (.malformed "malformed document")

def fromFile (source : Source) : Except ConfigFault Settings := do
  (← readSource source).validated

def fromEnvironment (lookup : String → Option String) : Except ConfigFault Settings := do
  (← default.withEnvironment lookup).validated

def load (source : Option Source) (lookup : String → Option String) :
    Except ConfigFault Settings := do
  let s ←
    match source with
    | some f => readSource f
    | none => pure default
  (← s.withEnvironment lookup).validated

def toFile (s : Settings) : String :=
  String.ofList (
    Config.Yaml.renderEntry "base_url" (Config.Yaml.renderText s.baseUrl) ++
    Config.Yaml.renderEntry "api_version" (Config.Yaml.renderText s.apiVersion) ++
    Config.Yaml.renderEntry "auth_token" (Config.Yaml.renderText s.authToken) ++
    Config.Yaml.renderEntry "timeout" (Nat.toDigits 10 s.timeout))

end Settings

end ExtensionAdmin
