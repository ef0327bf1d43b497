import ExtensionAdmin.Json.Decode
import ExtensionAdmin.Text.Basic
import ExtensionAdmin.Url.Domain
import ExtensionAdmin.Xml.Fault

/-! Everything that can go wrong while extensions and plugins are administered. -/

namespace ExtensionAdmin

inductive ConfigFault where
  | invalidUrl (fault : Url.Fault)
  | unsupportedScheme (scheme : String)
  | missingToken
  | missingVersion
  | zeroTimeout
  | invalidTimeout (fault : Text.WholeFault)
  | unreadable (detail : String)
  | malformed (detail : String)
  | reported (message : String)
deriving DecidableEq, Repr

def ConfigFault.message : ConfigFault → String
  | .invalidUrl f => "Invalid URL: " ++ f.message
  | .unsupportedScheme s => "Unsupported URL scheme: " ++ s
  | .missingToken => "Auth token is required"
  | .missingVersion => "API version must not be empty"
  | .zeroTimeout => "Timeout must be greater than 0"
  | .invalidTimeout f => "Invalid timeout: " ++ f.message
  | .unreadable d => "Failed to read config file: " ++ d
  | .malformed d => "Failed to parse config: " ++ d
  | .reported m => m

inductive TransportFault where
  | unreachable
  | dropped
  | invalidHeader
  | invalidTarget
  | malformedBody
deriving DecidableEq, Repr

def TransportFault.message : TransportFault → String
  | .unreachable => "connection failed"
  | .dropped => "connection closed before the response"
  | .invalidHeader => "invalid header value"
  | .invalidTarget => "URL is no request target"
  | .malformedBody => "error decoding response body"

/-- A failure. A batch fails with the number of its requests that failed and the error of one of
them. -/
inductive Error where
  | config (fault : ConfigFault)
  | transport (fault : TransportFault)
  | serialization (fault : Json.DecodeFault)
  | yaml (detail : String)
  | io (detail : String)
  | xml (fault : Xml.Fault)
  | api (status : Nat) (message : String)
  | payload (detail : String)
  | unsupported (operation : String)
  | notFound (what : String)
  | batch (failed total : Nat) (source : Error)
deriving DecidableEq, Repr

namespace Error

def message : Error → String
  | .config f => "Configuration error: " ++ f.message
  | .transport f => "HTTP client error: " ++ f.message
  | .serialization f => "Serialization error: " ++ f.message
  | .yaml d => "YAML error: " ++ d
  | .io d => "IO error: " ++ d
  | .xml f => "XML error: " ++ f.message
  | .api status m => s!"API error ({status}): {m}"
  | .payload d => "Parsing error: " ++ d
  | .unsupported d => "Unsupported operation: " ++ d
  | .notFound d => "Not found: " ++ d
  | .batch failed total source => s!"{failed} of {total} requests failed: {source.message}"

def status? : Error → Option Nat
  | .api status _ => some status
  | .batch _ _ source => source.status?
  | _ => none

def isRefusal (e : Error) : Bool :=
  e.status? = some 400 || e.status? = some 409

def isTransport : Error → Bool
  | .transport _ => true
  | .batch _ _ source => source.isTransport
  | _ => false

def root : Error → Error
  | .batch _ _ source => source.root
  | e => e

end Error

end ExtensionAdmin
