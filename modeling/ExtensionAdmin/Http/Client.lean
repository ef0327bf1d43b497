import ExtensionAdmin.Config.Settings
import ExtensionAdmin.Http.Message

/-! Building requests: where they go, and the session token and the version of the interface that
they carry. -/

namespace ExtensionAdmin.Http

structure Client where
  base : Url
  apiVersion : String
  token : String
deriving DecidableEq, Repr

inductive Format where
  | xml
  | json
deriving DecidableEq, Repr

namespace Client

def ofSettings (s : Settings) : Except ConfigFault Client := do
  s.validate
  return ⟨← s.endpoint, s.apiVersion, s.authToken⟩

def url (c : Client) (path : String) : Except ConfigFault Url :=
  match c.base.join path with
  | .error f => .error (.invalidUrl f)
  | .ok (.other scheme) => .error (.unsupportedScheme scheme)
  | .ok (.web url) => .ok url

def accept (c : Client) : Format → String
  | .xml => "application/*+xml;version=" ++ c.apiVersion
  | .json => "application/json;version=" ++ c.apiVersion

/-- A request for a path. The URL is looked at first, the headers second, and then whether the URL
can be the target of a request. -/
def request (c : Client) (method : Method) (path : String) (format : Format)
    (contentType : Option String) (body : String) : Except Error Request :=
  match c.url path with
  | .error f => .error (.config f)
  | .ok url =>
    if isHeaderValue c.token && isHeaderValue (c.accept format) then
      if url.isTarget then .ok ⟨method, url, c.token, c.accept format, contentType, body⟩
      else .error (.transport .invalidTarget)
    else .error (.transport .invalidHeader)

def bare (c : Client) (method : Method) (path : String) (format : Format) : Except Error Request :=
  c.request method path format none ""

end Client

end ExtensionAdmin.Http
