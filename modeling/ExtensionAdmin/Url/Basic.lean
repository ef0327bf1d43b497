import ExtensionAdmin.Url.Host
import ExtensionAdmin.Url.Path

/-! URLs of web servers: reading, writing, and joining a path to a base. Reading is lenient in the
way of web browsers: blanks at the ends are dropped, tabs and line breaks everywhere, backslashes
count as slashes, and what a part cannot hold is percent-encoded. -/

namespace ExtensionAdmin

inductive Scheme where
  | http
  | https
deriving DecidableEq, Repr

namespace Scheme

def name : Scheme → String
  | .http => "http"
  | .https => "https"

def defaultPort : Scheme → Nat
  | .http => 80
  | .https => 443

end Scheme

/-- A URL of a web server. The texts of its parts are encoded; the default port is left out. -/
structure Url where
  scheme : Scheme
  username : String
  password : String
  host : Url.Host
  port : Option Nat
  path : String
  query : Option String
  fragment : Option String
deriving DecidableEq, Repr

namespace Url

def endsAuthority (c : Char) : Bool := c == '/' || c == '\\' || c == '?' || c == '#'

def userinfo (cs : List Char) : String × String :=
  let name := cs.takeWhile (· != ':')
  let secret := (cs.dropWhile (· != ':')).drop 1
  (String.ofList (encode inUserinfo name), String.ofList (encode inUserinfo secret))

def splitUserinfo (cs : List Char) : Option (List Char) × List Char :=
  if cs.contains '@' then
    let tail := (cs.reverse.takeWhile (· != '@')).reverse
    (some (cs.take (cs.length - tail.length - 1)), tail)
  else (none, cs)

/-- The length of the host at the front: it ends at a colon that is not in brackets. -/
def hostLength : Bool → List Char → Nat
  | _, [] => 0
  | inside, c :: cs =>
    if c = ':' && !inside then 0
    else hostLength (if c = '[' then true else if c = ']' then false else inside) cs + 1

def readPort : Nat → List Char → Except Fault Nat
  | n, [] => .ok n
  | n, c :: cs =>
    if c.isDigit then
      let m := n * 10 + (c.toNat - 0x30)
      if 65535 < m then .error .invalidPort else readPort m cs
    else .error .invalidPort

def port? (default : Nat) (cs : List Char) : Except Fault (Option Nat) :=
  if cs.isEmpty then .ok none
  else (readPort 0 cs).map fun n => if n = default then none else some n

def hostAndPort (default : Nat) (cs : List Char) : Except Fault (Host × Option Nat) := do
  let n := hostLength false cs
  let name := cs.take n
  if name.isEmpty then throw .emptyHost
  let host ← Host.read name
  let port ← port? default ((cs.drop n).drop 1)
  return (host, port)

def tail (cs : List Char) : Option String × Option String :=
  let beforeHash := cs.takeWhile (· != '#')
  let fragment :=
    match cs.dropWhile (· != '#') with
    | [] => none
    | _ :: f => some (String.ofList (encode inFragment f))
  match beforeHash with
  | '?' :: q => (some (String.ofList (encode inQuery q)), fragment)
  | _ => (none, fragment)

def afterSlashes (scheme : Scheme) (cs : List Char) : Except Fault Url := do
  let authority := cs.takeWhile fun c => !endsAuthority c
  let rest := cs.dropWhile fun c => !endsAuthority c
  let (user, server) := splitUserinfo authority
  let (username, password) := userinfo (user.getD [])
  let (host, port) ← hostAndPort scheme.defaultPort server
  let pathText := rest.takeWhile fun c => c != '?' && c != '#'
  let (query, fragment) := tail (rest.dropWhile fun c => c != '?' && c != '#')
  return {
    scheme, username, password, host, port, query, fragment
    path := String.ofList (renderSegments (segments pathText)) }

def cleaned (cs : List Char) : List Char :=
  (Text.dropEndWhile (fun c => c.toNat ≤ 0x20) (cs.dropWhile fun c => c.toNat ≤ 0x20)).filter
    fun c => c != '\t' && c != '\n' && c != '\r'

def isSchemeChar (c : Char) : Bool :=
  c.isAlphanum || c == '+' || c == '-' || c == '.'

def splitScheme? (cs : List Char) : Option (List Char × List Char) :=
  match cs with
  | [] => none
  | c :: _ =>
    if c.isAlpha then
      match cs.dropWhile isSchemeChar with
      | ':' :: rest => some (Text.lowered (cs.takeWhile isSchemeChar), rest)
      | _ => none
    else none

inductive Reading where
  | web (url : Url)
  | other (scheme : String)
deriving DecidableEq, Repr

def checkOpaqueAuthority (cs : List Char) : Except Fault Unit := do
  let authority := cs.takeWhile fun c => c != '/' && c != '?' && c != '#'
  let (user, server) := splitUserinfo authority
  let n := hostLength false server
  let port := server.drop n
  checkOpaqueHost (server.take n)
  if (server.take n).isEmpty && (!port.isEmpty || user.any fun u => u != [] && u != [':']) then
    throw .emptyHost
  if user.isSome && server.isEmpty then throw .emptyHost
  discard (port? 0 (port.drop 1 |>.takeWhile (· != '\\')))

def checkFile (cs : List Char) : Except Fault Unit :=
  match cs with
  | a :: b :: rest =>
    if isSlash a && isSlash b then
      let host := rest.takeWhile fun c => !endsAuthority c
      if host.isEmpty || isDrive host then .ok () else discard (Host.read host)
    else .ok ()
  | _ => .ok ()

def isSpecialName (name : List Char) : Bool :=
  name == ['f', 't', 'p'] || name == ['w', 's'] || name == ['w', 's', 's']

def read (cs : List Char) : Except Fault Reading :=
  match splitScheme? (cleaned cs) with
  | none => .error .relativeWithoutBase
  | some (name, rest) =>
    if name = ['h', 't', 't', 'p'] then
      (afterSlashes .http (rest.dropWhile isSlash)).map .web
    else if name = ['h', 't', 't', 'p', 's'] then
      (afterSlashes .https (rest.dropWhile isSlash)).map .web
    else do
      if isSpecialName name then discard (afterSlashes .http (rest.dropWhile isSlash))
      else if name = ['f', 'i', 'l', 'e'] then checkFile rest
      else
        match rest with
        | '/' :: '/' :: authority => checkOpaqueAuthority authority
        | _ => pure ()
      return .other (String.ofList name)

def parse (s : String) : Except Fault Reading := read s.toList

def renderUserinfo (u : Url) : List Char :=
  if u.username.isEmpty && u.password.isEmpty then []
  else
    u.username.toList ++ (if u.password.isEmpty then [] else ':' :: u.password.toList) ++ ['@']

def server (u : Url) : List Char :=
  u.host.render ++
    (match u.port with
    | none => []
    | some n => ':' :: Nat.toDigits 10 n)

def renderScheme (u : Url) : List Char := u.scheme.name.toList ++ [':', '/', '/']

def target (u : Url) : List Char :=
  u.path.toList ++
    (match u.query with
    | none => []
    | some q => '?' :: q.toList)

/-- What of a URL is sent with a request: neither user name and password, which go into a header,
nor the fragment. -/
def renderSent (u : Url) : List Char := u.renderScheme ++ u.server ++ u.target

def render (u : Url) : List Char :=
  u.renderScheme ++ u.renderUserinfo ++ u.server ++ u.target ++
    (match u.fragment with
    | none => []
    | some f => '#' :: f.toList)

def text (u : Url) : String := String.ofList u.render

def anonymous (u : Url) : Url := { u with username := "", password := "" }

def isServerChar (c : Char) : Bool := c.isAlphanum || "!$&'()*+,-.:;=@[]_~".toList.contains c

def fits (u : Url) : Bool := u.anonymous.render.length ≤ 65534

/-- Whether a request can be sent to a URL. There are hosts with characters that no request can
name. -/
def isTarget (u : Url) : Bool := u.fits && u.server.all isServerChar

def isAbsolute (path : String) : Bool :=
  "http://".toList.isPrefixOf path.toList || "https://".toList.isPrefixOf path.toList

def joined (base : Url) (path : String) : List Char :=
  Text.dropTrailing '/' base.render ++ '/' :: Text.dropLeading '/' path.toList

/-- The URL of a path below a base. A path that is a whole URL stands for itself. -/
def join (base : Url) (path : String) : Except Fault Reading :=
  if isAbsolute path then parse path else read (joined base path)

end Url

end ExtensionAdmin
