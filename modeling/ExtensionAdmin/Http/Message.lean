import ExtensionAdmin.Error
import ExtensionAdmin.Url.Basic
import ExtensionAdmin.Xml.Conversion

/-! Requests to the server, its responses, and what the body of an error response says. -/

namespace ExtensionAdmin.Http

open Json (Value)

inductive Method where
  | get
  | put
  | post
  | delete
deriving DecidableEq, Repr

def Method.name : Method → String
  | .get => "GET"
  | .put => "PUT"
  | .post => "POST"
  | .delete => "DELETE"

structure Request where
  method : Method
  url : Url
  token : String
  accept : String
  contentType : Option String
  body : String
deriving DecidableEq, Repr

structure Response where
  status : Nat
  body : String
deriving DecidableEq, Repr

/-- Whether a text can be the value of a header: it holds no control character other than a tab. -/
def isHeaderValue (s : String) : Bool :=
  s.toList.all fun c => c == '\t' || (0x20 ≤ c.toNat && c.toNat != 0x7F)

def reason? (status : Nat) : Option String :=
  [(100, "Continue"), (101, "Switching Protocols"), (102, "Processing"), (200, "OK"),
    (201, "Created"), (202, "Accepted"), (203, "Non Authoritative Information"),
    (204, "No Content"), (205, "Reset Content"), (206, "Partial Content"), (207, "Multi-Status"),
    (208, "Already Reported"), (226, "IM Used"), (300, "Multiple Choices"),
    (301, "Moved Permanently"), (302, "Found"), (303, "See Other"), (304, "Not Modified"),
    (305, "Use Proxy"), (307, "Temporary Redirect"), (308, "Permanent Redirect"),
    (400, "Bad Request"), (401, "Unauthorized"), (402, "Payment Required"), (403, "Forbidden"),
    (404, "Not Found"), (405, "Method Not Allowed"), (406, "Not Acceptable"),
    (407, "Proxy Authentication Required"), (408, "Request Timeout"), (409, "Conflict"),
    (410, "Gone"), (411, "Length Required"), (412, "Precondition Failed"),
    (413, "Payload Too Large"), (414, "URI Too Long"), (415, "Unsupported Media Type"),
    (416, "Range Not Satisfiable"), (417, "Expectation Failed"), (418, "I'm a teapot"),
    (421, "Misdirected Request"), (422, "Unprocessable Entity"), (423, "Locked"),
    (424, "Failed Dependency"), (426, "Upgrade Required"), (428, "Precondition Required"),
    (429, "Too Many Requests"), (431, "Request Header Fields Too Large"),
    (451, "Unavailable For Legal Reasons"), (500, "Internal Server Error"),
    (501, "Not Implemented"), (502, "Bad Gateway"), (503, "Service Unavailable"),
    (504, "Gateway Timeout"), (505, "HTTP Version Not Supported"),
    (506, "Variant Also Negotiates"), (507, "Insufficient Storage"), (508, "Loop Detected"),
    (510, "Not Extended"), (511, "Network Authentication Required")].lookup status

def isSuccess (status : Nat) : Bool := 200 ≤ status && status < 300

abbrev Answer := Except TransportFault Response

/-- A way to reach servers. A request that is sent is answered at once, or is under way from then
on. Of a number of requests under way, `await` gives the answer that arrives next, with the place of
its request among them in the order in which they were sent; `none` if none ever arrives. -/
structure Network (σ : Type) where
  send : Request → σ → Option Answer × σ
  await : (underWay : Nat) → σ → Option (Fin underWay × Answer) × σ

def Network.unreachable (σ : Type) : Network σ where
  send _ w := (none, w)
  await
    | 0, w => (none, w)
    | _ + 1, w => (some (0, .error .unreachable), w)

def errorName : String := "Error"

def messageName : String := "message"

/-- A message in words: a string as it is, nothing for null, anything else as its compact text. -/
def messageText? : Value → Option String
  | .null => none
  | v => some v.plainText

def messageValue? (body : List Char) : Option Value :=
  match body with
  | [] => none
  | c :: _ =>
    if c = '<' then
      match Xml.Node.read body with
      | .ok document => document.toValue.at? [errorName, messageName]
      | .error _ => none
    else (Json.read? body).bind fun v => v.get? messageName

def errorMessage? (body : String) : Option String :=
  (messageValue? (Text.trim body.toList)).bind messageText?

def bodyText (body : String) : String :=
  String.ofList (Xml.withoutMark body.toList)

def failureMessage (r : Response) : String :=
  ((errorMessage? (bodyText r.body)).or (reason? r.status)).getD "Request failed"

def check (answer : Answer) : Except Error Response :=
  match answer with
  | .error f => .error (.transport f)
  | .ok r => if isSuccess r.status then .ok r else .error (.api r.status (failureMessage r))

end ExtensionAdmin.Http
