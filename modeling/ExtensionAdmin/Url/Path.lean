import ExtensionAdmin.Text.Basic

/-! Percent-encoding, and the path of a URL as the list of its segments. Segments are separated by
slashes or backslashes. A segment of one dot stands for where it is, one of two dots for the segment
before; at the end of a path both leave an empty segment. -/

namespace ExtensionAdmin.Url

def utf8 (c : Char) : List Nat :=
  let n := c.toNat
  if n < 0x80 then [n]
  else if n < 0x800 then [0xC0 + n / 0x40, 0x80 + n % 0x40]
  else if n < 0x10000 then [0xE0 + n / 0x1000, 0x80 + n / 0x40 % 0x40, 0x80 + n % 0x40]
  else
    [0xF0 + n / 0x40000, 0x80 + n / 0x1000 % 0x40, 0x80 + n / 0x40 % 0x40, 0x80 + n % 0x40]

def percentByte (b : Nat) : List Char := ['%', Text.hexDigit (b / 16), Text.hexDigit (b % 16)]

def isControl (c : Char) : Bool := c.toNat < 0x20 || 0x7E < c.toNat

def inFragment (c : Char) : Bool :=
  isControl c || c == ' ' || c == '"' || c == '<' || c == '>' || c == '`'

def inQuery (c : Char) : Bool :=
  isControl c || c == ' ' || c == '"' || c == '#' || c == '<' || c == '>' || c == '\''

def inPath (c : Char) : Bool :=
  inFragment c || c == '#' || c == '?' || c == '\x7b' || c == '\x7d'

def inUserinfo (c : Char) : Bool :=
  inPath c || c == '/' || c == ':' || c == ';' || c == '=' || c == '@' || c == '[' || c == '\\' ||
    c == ']' || c == '^' || c == '|'

def encode (reserved : Char → Bool) (cs : List Char) : List Char :=
  cs.flatMap fun c => if reserved c then (utf8 c).flatMap percentByte else [c]

/-- The bytes that an encoded text stands for. A percent sign without two digits stands for
itself. -/
def decode : List Char → List Nat
  | [] => []
  | '%' :: a :: b :: cs =>
    match Text.digitValue? a, Text.digitValue? b with
    | some x, some y => (x * 16 + y) :: decode cs
    | _, _ => 0x25 :: decode (a :: b :: cs)
  | c :: cs => utf8 c ++ decode cs

def isSlash (c : Char) : Bool := c == '/' || c == '\\'

def dot? : List Char → Option (List Char)
  | '.' :: cs => some cs
  | '%' :: '2' :: 'e' :: cs => some cs
  | '%' :: '2' :: 'E' :: cs => some cs
  | _ => none

def isSingleDot (segment : List Char) : Bool := dot? segment == some []

def isDoubleDot (segment : List Char) : Bool := (dot? segment).bind dot? == some []

def splitSegments : List Char → List (List Char)
  | [] => [[]]
  | c :: cs =>
    match splitSegments cs with
    | [] => [[c]]
    | s :: ss => if isSlash c then [] :: s :: ss else (c :: s) :: ss

def isDrive : List Char → Bool
  | [d, s] => d.isAlpha && (s == ':' || s == '|')
  | _ => false

/-- What two dots behind a path lead to: a drive at its end stays there. -/
def parent (path : List (List Char)) : List (List Char) :=
  if path.getLast?.any isDrive then path else path.dropLast

def walk (path : List (List Char)) : List (List Char) → List (List Char)
  | [] => path
  | raw :: rest =>
    let s := encode inPath raw
    if isDoubleDot s then
      walk (if rest.isEmpty then parent path ++ [[]] else parent path) rest
    else if isSingleDot s then walk (if rest.isEmpty then path ++ [[]] else path) rest
    else walk (path ++ [s]) rest

def segments (cs : List Char) : List (List Char) :=
  match cs with
  | [] => walk [] [[]]
  | c :: rest => walk [] (splitSegments (if isSlash c then rest else c :: rest))

def renderSegments (ss : List (List Char)) : List Char :=
  ss.flatMap fun s => '/' :: s

end ExtensionAdmin.Url
