/-! Documents of scalars, sequences and mappings, and the characters of their text. -/

namespace ExtensionAdmin.Config

namespace Yaml

inductive Style where
  | plain
  | quoted
  | literal
  | folded
deriving DecidableEq, Repr

structure Scalar where
  text : String
  style : Style
  tag : Option (List Char)
deriving DecidableEq, Repr

def Scalar.nothing : Scalar := ⟨"", .plain, none⟩

end Yaml

/-- A node of a document. An alias stands for the node of an anchor, which it names by number. -/
inductive Yaml where
  | scalar (content : Yaml.Scalar)
  | sequence (items : List Yaml)
  | mapping (entries : List (Yaml × Yaml))
  | alias (anchor : Nat)
deriving Repr, Inhabited

namespace Yaml

/-- A document: its root, and for each anchor the scalar that it marks, if it marks one. Of several
entries with one number the first counts. -/
structure Document where
  root : Yaml
  anchors : List (Nat × Option Scalar)
deriving Repr

def Document.scalar? (d : Document) : Yaml → Option Scalar
  | .scalar s => some s
  | .alias n => (d.anchors.lookup n).join
  | _ => none

def isReadable (c : Char) : Bool :=
  let n := c.toNat
  n == 9 || n == 10 || n == 13 || (0x20 ≤ n && n ≤ 0x7E) || n == 0x85 || (0xA0 ≤ n && n ≤ 0xFFFD) ||
    0x10000 ≤ n

def unifyBreaks : List Char → List Char
  | [] => []
  | '\r' :: '\n' :: cs => '\n' :: unifyBreaks cs
  | c :: cs => (if c == '\r' || c == '\u0085' then '\n' else c) :: unifyBreaks cs

def isSeparating (c : Char) : Bool := c == '\u2028' || c == '\u2029'

def isBreak (c : Char) : Bool := c == '\n' || isSeparating c

def isBlank (c : Char) : Bool := c == ' ' || c == '\t'

def atGap : List Char → Bool
  | [] => true
  | c :: _ => isBlank c || isBreak c

def isNameChar (c : Char) : Bool := c.isAlphanum || c == '_' || c == '-'

def isMark (x : Char) : List Char → Bool
  | a :: b :: c :: rest => a == x && b == x && c == x && atGap rest
  | _ => false

def isAnyMark (cs : List Char) : Bool := isMark '-' cs || isMark '.' cs

structure Place where
  index : Nat
  line : Nat
  column : Nat
deriving DecidableEq, Repr

def Place.after (p : Place) (c : Char) : Place :=
  if isBreak c then ⟨p.index + 1, p.line + 1, 0⟩ else ⟨p.index + 1, p.line, p.column + 1⟩

def Place.afterAll (p : Place) (cs : List Char) : Place := cs.foldl Place.after p

structure Cursor where
  place : Place
  rest : List Char
deriving Repr

namespace Cursor

def start (cs : List Char) : Cursor := ⟨⟨0, 0, 0⟩, cs⟩

def skip (c : Cursor) (n : Nat) : Cursor :=
  ⟨c.place.afterAll (c.rest.take n), c.rest.drop n⟩

def span (c : Cursor) (p : Char → Bool) : List Char × Cursor :=
  let word := c.rest.takeWhile p
  (word, ⟨c.place.afterAll word, c.rest.dropWhile p⟩)

def endLine? (c : Cursor) : Option Cursor :=
  let c := (c.span isBlank).2
  let c := if c.rest.head? = some '#' then (c.span fun x => !isBreak x).2 else c
  match c.rest with
  | [] => some c
  | x :: _ => if isBreak x then some (c.skip 1) else none

end Cursor

end Yaml

end ExtensionAdmin.Config
