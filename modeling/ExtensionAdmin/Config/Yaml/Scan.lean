import ExtensionAdmin.Config.Yaml.Block
import ExtensionAdmin.Config.Yaml.Property
import ExtensionAdmin.Config.Yaml.Scalar

/-! The tokens of a text. Structure comes from indentation: a line that is indented deeper than the
collection around it begins a new one, and a line that is indented less ends collections. The key of
a mapping is known by the colon after it, so its mark is put in front of it afterwards. Such a key
stands on one line and is at most 1024 characters long. -/

namespace ExtensionAdmin.Config.Yaml

/-- A token that may turn out to be a key: its number among the tokens and its place. One at the
indentation of its collection has to be a key. -/
structure Candidate where
  number : Nat
  place : Place
  required : Bool
deriving DecidableEq, Repr

/-- A text under way. `indent` is the column of the innermost collection that indentation makes and
`indents` are those around it; `key` is the candidate within the innermost brackets and `keys` are
those around them; the tokens are newest first. -/
structure Scan where
  cursor : Cursor
  indent : Int
  indents : List Int
  key : Option Candidate
  keys : List (Option Candidate)
  keyAllowed : Bool
  tokens : List Token
  count : Nat

namespace Scan

def start (cs : List Char) : Scan := ⟨.start cs, -1, [], none, [], true, [], 0⟩

def inFlow (s : Scan) : Bool := !s.keys.isEmpty

def place (s : Scan) : Place := s.cursor.place

def insert (s : Scan) (number : Nat) (t : Token) : Scan :=
  let later := s.count - number
  { s with tokens := s.tokens.take later ++ t :: s.tokens.drop later, count := s.count + 1 }

def push (s : Scan) (t : Token) : Scan := s.insert s.count t

def roll (s : Scan) (column number : Nat) (t : Token) : Scan :=
  if s.inFlow || (column : Int) ≤ s.indent then s
  else { s with indent := column, indents := s.indent :: s.indents }.insert number t

def ended (column : Int) : Int → List Int → Int × List Int × Nat
  | indent, [] => (indent, [], 0)
  | indent, outer :: indents =>
    if column < indent then
      let (indent, indents, n) := ended column outer indents
      (indent, indents, n + 1)
    else (indent, outer :: indents, 0)

def unroll (s : Scan) (column : Int) : Scan :=
  if s.inFlow then s
  else
    let (indent, indents, n) := ended column s.indent s.indents
    { s with
      indent, indents, count := s.count + n
      tokens := List.replicate n .blockEnd ++ s.tokens }

def dropKey? (s : Scan) : Option Scan :=
  if s.key.any (·.required) then none else some { s with key := none }

def saveKey? (s : Scan) : Option Scan :=
  if s.keyAllowed then do
    let required := !s.inFlow && s.indent == s.place.column
    let s ← s.dropKey?
    return { s with key := some ⟨s.count, s.place, required⟩ }
  else some s

def isStale (p : Place) (k : Candidate) : Bool :=
  k.place.line < p.line || k.place.index + 1024 < p.index

def fresh? (p : Place) : Option Candidate → Option (Option Candidate)
  | none => some none
  | some k => if isStale p k then (if k.required then none else some none) else some (some k)

def dropStale? (s : Scan) : Option Scan := do
  return { s with key := ← fresh? s.place s.key, keys := ← s.keys.mapM (fresh? s.place) }

/-- Skips blanks, comments, line breaks, and a byte order mark that begins a line. Outside brackets
a tab cannot stand where a key can, and after a line break one can. -/
def skipIdle (flow : Bool) (comment allowed : Bool) (p : Place) : List Char → Bool × Cursor
  | [] => (allowed, ⟨p, []⟩)
  | c :: cs =>
    if isBreak c then skipIdle flow false (allowed || !flow) (p.after c) cs
    else if comment || c == ' ' || (c == '\t' && (flow || !allowed)) ||
        (p.column = 0 && c == '\uFEFF') then
      skipIdle flow comment allowed (p.after c) cs
    else if c == '#' then skipIdle flow true allowed (p.after c) cs
    else (allowed, ⟨p, c :: cs⟩)

def toNext (s : Scan) : Scan :=
  let (keyAllowed, cursor) := skipIdle s.inFlow false s.keyAllowed s.place s.cursor.rest
  { s with keyAllowed, cursor }

def take (s : Scan) (n : Nat) (t : Token) : Scan :=
  { s with cursor := s.cursor.skip n }.push t

def outermost? (s : Scan) : Option Scan := do
  return { ← (s.unroll (-1)).dropKey? with keyAllowed := false }

def openBracket? (s : Scan) (t : Token) : Option Scan := do
  let s ← s.saveKey?
  return { s with key := none, keys := s.key :: s.keys, keyAllowed := true }.take 1 t

def closeBracket? (s : Scan) (t : Token) : Option Scan := do
  let s ← s.dropKey?
  let s :=
    match s.keys with
    | [] => s
    | key :: keys => { s with key, keys }
  return { s with keyAllowed := false }.take 1 t

def comma? (s : Scan) : Option Scan := do
  return { ← s.dropKey? with keyAllowed := true }.take 1 .comma

def item? (s : Scan) : Option Scan := do
  if !s.inFlow && !s.keyAllowed then none
  let s ← (s.roll s.place.column s.count .blockSequence).dropKey?
  return { s with keyAllowed := true }.take 1 .item

def markKey? (s : Scan) : Option Scan := do
  if !s.inFlow && !s.keyAllowed then none
  let s ← (s.roll s.place.column s.count .blockMapping).dropKey?
  return { s with keyAllowed := !s.inFlow }.take 1 .key

def markValue? (s : Scan) : Option Scan :=
  match s.key with
  | some k =>
    let s := (s.insert k.number .key).roll k.place.column k.number .blockMapping
    some ({ s with key := none, keyAllowed := false }.take 1 .value)
  | none =>
    if !s.inFlow && !s.keyAllowed then none
    else
      let s := s.roll s.place.column s.count .blockMapping
      some ({ s with keyAllowed := !s.inFlow }.take 1 .value)

def node? (s : Scan) (t : Token) (cursor : Cursor) (keyAllowed : Bool) : Option Scan := do
  return { ← s.saveKey? with keyAllowed, cursor }.push t

def anchorOrAlias? (s : Scan) (token : List Char → Token) : Option Scan := do
  let (name, c) ← anchorName? (s.cursor.skip 1)
  s.node? (token name) c false

def quoted? (s : Scan) (r : Option (List Char × Cursor)) : Option Scan := do
  let (text, c) ← r
  s.node? (.scalar text .quoted) c false

def block? (s : Scan) (literal : Bool) : Option Scan := do
  let s ← s.dropKey?
  let (text, c) ← block literal s.indent (s.cursor.skip 1)
  return { s with keyAllowed := true, cursor := c }.push
    (.scalar text (if literal then .literal else .folded))

def plain? (s : Scan) : Option Scan := do
  let r ← plain s.inFlow (s.indent + 1) [] .nothing s.place s.cursor.rest
  s.node? (.scalar r.text .plain) r.cursor r.broken

def next? (s : Scan) (c : Char) (cs : List Char) : Option Scan :=
  let inner := (s.cursor.skip 1)
  if s.place.column = 0 && c == '%' then do
    let s ← s.outermost?
    let (t, cursor) ← directive? s.cursor
    return { s with cursor }.push t
  else if s.place.column = 0 && isMark '-' (c :: cs) then
    s.outermost?.map (·.take 3 .documentStart)
  else if s.place.column = 0 && isMark '.' (c :: cs) then
    s.outermost?.map (·.take 3 .documentEnd)
  else if c == '[' then s.openBracket? .flowSequence
  else if c == '\x7b' then s.openBracket? .flowMapping
  else if c == ']' then s.closeBracket? .flowSequenceEnd
  else if c == '\x7d' then s.closeBracket? .flowMappingEnd
  else if c == ',' then s.comma?
  else if c == '-' && atGap cs then s.item?
  else if c == '?' && (s.inFlow || atGap cs) then s.markKey?
  else if c == ':' && (s.inFlow || atGap cs) then s.markValue?
  else if c == '*' then s.anchorOrAlias? .alias
  else if c == '&' then s.anchorOrAlias? .anchor
  else if c == '!' then do
    let (t, cursor) ← tag? s.inFlow s.cursor
    s.node? t cursor false
  else if c == '|' && !s.inFlow then s.block? true
  else if c == '>' && !s.inFlow then s.block? false
  else if c == '\'' then s.quoted? (singleQuoted [] .nothing inner.place inner.rest)
  else if c == '"' then s.quoted? (doubleQuoted [] .nothing inner.place inner.rest)
  else if beginsPlain s.inFlow (c :: cs) then s.plain?
  else none

/-- Reads tokens to the end of the text. Each takes a character, so that the fuel need not exceed
the length of the text. -/
def tokens? : Nat → Scan → Option (List Token)
  | fuel, s => do
    let s ← s.toNext.dropStale?
    let s := s.unroll s.place.column
    match s.cursor.rest, fuel with
    | [], _ => return (← s.outermost?).tokens.reverse
    | _ :: _, 0 => none
    | c :: cs, fuel + 1 => tokens? fuel (← s.next? c cs)

end Scan

def readTokens? (cs : List Char) : Option (List Token) :=
  if cs.all isReadable then
    let cs := unifyBreaks cs
    Scan.tokens? cs.length (.start cs)
  else none

end ExtensionAdmin.Config.Yaml
