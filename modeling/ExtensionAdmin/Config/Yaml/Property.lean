import ExtensionAdmin.Config.Yaml.Basic
import ExtensionAdmin.Text.Basic

/-! Tokens, and what stands before nodes and documents: anchors, aliases, tags and directives. A tag
is written in full between angle brackets, or as a handle, for which a directive or a convention
gives a stem, and a suffix. -/

namespace ExtensionAdmin.Config.Yaml

inductive Token where
  | version (major minor : Nat)
  | handle (name stem : List Char)
  | documentStart
  | documentEnd
  | blockSequence
  | blockMapping
  | blockEnd
  | flowSequence
  | flowSequenceEnd
  | flowMapping
  | flowMappingEnd
  | item
  | comma
  | key
  | value
  | alias (name : List Char)
  | anchor (name : List Char)
  | tag (handle suffix : List Char)
  | scalar (text : List Char) (style : Style)
deriving DecidableEq, Repr

def endsName (cs : List Char) : Bool :=
  atGap cs || cs.head?.any fun c => "?:,]%@`".toList.contains c || c == '\x7d'

def anchorName? (c : Cursor) : Option (List Char × Cursor) :=
  let (name, c) := c.span isNameChar
  if name.isEmpty || !endsName c.rest then none else some (name, c)

def isTagChar (full : Bool) (c : Char) : Bool :=
  isNameChar c || ";/?:@&=+$.!~*'()".toList.contains c ||
    (full && (c == ',' || c == '[' || c == ']'))

def sequenceLength? (b : Nat) : Option Nat :=
  if b < 0x80 then some 1
  else if b < 0xC0 then none
  else if b < 0xE0 then some 2
  else if b < 0xF0 then some 3
  else if b < 0xF8 then some 4
  else none

/-- The text of a tag; what was read of it is newest first. `due` is the number of bytes that are
still to come in the escapes of a character. -/
def tagText (full : Bool) (seen : List Char) (due : Nat) (p : Place) :
    List Char → Option (List Char × Cursor)
  | [] => if due = 0 then some (seen.reverse, ⟨p, []⟩) else none
  | '%' :: a :: b :: cs =>
    match Text.inBase? 16 [a, b] with
    | none => none
    | some n =>
      let q := p.afterAll ['%', a, b]
      if due = 0 then
        match sequenceLength? n with
        | none => none
        | some k => tagText full (Char.ofNat n :: seen) (k - 1) q cs
      else if 0x80 ≤ n && n < 0xC0 then tagText full (Char.ofNat n :: seen) (due - 1) q cs
      else none
  | c :: cs =>
    if c == '%' || due != 0 then none
    else if isTagChar full c then tagText full (c :: seen) due (p.after c) cs
    else some (seen.reverse, ⟨p, c :: cs⟩)

def tagText? (full : Bool) (c : Cursor) : Option (List Char × Cursor) := do
  let (text, c) ← tagText full [] 0 c.place c.rest
  if text.isEmpty then none else some (text, c)

def handle? (c : Cursor) : Option (List Char × Cursor) :=
  match c.rest with
  | '!' :: _ =>
    let (name, c) := (c.skip 1).span isNameChar
    if c.rest.head? = some '!' then some ('!' :: name ++ ['!'], c.skip 1)
    else some ('!' :: name, c)
  | _ => none

def isWholeHandle (handle : List Char) : Bool := 1 < handle.length && handle.getLast? == some '!'

def shortTag? (c : Cursor) : Option (Token × Cursor) := do
  let (handle, c) ← handle? c
  if isWholeHandle handle then
    let (suffix, c) ← tagText? false c
    return (.tag handle suffix, c)
  else
    let (text, c) ← tagText false [] 0 c.place c.rest
    let suffix := handle.drop 1 ++ text
    return (if suffix.isEmpty then .tag [] ['!'] else .tag ['!'] suffix, c)

def fullTag? (c : Cursor) : Option (Token × Cursor) := do
  let (text, c) ← tagText? true (c.skip 2)
  if c.rest.head? = some '>' then some (.tag [] text, c.skip 1) else none

def tag? (flow : Bool) (c : Cursor) : Option (Token × Cursor) := do
  let (t, c) ← if (c.rest.drop 1).head? = some '<' then fullTag? c else shortTag? c
  if atGap c.rest || (flow && c.rest.head? == some ',') then some (t, c) else none

def versionNumber? (c : Cursor) : Option (Nat × Cursor) :=
  let (digits, c) := c.span Char.isDigit
  if digits.isEmpty || 9 < digits.length then none
  else (Text.inBase? 10 digits).map fun n => (n, c)

def version? (c : Cursor) : Option (Token × Cursor) := do
  let (major, c) ← versionNumber? (c.span isBlank).2
  if c.rest.head? != some '.' then none
  let (minor, c) ← versionNumber? (c.skip 1)
  return (.version major minor, c)

def handleStem? (c : Cursor) : Option (Token × Cursor) := do
  let (handle, c) ← handle? (c.span isBlank).2
  if !isWholeHandle handle && handle != ['!'] then none
  if !c.rest.head?.any isBlank then none
  let (stem, c) ← tagText? true (c.span isBlank).2
  if atGap c.rest then some (.handle handle stem, c) else none

def directive? (c : Cursor) : Option (Token × Cursor) := do
  let (name, c) := (c.skip 1).span isNameChar
  if !atGap c.rest then none
  let (t, c) ←
    if name = "YAML".toList then version? c
    else if name = "TAG".toList then handleStem? c
    else none
  return (t, ← c.endLine?)

end ExtensionAdmin.Config.Yaml
