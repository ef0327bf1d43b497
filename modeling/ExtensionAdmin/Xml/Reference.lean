import ExtensionAdmin.Text.Basic
import ExtensionAdmin.Xml.Fault

/-! Characters and their references in markup text. `escape` writes the five characters that mean
something in markup as references; `unescape` replaces the references of a text by the characters
that they stand for. -/

namespace ExtensionAdmin.Xml

def escapeChar (c : Char) : List Char :=
  if c = '<' then ['&', 'l', 't', ';']
  else if c = '>' then ['&', 'g', 't', ';']
  else if c = '&' then ['&', 'a', 'm', 'p', ';']
  else if c = '\'' then ['&', 'a', 'p', 'o', 's', ';']
  else if c = '"' then ['&', 'q', 'u', 'o', 't', ';']
  else [c]

def escape (cs : List Char) : List Char :=
  cs.flatMap escapeChar

def named? (name : List Char) : Option Char :=
  if name = ['l', 't'] then some '<'
  else if name = ['g', 't'] then some '>'
  else if name = ['a', 'm', 'p'] then some '&'
  else if name = ['a', 'p', 'o', 's'] then some '\''
  else if name = ['q', 'u', 'o', 't'] then some '"'
  else none

def hexadecimal (n : Nat) : List Char → Except ReferenceFault Nat
  | [] => .ok n
  | c :: cs =>
    let d := c.toNat
    if 0x30 ≤ d && d ≤ 0x39 then hexadecimal (n * 16 + (d - 0x30)) cs
    else if 0x61 ≤ d && d ≤ 0x66 then hexadecimal (n * 16 + (d - 0x57)) cs
    else if 0x41 ≤ d && d ≤ 0x46 then hexadecimal (n * 16 + (d - 0x37)) cs
    else .error (.notHexadecimal (Text.leadSymbol c))

def decimal (n : Nat) : List Char → Except ReferenceFault Nat
  | [] => .ok n
  | c :: cs =>
    let d := c.toNat
    if 0x30 ≤ d && d ≤ 0x39 then decimal (n * 10 + (d - 0x30)) cs
    else .error (.notDecimal (Text.leadSymbol c))

/-- The number of a character reference after its `#`: at most six bytes of hexadecimal digits after
an `x`, at most seven of decimal digits otherwise. -/
def referenceNumber : List Char → Except ReferenceFault Nat
  | 'x' :: cs =>
    if 6 < Text.byteLength cs then .error .hexadecimalTooLong else hexadecimal 0 cs
  | cs => if 7 < Text.byteLength cs then .error .decimalTooLong else decimal 0 cs

def resolve (start stop : Nat) : List Char → Except ReferenceFault Char
  | '#' :: cs => do
    let n ← referenceNumber cs
    if n = 0 then throw (.nullCharacter start stop)
    else if n.isValidChar then return Char.ofNat n
    else throw (.notCodePoint n)
  | name =>
    match named? name with
    | some c => .ok c
    | none => .error (.unknown (start + 1) stop (String.ofList name))

/-- Replaces references, at byte `at` of a text of `total` bytes. Inside a reference, its start and
what was read of its name, newest first, are given. -/
def unescapeFrom (total : Nat) : Nat → Option (Nat × List Char) → List Char →
    Except ReferenceFault (List Char)
  | _, none, [] => .ok []
  | _, some (start, _), [] => .error (.unterminated start total)
  | pos, none, c :: cs =>
    if c = '&' then unescapeFrom total (pos + 1) (some (pos, [])) cs
    else (c :: ·) <$> unescapeFrom total (pos + c.utf8Size) none cs
  | pos, some (start, name), c :: cs =>
    if c = ';' then do
      let x ← resolve start pos name.reverse
      (x :: ·) <$> unescapeFrom total (pos + 1) none cs
    else if c = '&' then .error (.unterminated start total)
    else unescapeFrom total (pos + c.utf8Size) (some (start, c :: name)) cs

def unescape (cs : List Char) : Except ReferenceFault (List Char) :=
  unescapeFrom (Text.byteLength cs) 0 none cs

end ExtensionAdmin.Xml
