import ExtensionAdmin.Json.Value
import ExtensionAdmin.Text.Basic

/-! Reading JSON text. The grammar is the strict one: white space is space, tab, line feed and
carriage return; strings hold no raw controls and no lone surrogates; numbers have no leading zeros.
A value may nest in at most 127 sequences and objects. Whole numbers from `-2 ^ 63` to `2 ^ 64 - 1`
are kept exactly. Every other number is floating point, and one that is too large for that is no
number at all. -/

namespace ExtensionAdmin.Json

def isSpace (c : Char) : Bool :=
  c == ' ' || c == '\t' || c == '\n' || c == '\r'

def skipSpace (cs : List Char) : List Char :=
  cs.dropWhile isSpace

def unit? (a b c d : Char) : Option Nat := do
  let a ← Text.digitValue? a
  let b ← Text.digitValue? b
  let c ← Text.digitValue? c
  let d ← Text.digitValue? d
  return ((a * 16 + b) * 16 + c) * 16 + d

def escaped? (c : Char) : Option Char :=
  match c with
  | '"' => some '"'
  | '\\' => some '\\'
  | '/' => some '/'
  | 'b' => some (Char.ofNat 8)
  | 'f' => some (Char.ofNat 12)
  | 'n' => some '\n'
  | 'r' => some '\r'
  | 't' => some '\t'
  | _ => none

def isLeading (u : Nat) : Bool := 0xD800 ≤ u && u ≤ 0xDBFF

def isTrailing (u : Nat) : Bool := 0xDC00 ≤ u && u ≤ 0xDFFF

def push (c : Char) : Option (List Char × List Char) → Option (List Char × List Char)
  | some (s, rest) => some (c :: s, rest)
  | none => none

def stringBody : List Char → Option (List Char × List Char)
  | [] => none
  | c :: cs =>
    if c = '"' then some ([], cs)
    else if c = '\\' then
      match cs with
      | [] => none
      | e :: es =>
        if e = 'u' then
          match es with
          | a :: b :: c :: d :: r =>
            match unit? a b c d with
            | none => none
            | some u =>
              if isTrailing u then none
              else if isLeading u then
                match r with
                | '\\' :: 'u' :: a' :: b' :: c' :: d' :: r' =>
                  match unit? a' b' c' d' with
                  | none => none
                  | some w =>
                    if isTrailing w then
                      push (Char.ofNat (0x10000 + (u - 0xD800) * 0x400 + (w - 0xDC00)))
                        (stringBody r')
                    else none
                | _ => none
              else push (Char.ofNat u) (stringBody r)
          | _ => none
        else
          match escaped? e with
          | some x => push x (stringBody es)
          | none => none
    else if c.toNat < 0x20 then none
    else push c (stringBody cs)

def takeDigits : List Char → List Nat × List Char
  | [] => ([], [])
  | c :: cs =>
    if c.isDigit then
      let r := takeDigits cs
      ((c.toNat - 0x30) :: r.1, r.2)
    else ([], c :: cs)

def maxWhole : Nat := 0xFFFFFFFFFFFFFFFF

def significand (s : Nat) : List Nat → Nat × Nat
  | [] => (s, 0)
  | d :: ds =>
    if s * 10 + d ≤ maxWhole then significand (s * 10 + d) ds else (s, ds.length + 1)

def fraction? : List Char → Option (Option (List Nat) × List Char)
  | '.' :: cs =>
    match takeDigits cs with
    | ([], _) => none
    | (ds, rest) => some (some ds, rest)
  | cs => some (none, cs)

def exponentDigits? (cs : List Char) : Option (Nat × List Char) :=
  match takeDigits cs with
  | ([], _) => none
  | (ds, rest) => some (ds.foldl (fun n d => n * 10 + d) 0, rest)

def exponent? : List Char → Option (Option Int × List Char)
  | c :: cs =>
    if c = 'e' || c = 'E' then
      match cs with
      | '-' :: r => (exponentDigits? r).map fun (n, rest) => (some (-(n : Int)), rest)
      | '+' :: r => (exponentDigits? r).map fun (n, rest) => (some (n : Int), rest)
      | r => (exponentDigits? r).map fun (n, rest) => (some (n : Int), rest)
    else some (none, c :: cs)
  | [] => some (none, [])

def float? (negative : Bool) (s : Nat) (e : Int) : Option Number :=
  (Double.ofDecimal? s.toUInt64 e).map fun x => .float (if negative then x.negate else x)

/-- The number that the parts of a literal stand for. Digits beyond 64 bits raise the exponent in
the whole part and are dropped from the fraction. -/
def assemble (negative : Bool) (whole : List Nat) (fraction : Option (List Nat))
    (exponent : Option Int) : Option Number :=
  let w := significand 0 whole
  match fraction, exponent with
  | none, none =>
    if w.2 = 0 then
      if negative then
        if w.1 = 0 || 0x8000000000000000 < w.1 then float? true w.1 0
        else some (.int (-(w.1 : Int)))
      else some (.int w.1)
    else float? negative w.1 w.2
  | none, some e => float? negative w.1 (w.2 + e)
  | some ds, e =>
    let f := significand w.1 ds
    float? negative f.1 ((w.2 : Int) - ((ds.length - f.2 : Nat) : Int) + e.getD 0)

def unsigned? (negative : Bool) (cs : List Char) : Option (Number × List Char) :=
  match takeDigits cs with
  | ([], _) => none
  | (0 :: _ :: _, _) => none
  | (whole, rest) => do
    let (fraction, rest) ← fraction? rest
    let (exponent, rest) ← exponent? rest
    let n ← assemble negative whole fraction exponent
    return (n, rest)

def number? : List Char → Option (Number × List Char)
  | '-' :: cs => unsigned? true cs
  | cs => unsigned? false cs

abbrev Item (α : Type) := List Char → Option (α × List Char)

def sequence? {α : Type} (item : Item α) (close : Char) :
    Nat → List Char → Option (List α × List Char)
  | 0, _ => none
  | fuel + 1, cs =>
    match item (skipSpace cs) with
    | none => none
    | some (x, rest) =>
      match skipSpace rest with
      | [] => none
      | c :: rest =>
        if c = close then some ([x], rest)
        else if c = ',' then
          match sequence? item close fuel rest with
          | some (xs, rest) => some (x :: xs, rest)
          | none => none
        else none

def enclosed? {α : Type} (item : Item α) (close : Char) (cs : List Char) :
    Option (List α × List Char) :=
  match skipSpace cs with
  | [] => none
  | c :: rest =>
    if c = close then some ([], rest) else sequence? item close (c :: rest).length (c :: rest)

def member? (item : Item Value) : Item (String × Value)
  | '"' :: cs =>
    match stringBody cs with
    | none => none
    | some (k, rest) =>
      match skipSpace rest with
      | ':' :: rest =>
        match item (skipSpace rest) with
        | some (v, rest) => some ((String.ofList k, v), rest)
        | none => none
      | _ => none
  | _ => none

def word? : List Char → List Char → Option (List Char)
  | [], cs => some cs
  | _ :: _, [] => none
  | w :: ws, c :: cs => if w = c then word? ws cs else none

def scalar? (cs : List Char) : Option (Value × List Char) :=
  match cs with
  | [] => none
  | c :: rest =>
    if c = 'n' then (word? ['u', 'l', 'l'] rest).map fun r => (.null, r)
    else if c = 't' then (word? ['r', 'u', 'e'] rest).map fun r => (.bool true, r)
    else if c = 'f' then (word? ['a', 'l', 's', 'e'] rest).map fun r => (.bool false, r)
    else if c = '"' then (stringBody rest).map fun (s, r) => (.string (String.ofList s), r)
    else (number? cs).map fun (n, r) => (.number n, r)

def value? : Nat → Item Value
  | 0, '[' :: _ => none
  | 0, '\x7b' :: _ => none
  | room + 1, '[' :: cs =>
    (enclosed? (value? room) ']' cs).map fun (xs, r) => (.array xs, r)
  | room + 1, '\x7b' :: cs =>
    (enclosed? (member? (value? room)) '\x7d' cs).map fun (ms, r) => (.object ms, r)
  | _, cs => scalar? cs

def maxDepth : Nat := 127

def readWithin? (room : Nat) (cs : List Char) : Option Value :=
  match value? room (skipSpace cs) with
  | none => none
  | some (v, rest) => if (skipSpace rest).isEmpty then some v else none

def readVerbatim? (cs : List Char) : Option Value :=
  readWithin? maxDepth cs

def read? (cs : List Char) : Option Value :=
  (readVerbatim? cs).map Value.canonical

def parse? (s : String) : Option Value :=
  read? s.toList

end ExtensionAdmin.Json
