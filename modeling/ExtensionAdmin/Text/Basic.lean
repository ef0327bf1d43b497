/-! White space, digits, whole numbers, and tables of characters. A table is kept as text: lines of
words with one space between them, in which characters stand as hexadecimal numbers. -/

namespace ExtensionAdmin.Text

def isBlank (c : Char) : Bool :=
  let n := c.toNat
  (9 ≤ n && n ≤ 13) || n == 0x20 || n == 0x85 || n == 0xA0 || n == 0x1680 ||
    (0x2000 ≤ n && n ≤ 0x200A) || n == 0x2028 || n == 0x2029 || n == 0x202F ||
    n == 0x205F || n == 0x3000

def isSeparator (c : Char) : Bool :=
  c == ' ' || c == '\t' || c == '\n' || c == '\r'

def dropEndWhile (p : Char → Bool) (cs : List Char) : List Char :=
  (cs.reverse.dropWhile p).reverse

def trim (cs : List Char) : List Char :=
  dropEndWhile isBlank (cs.dropWhile isBlank)

def allBlank (cs : List Char) : Bool :=
  cs.all isBlank

def trimmed (s : String) : String :=
  String.ofList (trim s.toList)

def blank (s : String) : Bool :=
  allBlank s.toList

def dropLeading (x : Char) (cs : List Char) : List Char :=
  cs.dropWhile (· == x)

def dropTrailing (x : Char) (cs : List Char) : List Char :=
  dropEndWhile (· == x) cs

def byteLength : List Char → Nat
  | [] => 0
  | c :: cs => c.utf8Size + byteLength cs

def isAscii (c : Char) : Bool := c.toNat < 0x80

def lowerAscii (c : Char) : Char :=
  if 'A' ≤ c && c ≤ 'Z' then Char.ofNat (c.toNat + 32) else c

def lowered (cs : List Char) : List Char :=
  cs.map lowerAscii

def sameIgnoringCase (a b : String) : Bool :=
  lowered a.toList == lowered b.toList

def leadByte (c : Char) : Nat :=
  let n := c.toNat
  if n < 0x80 then n
  else if n < 0x800 then 0xC0 + n / 0x40
  else if n < 0x10000 then 0xE0 + n / 0x1000
  else 0xF0 + n / 0x40000

def leadSymbol (c : Char) : Char :=
  Char.ofNat (leadByte c)

def digitValue? (c : Char) : Option Nat :=
  let n := c.toNat
  if 0x30 ≤ n && n ≤ 0x39 then some (n - 0x30)
  else if 0x61 ≤ n && n ≤ 0x66 then some (n - 0x57)
  else if 0x41 ≤ n && n ≤ 0x46 then some (n - 0x37)
  else none

def inBase? (base : Nat) (cs : List Char) : Option Nat :=
  cs.foldlM (fun n c => (digitValue? c).bind fun d =>
    if d < base then some (n * base + d) else none) 0

def hexDigit (n : Nat) : Char :=
  if n < 10 then Char.ofNat (0x30 + n) else Char.ofNat (0x37 + n)

inductive WholeFault where
  | empty
  | invalidDigit
  | tooLarge
deriving DecidableEq, Repr

def WholeFault.message : WholeFault → String
  | .empty => "cannot parse integer from empty string"
  | .invalidDigit => "invalid digit found in string"
  | .tooLarge => "number too large to fit in target type"

/-- Reads digits on from `n`. The first character that is no digit, or with which the number no
longer fits in 64 bits, decides the fault. -/
def readDigits (n : Nat) : List Char → Except WholeFault Nat
  | [] => .ok n
  | c :: cs =>
    if c.isDigit then
      let m := n * 10 + (c.toNat - 0x30)
      if m < 0x10000000000000000 then readDigits m cs else .error .tooLarge
    else .error .invalidDigit

def readWhole (s : String) : Except WholeFault Nat :=
  match s.toList with
  | [] => .error .empty
  | ['+'] => .error .invalidDigit
  | '+' :: cs => readDigits 0 cs
  | cs => readDigits 0 cs

def splitOn (x : Char) : List Char → List (List Char)
  | [] => [[]]
  | c :: cs =>
    match splitOn x cs with
    | [] => [[c]]
    | part :: parts => if c = x then [] :: part :: parts else (c :: part) :: parts

def words (table : List String) : List (List Char) :=
  table.flatMap fun line => splitOn ' ' line.toList

def number (digits : List Char) : Nat := (inBase? 16 digits).getD 0

abbrev Ranges := List (Nat × Nat)

def Ranges.ofWord (word : List Char) : Nat × Nat :=
  match splitOn '-' word with
  | [first, last] => (number first, number last)
  | _ => (number word, number word)

def Ranges.ofWords (table : List String) : Ranges := (words table).map Ranges.ofWord

def Ranges.has (ranges : Ranges) (c : Char) : Bool :=
  ranges.any fun range => range.1 ≤ c.toNat && c.toNat ≤ range.2

abbrev Rows := List (Nat × List Nat)

/-- The rows of a word: in `C0=41.300,41.301` the character of the first number stands for the two
after the sign, and the next character for the two after that. -/
def Rows.ofWord (word : List Char) : Rows :=
  match splitOn '=' word with
  | [first, targets] =>
    (splitOn ',' targets).zipIdx.map fun target =>
      (number first + target.2, (splitOn '.' target.1).map number)
  | _ => []

def Rows.ofWords (table : List String) : Rows := (words table).flatMap Rows.ofWord

end ExtensionAdmin.Text
