import ExtensionAdmin.Config.Yaml.Basic
import ExtensionAdmin.Text.Basic

/-! Text as a scalar: plain where it reads back as itself, as a literal block where it has several
lines, and else between quotes. -/

namespace ExtensionAdmin.Config.Yaml

/-- Whether the decimal `whole.fraction * 10 ^ exponent` is within the range of 64-bit numbers:
below the middle between the largest of them and the next power of two. -/
def isFinite (whole fraction : List Char) (exponent : Int) : Bool :=
  let digits := Text.dropLeading '0' (whole ++ fraction)
  let length : Nat := digits.length
  let scale : Int := length - fraction.length + exponent
  let limit := Nat.pow 2 1024 - Nat.pow 2 970
  let n := (Text.inBase? 10 digits).getD 0
  digits.isEmpty || scale < 309 ||
    (scale == 309 && n * Nat.pow 10 (309 - length) < limit * Nat.pow 10 (length - 309))

def exponent? (cs : List Char) : Option Int :=
  match cs with
  | [] => some 0
  | e :: rest =>
    if e != 'e' && e != 'E' then none
    else
      let digits := if rest.head? = some '+' || rest.head? = some '-' then rest.drop 1 else rest
      if digits.isEmpty then none
      else (Text.inBase? 10 digits).map fun n => if rest.head? = some '-' then -(n : Int) else n

def isDecimal (cs : List Char) : Bool :=
  let whole := cs.takeWhile Char.isDigit
  let rest := cs.dropWhile Char.isDigit
  let hasPoint := rest.head? = some '.'
  let fraction := if hasPoint then (rest.drop 1).takeWhile Char.isDigit else []
  let rest := if hasPoint then (rest.drop 1).dropWhile Char.isDigit else rest
  !(whole.isEmpty && fraction.isEmpty) && (exponent? rest).any (isFinite whole fraction)

def isWholeIn (base limit : Nat) (cs : List Char) : Bool :=
  !cs.isEmpty && (Text.inBase? base cs).any (· ≤ limit)

def isUnsigned (limit : Nat) (cs : List Char) : Bool :=
  match cs with
  | '0' :: 'x' :: ds => isWholeIn 16 limit ds
  | '0' :: 'o' :: ds => isWholeIn 8 limit ds
  | '0' :: 'b' :: ds => isWholeIn 2 limit ds
  | _ => isDecimal cs

def isNumeric (cs : List Char) : Bool :=
  match cs with
  | '-' :: ds => isUnsigned (Nat.pow 2 127) ds
  | '+' :: ds => isUnsigned (Nat.pow 2 128 - 1) ds
  | ds => isUnsigned (Nat.pow 2 128 - 1) ds

def reservedWords : List String := [
  "true", "True", "TRUE", "false", "False", "FALSE", "null", "Null", "NULL", "~", ".inf", ".Inf",
  ".INF", "+.inf", "+.Inf", "+.INF", "-.inf", "-.Inf", "-.INF", ".nan", ".NaN", ".NAN"]

def beginsLikeMark (cs : List Char) : Bool :=
  cs.take 3 == ['-', '-', '-'] || cs.take 3 == ['.', '.', '.']

def beginsMarked : List Char → Bool
  | [] => true
  | c :: cs =>
    c == ' ' || c == ',' || c == '[' || c == ']' || c == '\x7b' || c == '\x7d' ||
      "#&*!|>'\"%@`".toList.contains c || ((c == '-' || c == '?') && atGap cs)

def holdsMark (afterGap : Bool) : List Char → Bool
  | [] => false
  | c :: cs =>
    (c == ':' && atGap cs) || (c == '#' && afterGap) || holdsMark (isBlank c || isBreak c) cs

def standsPlain (s : String) : Bool :=
  let cs := s.toList
  !reservedWords.contains s && !isNumeric cs && !beginsLikeMark cs && !beginsMarked cs &&
    !holdsMark true cs && !cs.any isBreak && cs.getLast? != some ' '

def isPrintable (c : Char) : Bool :=
  let n := c.toNat
  n == 10 || (0x20 ≤ n && n ≤ 0x7E) || (0xA0 ≤ n && n ≤ 0xFFFD && n != 0xFEFF) || 0x10000 ≤ n

def needsEscapes : List Char → Bool
  | [] => false
  | c :: cs => !isPrintable c || (c == ' ' && cs.head?.any isBreak) || needsEscapes cs

def holdsIndent : List Char → Bool
  | [] => false
  | c :: cs => (isBreak c && cs.head? == some ' ') || holdsIndent cs

def shortEscape? (n : Nat) : Option Char :=
  [(0, '0'), (7, 'a'), (8, 'b'), (9, 't'), (10, 'n'), (11, 'v'), (12, 'f'), (13, 'r'), (27, 'e'),
    (34, '"'), (92, '\\'), (0x85, 'N'), (0xA0, '_'), (0x2028, 'L'), (0x2029, 'P')].lookup n

def hexDigits (width n : Nat) : List Char :=
  (List.range width).reverse.map fun i => Text.hexDigit (n / Nat.pow 16 i % 16)

def escapeChar (c : Char) : List Char :=
  let n := c.toNat
  if isPrintable c && !isBreak c && c != '"' && c != '\\' then [c]
  else
    match shortEscape? n with
    | some e => ['\\', e]
    | none =>
      if n ≤ 0xFF then '\\' :: 'x' :: hexDigits 2 n
      else if n ≤ 0xFFFF then '\\' :: 'u' :: hexDigits 4 n
      else '\\' :: 'U' :: hexDigits 8 n

def doubleQuote (cs : List Char) : List Char := '"' :: cs.flatMap escapeChar ++ ['"']

def margin : List Char := [' ', ' ']

def indented (double : Option Char) (fresh : Bool) : List Char → List Char
  | [] => []
  | c :: cs =>
    if isBreak c then c :: indented double true cs
    else
      (if fresh then margin else []) ++ (if double == some c then [c, c] else [c]) ++
        indented double false cs

def singleQuote (cs : List Char) : List Char :=
  '\'' :: indented (some '\'') false cs ++
    (if cs.getLast?.any isBreak then margin else []) ++ ['\'']

def endingSign (cs : List Char) : List Char :=
  match cs.reverse with
  | [] => ['-']
  | c :: before =>
    if !isBreak c then ['-']
    else
      match before with
      | [] => ['+']
      | d :: _ => if isBreak d then ['+'] else []

def literalBlock (cs : List Char) : List Char :=
  let hidden := cs.head?.any fun c => c == ' ' || isBreak c
  '|' :: (if hidden then ['2'] else []) ++ endingSign cs ++ '\n' :: indented none true cs

/-- A text as a scalar: plain where it reads back as itself, a literal block if it has several
lines, and else in single quotes, or in double quotes where these do not hold it. -/
def renderText (s : String) : List Char :=
  let cs := s.toList
  if needsEscapes cs then doubleQuote cs
  else if cs.contains '\n' then
    if cs.getLast? == some ' ' then doubleQuote cs else literalBlock cs
  else if standsPlain s then cs
  else if holdsIndent cs then doubleQuote cs
  else singleQuote cs

def renderEntry (name : String) (value : List Char) : List Char :=
  name.toList ++ ':' :: ' ' :: value ++ (if value.getLast?.any isBreak then [] else ['\n'])

end ExtensionAdmin.Config.Yaml
