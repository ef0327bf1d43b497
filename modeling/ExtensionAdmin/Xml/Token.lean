import ExtensionAdmin.Text.Basic
import ExtensionAdmin.Xml.Fault

/-! Documents as sequences of tokens. A scan goes through the characters one by one. Between two
characters it is in a mode, which holds what was read of the token under way, newest first; a
character either extends that token, completes it, or is a fault. So a scan of a text is a scan of
its first part, continued with the rest. -/

namespace ExtensionAdmin.Xml

inductive Token where
  | text (raw : List Char)
  | cdata (content : List Char)
  | start (content : List Char)
  | empty (content : List Char)
  | close (written : List Char)
  | comment (content : List Char)
  | instruction (content : List Char)
  | doctype (content : List Char)
deriving DecidableEq, Repr

inductive Mode where
  | text (seen : List Char)
  | opened
  | bang
  | cdata (seen : List Char)
  | comment (seen : List Char)
  | doctype (seen : List Char) (depth : Nat)
  | instruction (seen : List Char)
  | closing (seen : List Char)
  | tag (seen : List Char) (quote : Option Char)
deriving DecidableEq, Repr

inductive Step where
  | continue (mode : Mode)
  | complete (token : Token) (mode : Mode)
  | fail (fault : Fault)
deriving DecidableEq, Repr

def Mode.fresh : Mode := .text []

def Step.ofToken : Except Fault Token → Step
  | .ok t => .complete t .fresh
  | .error f => .fail f

def cdataToken (seen : List Char) : Except Fault Token :=
  let content := seen.reverse
  if Text.lowered (content.take 7) = ['[', 'c', 'd', 'a', 't', 'a', '['] then
    .ok (.cdata ((seen.drop 2).reverse.drop 7))
  else .error (.truncated .cdata)

def commentToken (seen : List Char) : Except Fault Token :=
  match seen.reverse with
  | '-' :: '-' :: _ => .ok (.comment ((seen.drop 2).reverse.drop 2))
  | _ => .error (.truncated .comment)

/-- A document type declaration, from the character after `<!` on, newest first. The word `DOCTYPE`
may be in any case, and something must follow it. -/
def doctypeToken (seen : List Char) : Except Fault Token :=
  let content := seen.reverse
  if Text.lowered (content.take 7) = ['d', 'o', 'c', 't', 'y', 'p', 'e'] then
    let rest := content.drop 7
    if rest.all Text.isSeparator then .error .emptyDoctype
    else .ok (.doctype (rest.dropWhile Text.isSeparator))
  else .error (.truncated .doctype)

def instructionToken : List Char → Except Fault Token
  | '?' :: c :: seen => .ok (.instruction (c :: seen).reverse)
  | _ => .error (.truncated .instruction)

def tagToken : List Char → Token
  | '/' :: seen => .empty seen.reverse
  | seen => .start seen.reverse

/-- A character inside a tag. A `>` between quotes does not end the tag. -/
def tagStep (seen : List Char) (quote : Option Char) (c : Char) : Step :=
  match quote with
  | some q => .continue (.tag (c :: seen) (if c = q then none else some q))
  | none =>
    if c = '>' then .complete (tagToken seen) .fresh
    else if c = '"' || c = '\'' then .continue (.tag (c :: seen) (some c))
    else .continue (.tag (c :: seen) none)

def Mode.step : Mode → Char → Step
  | .text seen, c =>
    if c = '<' then
      if seen.isEmpty then .continue .opened else .complete (.text seen.reverse) .opened
    else .continue (.text (c :: seen))
  | .opened, c =>
    if c = '!' then .continue .bang
    else if c = '?' then .continue (.instruction [])
    else if c = '/' then .continue (.closing [])
    else tagStep [] none c
  | .bang, c =>
    if c = '[' then .continue (.cdata [c])
    else if c = '-' then .continue (.comment [c])
    else if c = 'D' || c = 'd' then .continue (.doctype [c] 0)
    else .fail (.unknownDeclaration (Text.leadSymbol c))
  | .cdata seen, c =>
    if c = '>' && seen.take 2 = [']', ']'] then .ofToken (cdataToken seen)
    else .continue (.cdata (c :: seen))
  | .comment seen, c =>
    if c = '>' && 4 ≤ seen.length && seen.take 2 = ['-', '-'] then .ofToken (commentToken seen)
    else .continue (.comment (c :: seen))
  | .doctype seen depth, c =>
    if c = '>' then
      if depth = 0 then .ofToken (doctypeToken seen)
      else .continue (.doctype (c :: seen) (depth - 1))
    else if c = '<' then .continue (.doctype (c :: seen) (depth + 1))
    else .continue (.doctype (c :: seen) depth)
  | .instruction seen, c =>
    if c = '>' then .ofToken (instructionToken seen)
    else .continue (.instruction (c :: seen))
  | .closing seen, c =>
    if c = '>' then .complete (.close seen.reverse) .fresh
    else .continue (.closing (c :: seen))
  | .tag seen quote, c => tagStep seen quote c

structure Scan where
  tokens : List Token
  fault : Option Fault
deriving DecidableEq, Repr

def Scan.cons (t : Token) (s : Scan) : Scan := ⟨t :: s.tokens, s.fault⟩

/-- The last token, if there is one, or what was cut off. A `<` at the very end is dropped, and a
closing tag or an instruction needs no `>` there. -/
def Mode.finish : Mode → Scan
  | .text seen => ⟨if seen.isEmpty then [] else [.text seen.reverse], none⟩
  | .opened => ⟨[], none⟩
  | .bang => ⟨[], some (.truncated .bang)⟩
  | .cdata _ => ⟨[], some (.truncated .cdata)⟩
  | .comment _ => ⟨[], some (.truncated .comment)⟩
  | .doctype _ _ => ⟨[], some (.truncated .doctype)⟩
  | .instruction seen =>
    match instructionToken seen with
    | .ok t => ⟨[t], none⟩
    | .error f => ⟨[], some f⟩
  | .closing seen => ⟨[.close seen.reverse], none⟩
  | .tag _ _ => ⟨[], some (.truncated .element)⟩

def scanFrom : Mode → List Char → Scan
  | m, [] => m.finish
  | m, c :: cs =>
    match m.step c with
    | .continue m' => scanFrom m' cs
    | .complete t m' => (scanFrom m' cs).cons t
    | .fail f => ⟨[], some f⟩

def withoutMark : List Char → List Char
  | c :: cs => if c = '\uFEFF' then cs else c :: cs
  | [] => []

def scan (cs : List Char) : Scan :=
  scanFrom .fresh (withoutMark cs)

end ExtensionAdmin.Xml
