import ExtensionAdmin.Config.Yaml.Basic
import ExtensionAdmin.Text.Basic

/-! Scalars within lines: plain, in single quotes, or in double quotes. A scalar may run over lines.
A gap between two of its words is kept as it is within a line; across lines the blanks go, a single
line feed becomes a space, and of several the first is left out. -/

namespace ExtensionAdmin.Config.Yaml

structure Gap where
  blanks : List Char
  broken : Bool
  first : Option Char
  others : List Char
deriving DecidableEq, Repr

namespace Gap

def nothing : Gap := ⟨[], false, none, []⟩

def escaped : Gap := ⟨[], true, none, []⟩

def isNothing (g : Gap) : Bool := g.blanks.isEmpty && !g.broken

def add (g : Gap) (c : Char) : Gap :=
  if isBreak c then
    if g.broken then { g with others := c :: g.others } else ⟨[], true, some c, []⟩
  else if g.broken then g
  else { g with blanks := c :: g.blanks }

def text (g : Gap) : List Char :=
  if g.broken then
    match g.first with
    | none => g.others.reverse
    | some c =>
      if c != '\n' then c :: g.others.reverse
      else if g.others.isEmpty then [' ']
      else g.others.reverse
  else g.blanks.reverse

end Gap

def singleQuoted (seen : List Char) (gap : Gap) (p : Place) :
    List Char → Option (List Char × Cursor)
  | [] => none
  | c :: cs =>
    if isBlank c || isBreak c then singleQuoted seen (gap.add c) (p.after c) cs
    else if p.column = 0 && isAnyMark (c :: cs) then none
    else
      let seen := gap.text.reverse ++ seen
      if c = '\'' then
        match cs with
        | '\'' :: rest => singleQuoted ('\'' :: seen) .nothing ((p.after c).after c) rest
        | _ => some (seen.reverse, ⟨p.after c, cs⟩)
      else singleQuoted (c :: seen) .nothing (p.after c) cs

def escaped? (c : Char) : Option Nat :=
  ("0abt\tnvfre \"/\\N_LP".toList.zip
    [0, 7, 8, 9, 9, 10, 11, 12, 13, 27, 32, 34, 47, 92, 0x85, 0xA0, 0x2028, 0x2029]).lookup c

def numbered? (digits : List Char) : Option Char :=
  (Text.inBase? 16 digits).bind fun n => if n.isValidChar then some (Char.ofNat n) else none

def doubleQuoted (seen : List Char) (gap : Gap) (p : Place) :
    List Char → Option (List Char × Cursor)
  | [] => none
  | c :: cs =>
    if isBlank c || isBreak c then doubleQuoted seen (gap.add c) (p.after c) cs
    else if p.column = 0 && isAnyMark (c :: cs) then none
    else
      let seen := gap.text.reverse ++ seen
      if c = '"' then some (seen.reverse, ⟨p.after c, cs⟩)
      else if c = '\\' then
        match cs with
        | [] => none
        | e :: es =>
          let q := (p.after c).after e
          if isBreak e then doubleQuoted seen .escaped q es
          else if e = 'x' then
            match es with
            | a :: b :: rest =>
              match numbered? [a, b] with
              | none => none
              | some x => doubleQuoted (x :: seen) .nothing (q.afterAll [a, b]) rest
            | _ => none
          else if e = 'u' then
            match es with
            | a :: b :: c :: d :: rest =>
              match numbered? [a, b, c, d] with
              | none => none
              | some x => doubleQuoted (x :: seen) .nothing (q.afterAll [a, b, c, d]) rest
            | _ => none
          else if e = 'U' then
            match es with
            | a :: b :: c :: d :: e :: f :: g :: h :: rest =>
              match numbered? [a, b, c, d, e, f, g, h] with
              | none => none
              | some x =>
                doubleQuoted (x :: seen) .nothing (q.afterAll [a, b, c, d, e, f, g, h]) rest
            | _ => none
          else
            match escaped? e with
            | none => none
            | some n => doubleQuoted (Char.ofNat n :: seen) .nothing q es
      else doubleQuoted (c :: seen) .nothing (p.after c) cs

def isFlowMark (c : Char) : Bool :=
  c == ',' || c == '[' || c == ']' || c == '\x7b' || c == '\x7d'

def beginsPlain (flow : Bool) : List Char → Bool
  | [] => false
  | c :: next =>
    if c == '-' then !(next.head?.any isBlank)
    else if c == '?' || c == ':' then !flow && !atGap next
    else
      !isBlank c && !isBreak c && !isFlowMark c &&
        !("#&*!|>'\"%@`".toList.contains c)

structure Plain where
  text : List Char
  broken : Bool
  cursor : Cursor

/-- The rest of a plain scalar that has to be indented by `indent`; what was read of it is newest
first. It ends at a colon before a gap, at a comment, at a mark between documents, at a line that is
indented less, and in flow style at a bracket or comma. -/
def plain (flow : Bool) (indent : Int) (seen : List Char) (gap : Gap) (p : Place) :
    List Char → Option Plain
  | [] => some ⟨seen.reverse, gap.broken, ⟨p, []⟩⟩
  | c :: cs =>
    if isBlank c || isBreak c then
      if gap.broken && c == '\t' && (p.column : Int) < indent then none
      else plain flow indent seen (gap.add c) (p.after c) cs
    else if !gap.isNothing &&
        ((!flow && (p.column : Int) < indent) || (p.column = 0 && isAnyMark (c :: cs)) ||
          c == '#') then
      some ⟨seen.reverse, gap.broken, ⟨p, c :: cs⟩⟩
    else if flow && c == ':' && cs.head?.any (fun d => isFlowMark d || d == '?') then none
    else if (c == ':' && atGap cs) || (flow && isFlowMark c) then
      some ⟨seen.reverse, gap.broken, ⟨p, c :: cs⟩⟩
    else plain flow indent (c :: gap.text.reverse ++ seen) .nothing (p.after c) cs

end ExtensionAdmin.Config.Yaml
