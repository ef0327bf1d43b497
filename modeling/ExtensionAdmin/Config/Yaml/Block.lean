import ExtensionAdmin.Config.Yaml.Basic
import ExtensionAdmin.Text.Basic

/-! Scalars that are blocks of lines, literal or folded. The lines of a block share an indentation,
which its header gives or its first line shows. A block ends before a line that is indented less. Of
its last line breaks the header says which are kept. -/

namespace ExtensionAdmin.Config.Yaml

inductive Ending where
  | clip
  | strip
  | keep
deriving DecidableEq, Repr

def ending? (c : Char) : Option Ending :=
  if c = '+' then some .keep else if c = '-' then some .strip else none

def depth? (c : Char) : Option Nat :=
  if '1' ≤ c && c ≤ '9' then Text.digitValue? c else none

def indicators : List Char → Ending × Option Nat × Nat
  | [] => (.clip, none, 0)
  | c :: cs =>
    match ending? c, depth? c with
    | some e, _ =>
      match cs.head?.bind depth? with
      | some n => (e, some n, 2)
      | none => (e, none, 1)
    | none, some n =>
      match cs.head?.bind ending? with
      | some e => (e, some n, 2)
      | none => (.clip, some n, 1)
    | none, none => (.clip, none, 0)

def leadingLines (breaks : List Char) (widest : Nat) (p : Place) :
    List Char → Option (List Char × Nat × Cursor)
  | [] => some (breaks, max widest p.column, ⟨p, []⟩)
  | c :: cs =>
    if c == ' ' then leadingLines breaks widest (p.after c) cs
    else if c == '\t' then none
    else if isBreak c then leadingLines (c :: breaks) (max widest p.column) (p.after c) cs
    else some (breaks, max widest p.column, ⟨p, c :: cs⟩)

/-- A block under way. What was read is newest first: the text, the break of its last line, and the
breaks of the blank lines after that. `spaced` tells whether the last line began with a blank. -/
structure Lines where
  text : List Char
  last : Option Char
  blank : List Char
  spaced : Bool
deriving DecidableEq, Repr

namespace Lines

/-- Begins a line with a character. In a folded block the break before it becomes a space, or
nothing if blank lines stand between, unless one of the two lines begins with a blank. -/
def beginLine (literal : Bool) (l : Lines) (c : Char) : Lines :=
  let joint :=
    if !literal && l.last == some '\n' && !l.spaced && !isBlank c then
      if l.blank.isEmpty then [' '] else []
    else l.last.toList
  ⟨c :: l.blank ++ joint ++ l.text, none, [], isBlank c⟩

def finish (l : Lines) : Ending → List Char
  | .strip => l.text.reverse
  | .clip => (l.last.toList ++ l.text).reverse
  | .keep => (l.blank ++ l.last.toList ++ l.text).reverse

end Lines

def blockLines (literal : Bool) (indent : Nat) (within : Bool) (l : Lines) (p : Place) :
    List Char → Option (Lines × Cursor)
  | [] => some (l, ⟨p, []⟩)
  | c :: cs =>
    if within then
      if isBreak c then blockLines literal indent false { l with last := some c } (p.after c) cs
      else blockLines literal indent true { l with text := c :: l.text } (p.after c) cs
    else if p.column < indent && c == ' ' then blockLines literal indent false l (p.after c) cs
    else if p.column < indent && c == '\t' then none
    else if isBreak c then
      blockLines literal indent false { l with blank := c :: l.blank } (p.after c) cs
    else if p.column = indent then
      blockLines literal indent true (l.beginLine literal c) (p.after c) cs
    else some (l, ⟨p, c :: cs⟩)

def block (literal : Bool) (outer : Int) (c : Cursor) : Option (List Char × Cursor) := do
  let (ending, depth, n) := indicators c.rest
  let c ← (c.skip n).endLine?
  let (blank, indent, c) ←
    match depth with
    | some d => some (([] : List Char), (max outer 0).toNat + d, c)
    | none => (leadingLines [] 0 c.place c.rest).map fun (breaks, widest, c) =>
      (breaks, max widest (max 1 (outer + 1).toNat), c)
  let (l, c) ← blockLines literal indent false ⟨[], none, blank, false⟩ c.place c.rest
  return (l.finish ending, c)

end ExtensionAdmin.Config.Yaml
