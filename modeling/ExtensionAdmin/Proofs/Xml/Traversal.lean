import ExtensionAdmin.Proofs.Xml.Building

/-! A tree is read as it stands in the text. Going through a tree in document order meets the
opening of an element, its text and its closing. The reader's events say the same things one by one,
so a tree under construction is described by what is met on the way through it, elements that are
still open included. A token that is taken adds at the end of this what the token itself says, and
changes the names of the open elements as the reader does that checks the closing tags. So what is
met in the whole tree is what the events say, nothing lost and nothing twice; and a list of nodes is
told by what is met in it. -/

namespace ExtensionAdmin.Xml

open Fallible (bind_eq_ok mapM_eq_ok mapM_ok_mem)

/-- What is met on the way through a tree, in document order. A document inside of a tree, which no
text is read as, is entered and left. -/
inductive Visit where
  | opened (name : String) (attributes : List Attribute)
  | text (content : String)
  | closed (name : String)
  | entered
  | left
deriving DecidableEq, Repr

namespace Node

mutual

def visits : Node → List Visit
  | .document children => .entered :: traversal children ++ [.left]
  | .element name attributes children =>
    .opened name attributes :: traversal children ++ [.closed name]
  | .text content => [.text content]

def traversal : List Node → List Visit
  | [] => []
  | n :: ns => visits n ++ traversal ns

end

@[simp] theorem traversal_nil : traversal [] = [] := rfl

@[simp] theorem traversal_append (ns ms : List Node) :
    traversal (ns ++ ms) = traversal ns ++ traversal ms := by
  induction ns with
  | nil => rfl
  | cons n ns ih => simp [traversal, ih]

@[simp] theorem traversal_singleton (n : Node) : traversal [n] = visits n := by
  simp [traversal]

/-- Nothing is left of the siblings at this point: the visits are over, or the parent's end is
next. -/
def Over (vs : List Visit) : Prop :=
  ∀ v ∈ vs.head?, (∃ name, v = .closed name) ∨ v = .left

theorem over_closed (name : String) (vs : List Visit) : Over (.closed name :: vs) := by simp [Over]

theorem over_left (vs : List Visit) : Over (.left :: vs) := by simp [Over]

theorem not_over_visits (n : Node) (vs : List Visit) : ¬ Over (visits n ++ vs) := by
  cases n <;> simp [visits, Over]

mutual

/-- A node that is met in front of other visits is told by them, and so is where it ends. -/
theorem visits_append_inj : ∀ (n m : Node) {vs ws : List Visit},
    visits n ++ vs = visits m ++ ws → n = m ∧ vs = ws
  | .text content, m, vs, ws, same => by
    cases m <;> simp_all [visits]
  | .document children, m, vs, ws, same => by
    cases m with
    | document others =>
      simp only [visits, List.cons_append, List.append_assoc, List.cons.injEq, true_and,
        List.nil_append] at same
      obtain ⟨rfl, tail⟩ := traversal_append_inj children others (over_left _) (over_left _) same
      exact ⟨rfl, by simpa using tail⟩
    | element | text => simp [visits] at same
  | .element name attributes children, m, vs, ws, same => by
    cases m with
    | element other more others =>
      simp only [visits, List.cons_append, List.append_assoc, List.cons.injEq, Visit.opened.injEq,
        List.nil_append] at same
      obtain ⟨⟨rfl, rfl⟩, inside⟩ := same
      obtain ⟨rfl, tail⟩ :=
        traversal_append_inj children others (over_closed _ _) (over_closed _ _) inside
      exact ⟨rfl, by simpa using tail⟩
    | document | text => simp [visits] at same

theorem traversal_append_inj : ∀ (ns ms : List Node) {vs ws : List Visit}, Over vs → Over ws →
    traversal ns ++ vs = traversal ms ++ ws → ns = ms ∧ vs = ws
  | [], [], vs, ws, _, _, same => ⟨rfl, same⟩
  | [], m :: ms, vs, ws, ends, _, same => by
    rw [traversal, traversal, List.nil_append, List.append_assoc] at same
    exact absurd (same ▸ ends) (not_over_visits m _)
  | n :: ns, [], vs, ws, _, ends, same => by
    rw [traversal, traversal, List.nil_append, List.append_assoc] at same
    exact absurd (same ▸ ends) (not_over_visits n _)
  | n :: ns, m :: ms, vs, ws, endsLeft, endsRight, same => by
    rw [traversal, traversal, List.append_assoc, List.append_assoc] at same
    obtain ⟨rfl, later⟩ := visits_append_inj n m same
    obtain ⟨rfl, tail⟩ := traversal_append_inj ns ms endsLeft endsRight later
    exact ⟨rfl, tail⟩

end

end Node

/-- What one event says: an element that opens, one that closes, both for an empty element, or a
text with its references replaced. Character data is a text even if it is blank; any other blank
text says nothing, and neither do comments, instructions, declarations and document types. -/
def Token.visits : Token → Except Fault (List Visit)
  | .text raw =>
    match unescape raw with
    | .error f => .error (.reference f)
    | .ok content =>
      .ok (if Text.allBlank content then [] else [.text (String.ofList content)])
  | .cdata content => .ok [.text (String.ofList content)]
  | .start content => do
    let attributes ← tagAttributes content
    return [.opened (String.ofList (tagName content)) attributes]
  | .empty content => do
    let attributes ← tagAttributes content
    let name := String.ofList (tagName content)
    return [.opened name attributes, .closed name]
  | .close written => .ok [.closed (closedName (String.ofList written))]
  | .comment _ => .ok []
  | .instruction _ => .ok []
  | .doctype _ => .ok []

def Token.opens (names : List String) : Token → List String
  | .start content => String.ofList (tagName content) :: names
  | .close _ => names.tail
  | _ => names

def Token.mismatch? (names : List String) : Token → Option Fault
  | .close written =>
    let found := closedName (String.ofList written)
    match names with
    | [] => some (.mismatchedEnd "" (String.ofList written))
    | name :: _ => if found = name then none else some (.mismatchedEnd name found)
  | _ => none

/-- The events that a reader delivers which checks closing tags: all that are scanned up to the
first closing tag that is not for the innermost open element, and that fault; or else all of them
and the fault that ended the scan. -/
def checked (names : List String) (fault : Option Fault) : List Token → Scan
  | [] => ⟨[], fault⟩
  | t :: ts =>
    match t.mismatch? names with
    | some f => ⟨[], some f⟩
    | none => (checked (t.opens names) fault ts).cons t

def events (s : String) : Scan :=
  checked [] (scan s.toList).fault (scan s.toList).tokens

def Frame.visits (f : Frame) : List Visit :=
  .opened f.name f.attributes :: Node.traversal f.children.reverse

namespace Builder

def visits (b : Builder) : List Visit :=
  Node.traversal b.roots.reverse ++ b.frames.reverse.flatMap Frame.visits

def names (b : Builder) : List String :=
  b.frames.map Frame.name

end Builder

example : events "<a> <b/>x</c></a>" =
    ⟨[.start ['a'], .text [' '], .empty ['b'], .text ['x']], some (.mismatchedEnd "a" "c")⟩ := by
  decide

end ExtensionAdmin.Xml
