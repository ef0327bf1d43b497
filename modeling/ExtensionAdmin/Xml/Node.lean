import ExtensionAdmin.Xml.Tag
import ExtensionAdmin.Xml.Token

/-! Documents as events, as trees, and as text again. Comments, instructions, document types and
text that is only white space make no event. A tree is built from events with a stack of open
elements. -/

namespace ExtensionAdmin.Xml

inductive Event where
  | start (name : String) (attributes : List Attribute)
  | empty (name : String) (attributes : List Attribute)
  | close (written : String)
  | text (content : String)
deriving DecidableEq, Repr

def textEvent? (raw : List Char) : Except Fault (Option Event) :=
  match unescape raw with
  | .error f => .error (.reference f)
  | .ok cs => .ok (if Text.allBlank cs then none else some (.text (String.ofList cs)))

def Token.event? : Token → Except Fault (Option Event)
  | .text raw => textEvent? raw
  | .cdata content => .ok (some (.text (String.ofList content)))
  | .start content => do
    let attributes ← tagAttributes content
    return some (.start (String.ofList (tagName content)) attributes)
  | .empty content => do
    let attributes ← tagAttributes content
    return some (.empty (String.ofList (tagName content)) attributes)
  | .close written => .ok (some (.close (String.ofList written)))
  | .comment _ => .ok none
  | .instruction _ => .ok none
  | .doctype _ => .ok none

/-- The name that a closing tag is for: what is written without the white space at its end, unless
nothing else is written. -/
def closedName (written : String) : String :=
  let name := Text.dropEndWhile Text.isSeparator written.toList
  if name.isEmpty then written else String.ofList name

inductive Node where
  | document (children : List Node)
  | element (name : String) (attributes : List Attribute) (children : List Node)
  | text (content : String)
deriving Repr, Inhabited

namespace Node

mutual

def same : Node → Node → Bool
  | .document a, .document b => sameList a b
  | .element n as cs, .element m bs ds => n == m && as == bs && sameList cs ds
  | .text a, .text b => a == b
  | _, _ => false

def sameList : List Node → List Node → Bool
  | [], [] => true
  | a :: as, b :: bs => same a b && sameList as bs
  | _, _ => false

end

mutual

theorem same_iff : ∀ a b : Node, same a b = true ↔ a = b
  | .document a, b => by cases b <;> simp [same, sameList_iff a]
  | .element n as cs, b => by cases b <;> simp [same, sameList_iff cs, and_assoc]
  | .text a, b => by cases b <;> simp [same]

theorem sameList_iff : ∀ as bs : List Node, sameList as bs = true ↔ as = bs
  | [], bs => by cases bs <;> simp [sameList]
  | a :: as, bs => by
    cases bs with
    | nil => simp [sameList]
    | cons b bs => simp [sameList, same_iff a b, sameList_iff as bs]

end

instance : DecidableEq Node := fun a b => decidable_of_iff _ (same_iff a b)

def textName : String := "#text"

def documentName : String := "#document"

def name : Node → String
  | .document _ => documentName
  | .element n _ _ => n
  | .text _ => textName

def attributes : Node → List Attribute
  | .element _ as _ => as
  | _ => []

def children : Node → List Node
  | .document cs => cs
  | .element _ _ cs => cs
  | .text _ => []

end Node

structure Frame where
  name : String
  attributes : List Attribute
  children : List Node
deriving Repr, DecidableEq

def Frame.element (f : Frame) : Node :=
  .element f.name f.attributes f.children.reverse

/-- A tree under construction: the nodes outside of open elements, newest first, and the open
elements, innermost first. -/
structure Builder where
  roots : List Node
  frames : List Frame
deriving Repr, DecidableEq

namespace Builder

def fresh : Builder := ⟨[], []⟩

def attach (b : Builder) (n : Node) : Builder :=
  match b.frames with
  | [] => { b with roots := n :: b.roots }
  | f :: rest => { b with frames := { f with children := n :: f.children } :: rest }

def close (b : Builder) (written : String) : Except Fault Builder :=
  match b.frames with
  | [] => .error (.mismatchedEnd "" written)
  | f :: rest =>
    if closedName written = f.name then .ok (attach { b with frames := rest } f.element)
    else .error (.mismatchedEnd f.name (closedName written))

def push (b : Builder) : Event → Except Fault Builder
  | .start name attributes => .ok { b with frames := ⟨name, attributes, []⟩ :: b.frames }
  | .empty name attributes => .ok (b.attach (.element name attributes []))
  | .close written => b.close written
  | .text content => .ok (b.attach (.text content))

def take (b : Builder) (t : Token) : Except Fault Builder := do
  match ← t.event? with
  | none => return b
  | some e => b.push e

def finish (b : Builder) : Except Fault Node :=
  match b.frames with
  | [] => .ok (.document b.roots.reverse)
  | f :: _ => .error (.unclosedElement f.name)

end Builder

/-- The document of a scan: the first fault of a token, else the fault that ended the scan, else an
element that is still open, else the tree. -/
def Scan.document (s : Scan) : Except Fault Node := do
  let b ← s.tokens.foldlM Builder.take Builder.fresh
  match s.fault with
  | some f => throw f
  | none => b.finish

def Node.read (cs : List Char) : Except Fault Node :=
  (scan cs).document

def Node.parse (s : String) : Except Fault Node :=
  Node.read s.toList

def renderAttribute (a : Attribute) : List Char :=
  ' ' :: a.1.toList ++ '=' :: '"' :: escape a.2.toList ++ ['"']

def tagContent (name : String) (attributes : List Attribute) : List Char :=
  name.toList ++ attributes.flatMap renderAttribute

def startTag (name : String) (attributes : List Attribute) : List Char :=
  '<' :: tagContent name attributes ++ ['>']

def emptyTag (name : String) (attributes : List Attribute) : List Char :=
  '<' :: tagContent name attributes ++ ['/', '>']

def endTag (name : String) : List Char :=
  '<' :: '/' :: name.toList ++ ['>']

def declaration : List Char :=
  "<?xml version=\"1.0\" encoding=\"UTF-8\"?>".toList

namespace Node

mutual

def render : Node → List Char
  | .document children => renderList children
  | .element name attributes [] => emptyTag name attributes
  | .element name attributes (c :: cs) =>
    startTag name attributes ++ renderList (c :: cs) ++ endTag name
  | .text content => escape content.toList

def renderList : List Node → List Char
  | [] => []
  | n :: ns => render n ++ renderList ns

end

def write : Node → List Char
  | .document children => declaration ++ renderList children
  | n => render n

def toXml (n : Node) : String := String.ofList n.write

end Node

end ExtensionAdmin.Xml
