import ExtensionAdmin.Batch.Plan
import ExtensionAdmin.Text.Basic

/-! Questions on a terminal. Each question takes one line of the input, whatever that line holds;
notices take none. Whether the output can be written makes no difference to the answers. -/

namespace ExtensionAdmin.Console

open Batch (Modal)

/-- A terminal: the bytes that are still to be read, and the text that was written. Nothing is
written to a broken one. One that assumes yes is not asked. -/
structure Terminal where
  assumeYes : Bool
  broken : Bool
  input : List UInt8
  output : String
deriving DecidableEq, Repr

def splitLine : List UInt8 → List UInt8 × List UInt8
  | [] => ([], [])
  | b :: bs =>
    if b = 10 then ([b], bs)
    else
      let r := splitLine bs
      (b :: r.1, r.2)

def decode? (bytes : List UInt8) : Option String :=
  String.fromUTF8? ⟨bytes.toArray⟩

def isAffirmative (answer label : String) : Bool :=
  ["y", "yes", label].any fun word => Text.sameIgnoringCase answer word

def acceptLabel (m : Modal) : String := m.accept.getD "Yes"

def declineLabel (m : Modal) : String := m.decline.getD "No"

/-- Whether a line accepts. No line, or one that is no text, does not. -/
def accepts (m : Modal) (line : List UInt8) : Bool :=
  match line, decode? line with
  | [], _ => false
  | _, none => false
  | _, some text => isAffirmative (Text.trimmed text) (acceptLabel m)

def announcement (m : Modal) : String := m.title ++ ": " ++ m.body ++ "\n"

def prompt (m : Modal) : String := "[" ++ acceptLabel m ++ "/" ++ declineLabel m ++ "] "

namespace Terminal

def say (t : Terminal) (text : String) : Terminal :=
  if t.broken then t else { t with output := t.output ++ text }

def ask (m : Modal) (t : Terminal) : Bool × Terminal :=
  let t := t.say (announcement m)
  if !m.isQuestion || t.assumeYes then (true, t)
  else
    let t := t.say (prompt m)
    let (line, rest) := splitLine t.input
    (accepts m line, { t with input := rest })

def askAll (t : Terminal) : List Modal → List Bool × Terminal
  | [] => ([], t)
  | m :: ms =>
    let (yes, t) := t.ask m
    let (answers, t) := t.askAll ms
    (yes :: answers, t)

end Terminal

end ExtensionAdmin.Console
