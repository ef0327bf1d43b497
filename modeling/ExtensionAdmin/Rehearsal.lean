import ExtensionAdmin.Batch.Dialogue
import ExtensionAdmin.Entity.ServiceRecord
import ExtensionAdmin.Entity.UiPlugin
import ExtensionAdmin.Http.Message
import ExtensionAdmin.Json.Printer

/-! Scripted environments: a backend for batches, and a web server. A script is a list of rules. The
first rule that applies and is not spent is the one that is used. -/

namespace ExtensionAdmin

open Json (Value Decoded)

class Stored (α : Type) extends Entity α where
  keyMember : String
  ofValue : Value → Decoded α
  toValue : α → Value

instance : Stored ServiceRecord where
  keyMember := "href"
  ofValue := ServiceRecord.ofValue
  toValue := ServiceRecord.toValue

instance : Stored UiPlugin where
  keyMember := "id"
  ofValue := UiPlugin.ofValue
  toValue := UiPlugin.toValue

end ExtensionAdmin

namespace ExtensionAdmin.Rehearsal

open Batch (Environment Modal Transition Verdict)
open Http (Answer Network Request)
open Json (Value Members)

structure Rule (α : Type) where
  body : α
  left : Option Nat
deriving DecidableEq, Repr

variable {α : Type}

def Rule.isSpent (r : Rule α) : Bool := r.left == some 0

def Rule.used (r : Rule α) : Rule α := { r with left := r.left.map (· - 1) }

def useFirst (applies : α → Bool) : List (Rule α) → Option α × List (Rule α)
  | [] => (none, [])
  | r :: rest =>
    if applies r.body && !r.isSpent then (some r.body, r.used :: rest)
    else
      let (body, rest) := useFirst applies rest
      (body, r :: rest)

def allows (choice : Option String) (word : String) : Bool :=
  match choice with
  | none => true
  | some w => w == word

def word : Transition → String
  | .enable => "enable"
  | .disable => "disable"
  | .delete => "delete"
  | .changeScope _ => "scope"
  | .publishAll => "publish"
  | .unpublishAll => "unpublish"

inductive Consent where
  | accept
  | decline
  | silence
deriving DecidableEq, Repr

inductive Listing where
  | answered
  | failing (error : Error)
  | silent
deriving DecidableEq, Repr

inductive Fate where
  | carriedOut
  | failing (error : Error)
  | silent
deriving DecidableEq, Repr

/-- What a rule says about requests: which keys and changes it is for, after how many rounds they
are answered, and how. -/
structure Course where
  key : Option String
  change : Option String
  delay : Nat
  fate : Fate
deriving DecidableEq, Repr

inductive Note where
  | asked (modal : Modal) (answer : Consent)
  | closed
  | listed (count : Nat)
  | listingFailed (error : Error)
  | listingSilent
  | started (key : String) (transition : Transition)
  | finished (key : String) (transition : Transition) (result : Verdict)

structure Pending where
  delay : Nat
  fate : Fate
deriving DecidableEq, Repr

def Pending.isSilent (p : Pending) : Bool := p.fate == .silent

/-- A scripted backend: its entries, the requests that are under way, in the order in which they
were sent, the rest of its script, and the notes of what happened, newest first. A deletion of
something enabled is refused if there is a status to refuse with. With nobody in attendance every
question is accepted and not noted. -/
structure Backend where
  entries : List Value
  waiting : List Pending
  answers : List Consent
  listings : List Listing
  rules : List (Rule Course)
  unsupported : List String
  refusal : Option Nat
  attended : Bool
  notes : List Note

namespace Backend

variable [Stored α]

def note (b : Backend) (n : Note) : Backend := { b with notes := n :: b.notes }

def history (b : Backend) : List Note := b.notes.reverse

def forget (b : Backend) : Backend := { b with notes := [] }

def supports (b : Backend) (t : Transition) : Bool := !b.unsupported.contains (word t)

def nextAnswer (b : Backend) : Consent × Backend :=
  match b.answers with
  | [] => (.accept, b)
  | a :: rest => (a, { b with answers := rest })

def ask (m : Modal) (b : Backend) : Option Bool × Backend :=
  if b.attended then
    let (a, b) := b.nextAnswer
    (match a with
      | .accept => some true
      | .decline => some false
      | .silence => none, b.note (.asked m a))
  else (some true, b)

def close (b : Backend) : Backend := if b.attended then b.note .closed else b

def nextListing (b : Backend) : Listing × Backend :=
  match b.listings with
  | [] => (.answered, b)
  | l :: rest => (l, { b with listings := rest })

def entities (b : Backend) : Except Error (List α) :=
  (b.entries.mapM Stored.ofValue).mapError .serialization

def list (b : Backend) : Option (Except Error (List α)) × Backend :=
  let (l, b) := b.nextListing
  match l with
  | .answered => (some b.entities, b.note (.listed b.entries.length))
  | .failing e => (some (.error e), b.note (.listingFailed e))
  | .silent => (none, b.note .listingSilent)

def hasKey (α : Type) [Stored α] (key : String) (entry : Value) : Bool :=
  (entry.get? (Stored.keyMember α)).bind Value.string? == some key

def setFlag (name : String) (flag : Bool) : Value → Value
  | .object ms => .object (Members.insert name (.bool flag) ms)
  | v => v

def isEnabled (entry : Value) : Bool := (entry.get? "enabled").bind Value.bool? == some true

def revise (entry : Value) : Transition → List Value
  | .enable => [setFlag "enabled" true entry]
  | .disable => [setFlag "enabled" false entry]
  | .delete => []
  | .changeScope s =>
    [setFlag "tenant_scoped" s.tenant (setFlag "provider_scoped" s.serviceProvider entry)]
  | .publishAll => [entry]
  | .unpublishAll => [entry]

def replaceFirst (p : Value → Bool) (change : Value → List Value) : List Value → List Value
  | [] => []
  | v :: rest => if p v then change v ++ rest else v :: replaceFirst p change rest

def refusal? (b : Backend) (entry : Value) (t : Transition) : Option Error :=
  match b.refusal, t with
  | some status, .delete =>
    if isEnabled entry then some (.api status "must be disabled first") else none
  | _, _ => none

def carryOut (α : Type) [Stored α] (key : String) (t : Transition) (b : Backend) :
    Verdict × Backend :=
  match b.entries.find? (hasKey α key) with
  | none => (.error (.notFound key), b)
  | some entry =>
    match b.refusal? entry t with
    | some e => (.error e, b)
    | none =>
      (.ok (), { b with entries := replaceFirst (hasKey α key) (fun v => revise v t) b.entries })

def start (t : Transition) (e : α) (b : Backend) : Pending × Backend :=
  let key := Entity.key e
  let (course, rules) :=
    useFirst (fun c : Course => allows c.key key && allows c.change (word t)) b.rules
  let b := { b with rules }.note (.started key t)
  match course with
  | none => (⟨0, .carriedOut⟩, b)
  | some c => (⟨c.delay, c.fate⟩, b)

def finish (t : Transition) (e : α) (fate : Fate) (b : Backend) : Verdict × Backend :=
  let key := Entity.key e
  let (verdict, b) :=
    match fate with
    | .failing f => (Except.error f, b)
    | _ => b.carryOut α key t
  (verdict, b.note (.finished key t verdict))

def send (e : α) (t : Transition) (b : Backend) : Option Verdict × Backend :=
  let (p, b) := b.start t e
  if p.delay == 0 && !p.isSilent then
    let (v, b) := b.finish t e p.fate
    (some v, b)
  else (none, { b with waiting := b.waiting ++ [p] })

/-- The waiting request that is answered next, with its place: that of the earliest round, and of a
round the one that was started first. Those that are never answered are left out. -/
def soonest? : List Pending → Option (Nat × Pending)
  | [] => none
  | p :: rest =>
    match soonest? rest with
    | none => if p.isSilent then none else some (0, p)
    | some (i, q) => if p.isSilent || q.delay < p.delay then some (i + 1, q) else some (0, p)

def await (underWay : List α) (t : Transition) (b : Backend) :
    Option (Fin underWay.length × Verdict) × Backend :=
  match soonest? b.waiting with
  | none => (none, { b with waiting := [] })
  | some (i, p) =>
    if h : i < underWay.length then
      let b := { b with waiting := b.waiting.eraseIdx i }
      let (v, b) := b.finish t underWay[i] p.fate
      (some (⟨i, h⟩, v), b)
    else (none, { b with waiting := [] })

def environment (α : Type) [Stored α] : Environment α Backend where
  ask := ask
  close := close
  send := send
  await := await
  list := list

end Backend

structure Route where
  method : Option String
  url : Option String
  status : Nat
  body : String
  drop : Bool
deriving DecidableEq, Repr

structure Web where
  routes : List (Rule Route)
  reachable : Bool
  underWay : List Request
  arrived : List Request
deriving DecidableEq, Repr

def sentUrl (r : Request) : String := String.ofList r.url.renderSent

def arrivedHeader (value : String) : String :=
  String.ofList (Text.dropEndWhile (fun c => c == ' ' || c == '\t') value.toList)

def requestValue (r : Request) : Value :=
  .object [
    ("accept", .string (arrivedHeader r.accept)),
    ("auth", .string (arrivedHeader r.token)),
    ("body", .string r.body),
    ("content_type", (r.contentType.map fun t => Value.string (arrivedHeader t)).getD .null),
    ("method", .string r.method.name),
    ("url", .string (sentUrl r))]

namespace Route

def answer (r : Route) : Answer :=
  if r.drop then .error .dropped
  else .ok ⟨r.status, if r.status == 204 || r.status == 304 then "" else r.body⟩

def nowhere : Answer := .ok ⟨404, ""⟩

end Route

namespace Web

def answer (r : Request) (w : Web) : Answer × Web :=
  let (route, routes) :=
    useFirst (fun x : Route => allows x.method r.method.name && allows x.url (sentUrl r)) w.routes
  (match route with
    | none => Route.nowhere
    | some x => x.answer, { w with routes, arrived := r :: w.arrived })

def await : (underWay : Nat) → Web → Option (Fin underWay × Answer) × Web
  | _ + 1, w =>
    match w.underWay with
    | [] => (none, w)
    | r :: rest =>
      let (a, w) := { w with underWay := rest }.answer r
      (some (⟨0, Nat.succ_pos _⟩, a), w)
  | 0, w => (none, w)

def network : Network Web where
  send r w :=
    if w.reachable then (none, { w with underWay := w.underWay ++ [r] })
    else (Network.unreachable Web).send r w
  await n w := if w.reachable then w.await n else (Network.unreachable Web).await n w

def forget (w : Web) : Web := { w with arrived := [] }

/-- The requests that arrived. Those that are under way together arrive in no particular order, so
neighbours of one method stand in the order of their texts. -/
def log (w : Web) : List Value :=
  (w.arrived.reverse.splitBy fun a b => a.method == b.method).flatMap fun run =>
    (run.map requestValue).mergeSort fun a b => a.text ≤ b.text

end Web

end ExtensionAdmin.Rehearsal
