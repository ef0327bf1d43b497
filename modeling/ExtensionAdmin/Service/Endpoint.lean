import ExtensionAdmin.Batch.Dialogue
import ExtensionAdmin.Batch.Run
import ExtensionAdmin.Http.Client
import ExtensionAdmin.Http.Message

/-! The part of the server that manages one family of entities, and batches against it. -/

namespace ExtensionAdmin.Service

open Batch (Transition Verdict Environment Modal)
open Http (Answer Client Network Request Response)

structure Endpoint (α : Type) where
  listRequest : Client → Except Error Request
  readList : Response → Except Error (List α)
  supports : Transition → Bool
  changeRequest : Client → α → Transition → Except Error Request

namespace Endpoint

variable {α σ τ : Type}

def changed (answer : Answer) : Verdict :=
  (Http.check answer).map fun _ => ()

def listed (ep : Endpoint α) (answer : Answer) : Except Error (List α) :=
  (Http.check answer).bind ep.readList

def sendOne (net : Network σ) (r : Request) (w : σ) : Option Answer × σ :=
  match net.send r w with
  | (some a, w) => (some a, w)
  | (none, w) =>
    let (a, w) := net.await 1 w
    (a.map (·.2), w)

def list (ep : Endpoint α) (c : Client) (net : Network σ) (w : σ) :
    Option (Except Error (List α)) × σ :=
  match ep.listRequest c with
  | .error e => (some (.error e), w)
  | .ok r =>
    let (a, w) := sendOne net r w
    (a.map ep.listed, w)

def change (ep : Endpoint α) (c : Client) (net : Network σ) (e : α) (t : Transition) (w : σ) :
    Option Verdict × σ :=
  match ep.changeRequest c e t with
  | .error f => (some (.error f), w)
  | .ok r =>
    let (a, w) := sendOne net r w
    (a.map changed, w)

/-- Sends the request that changes an entity. A change for which no request can be built fails at
once. -/
def send (ep : Endpoint α) (c : Client) (net : Network σ) (e : α) (t : Transition) (w : σ) :
    Option Verdict × σ :=
  match ep.changeRequest c e t with
  | .error f => (some (.error f), w)
  | .ok r =>
    let (a, w) := net.send r w
    (a.map changed, w)

def await (net : Network σ) (underWay : List α) (w : σ) :
    Option (Fin underWay.length × Verdict) × σ :=
  let (a, w) := net.await underWay.length w
  (a.map fun a => (a.1, changed a.2), w)

def environment (ep : Endpoint α) (c : Client) (net : Network σ)
    (ask : Modal → τ → Option Bool × τ) (close : τ → τ) : Environment α (τ × σ) where
  ask m w :=
    let (a, t) := ask m w.1
    (a, (t, w.2))
  close w := (close w.1, w.2)
  send e t w :=
    let (v, s) := ep.send c net e t w.2
    (v, (w.1, s))
  await underWay _ w :=
    let (a, s) := await net underWay w.2
    (a, (w.1, s))
  list w :=
    let (r, s) := ep.list c net w.2
    (r, (w.1, s))

end Endpoint

end ExtensionAdmin.Service
