import ExtensionAdmin.Batch.Plan
import ExtensionAdmin.Error

/-! What a batch asks of the world around it. A dialogue is a tree: each node is one thing that the
batch does or asks for, with a branch for each possible reply. Playing it in an environment leaves a
record of everything that happened. -/

namespace ExtensionAdmin.Batch

inductive Phase where
  | idle
  | confirming
  | aborted
  | executing
  | succeeded
  | failed
deriving DecidableEq, Repr

namespace Phase

def name : Phase → String
  | .idle => "idle"
  | .confirming => "confirming"
  | .aborted => "aborted"
  | .executing => "executing"
  | .succeeded => "succeeded"
  | .failed => "failed"

def all : List Phase := [.idle, .confirming, .aborted, .executing, .succeeded, .failed]

def ofName? (name : String) : Option Phase := all.find? fun p => p.name = name

def mayFollow : Phase → Phase → Bool
  | .idle, .confirming => true
  | .confirming, .confirming => true
  | .confirming, .aborted => true
  | .confirming, .executing => true
  | .executing, .succeeded => true
  | .executing, .failed => true
  | .failed, .confirming => true
  | .aborted, .idle => true
  | .succeeded, .idle => true
  | .failed, .idle => true
  | _, _ => false

def isLoading : Phase → Bool
  | .executing => true
  | _ => false

end Phase

abbrev Verdict := Except Error Unit

/-- A batch whose requests all succeeded. `remedied` counts the entities that were disabled first
because their deletion was refused. -/
structure Report where
  transition : Transition
  requested : Nat
  succeeded : Nat
  remedied : Nat
deriving DecidableEq, Repr

/-- What is kept of the requests of a wave that finished so far: how many failed, and the error of
the one that failed first. -/
structure Tally where
  failed : Nat
  first : Option Error
deriving DecidableEq, Repr

namespace Tally

def fresh : Tally := ⟨0, none⟩

def add (y : Tally) : Verdict → Tally
  | .ok _ => y
  | .error e => ⟨y.failed + 1, y.first.or (some e)⟩

def report (y : Tally) (t : Transition) (total : Nat) : Except Error Report :=
  match y.first with
  | none => .ok ⟨t, total, total, 0⟩
  | some e => .error (.batch y.failed total e)

end Tally

inductive Outcome where
  | nothingSelected
  | declined
  | alreadySatisfied (total : Nat)
  | completed (report : Report)
deriving DecidableEq, Repr

/-- A conversation with the operator and the server that ends in a result. A request that is sent is
answered at once, or is under way from then on. Of the requests under way, `await` takes the one
that is answered next, whichever that is. -/
inductive Dialogue (α β : Type) where
  | done (result : β)
  | enter (phase : Phase) (next : Dialogue α β)
  | ask (modal : Modal) (next : Bool → Dialogue α β)
  | close (next : Dialogue α β)
  | send (entity : α) (transition : Transition) (next : Option Verdict → Dialogue α β)
  | await (underWay : List α) (transition : Transition)
      (next : Fin underWay.length → Verdict → Dialogue α β)
  | list (next : Except Error (List α) → Dialogue α β)

namespace Dialogue

def bind {α β γ : Type} : Dialogue α β → (β → Dialogue α γ) → Dialogue α γ
  | .done x, f => f x
  | .enter p next, f => .enter p (bind next f)
  | .ask m next, f => .ask m fun yes => bind (next yes) f
  | .close next, f => .close (bind next f)
  | .send e t next, f => .send e t fun v => bind (next v) f
  | .await es t next, f => .await es t fun i v => bind (next i v) f
  | .list next, f => .list fun r => bind (next r) f

instance {α : Type} : Monad (Dialogue α) where
  pure := .done
  bind := bind

end Dialogue

/-- Who replies. A reply of `none` never comes; for a request that is sent it means that the request
is under way. Of the requests under way one is chosen, by its place among them. -/
structure Environment (α σ : Type) where
  ask : Modal → σ → Option Bool × σ
  close : σ → σ
  send : α → Transition → σ → Option Verdict × σ
  await : (underWay : List α) → Transition → σ → Option (Fin underWay.length × Verdict) × σ
  list : σ → Option (Except Error (List α)) × σ

inductive Effect (α : Type) where
  | entered (phase : Phase)
  | asked (modal : Modal) (answer : Option Bool)
  | closed
  | sent (entity : α) (transition : Transition)
  | finished (entity : α) (transition : Transition) (verdict : Verdict)
  | stalled (underWay : List α) (transition : Transition)
  | listed (result : Option (Except Error (List α)))

structure Played (α β σ : Type) where
  effects : List (Effect α)
  phase : Phase
  result : Option β
  world : σ

def Played.after {α β σ : Type} (e : Effect α) (p : Played α β σ) : Played α β σ :=
  { p with effects := e :: p.effects }

def Dialogue.play {α β σ : Type} (env : Environment α σ) :
    Dialogue α β → Phase → σ → Played α β σ
  | .done x, phase, w => ⟨[], phase, some x, w⟩
  | .enter p next, _, w => (play env next p w).after (.entered p)
  | .ask m next, phase, w =>
    match env.ask m w with
    | (none, w) => ⟨[.asked m none], phase, none, w⟩
    | (some yes, w) => (play env (next yes) phase w).after (.asked m (some yes))
  | .close next, phase, w => (play env next phase (env.close w)).after .closed
  | .send e t next, phase, w =>
    match env.send e t w with
    | (none, w) => (play env (next none) phase w).after (.sent e t)
    | (some v, w) => ((play env (next (some v)) phase w).after (.finished e t v)).after (.sent e t)
  | .await es t next, phase, w =>
    match env.await es t w with
    | (none, w) => ⟨[.stalled es t], phase, none, w⟩
    | (some (i, v), w) => (play env (next i v) phase w).after (.finished es[i] t v)
  | .list next, phase, w =>
    match env.list w with
    | (none, w) => ⟨[.listed none], phase, none, w⟩
    | (some r, w) => (play env (next r) phase w).after (.listed (some r))

end ExtensionAdmin.Batch
