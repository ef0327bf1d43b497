import ExtensionAdmin.Batch.Run

/-! Batches one after another on one inventory. A session keeps the phase and the inventory between
commands. A command whose environment never replies is given up; the session stays in the phase that
it had reached, with the inventory that it had, and can be used again. -/

namespace ExtensionAdmin.Batch

structure Session (α : Type) where
  phase : Phase
  inventory : Inventory α
deriving DecidableEq, Repr

inductive Command where
  | load
  | refresh
  | select (idents : List String)
  | selectAll
  | clear
  | named (name : String)
  | run (transition : Transition)
deriving DecidableEq, Repr

inductive Reply where
  | done
  | cancelled
  | flag (value : Bool)
  | failed (error : Error)
  | ended (outcome : Outcome)
deriving DecidableEq, Repr

namespace Session

variable {α σ : Type} [Entity α]

def fresh : Session α := ⟨.idle, .empty⟩

def afterPlay {β : Type} (s : Session α) (p : Played α (Except Error β × Inventory α) σ)
    (ended : β → Reply) : Reply × Session α × σ :=
  match p.result with
  | none => (.cancelled, { s with phase := p.phase }, p.world)
  | some (.ok x, i) => (ended x, ⟨p.phase, i⟩, p.world)
  | some (.error e, i) => (.failed e, ⟨p.phase, i⟩, p.world)

/-- A run in a session. It begins in the idle phase, whatever phase was left behind. -/
def running (env : Environment α σ) (supports : Transition → Bool) (s : Session α)
    (t : Transition) (w : σ) : Played α (Ended α) σ :=
  (Batch.run supports s.inventory t).play env .idle w

def perform (env : Environment α σ) (supports : Transition → Bool) (s : Session α) (w : σ) :
    Command → Reply × Session α × σ
  | .load =>
    let s := { s with inventory := s.inventory.clear }
    s.afterPlay ((Batch.refresh s.inventory).play env s.phase w) fun _ => .done
  | .refresh => s.afterPlay ((Batch.refresh s.inventory).play env s.phase w) fun _ => .done
  | .select idents =>
    match s.inventory.select idents with
    | .ok i => (.done, { s with inventory := i }, w)
    | .error e => (.failed e, s, w)
  | .selectAll => (.done, { s with inventory := s.inventory.selectAll }, w)
  | .clear => (.done, { s with inventory := s.inventory.clear }, w)
  | .named name => (.flag (s.inventory.hasNamed name), s, w)
  | .run t => s.afterPlay (s.running env supports t w) .ended

end Session

end ExtensionAdmin.Batch
