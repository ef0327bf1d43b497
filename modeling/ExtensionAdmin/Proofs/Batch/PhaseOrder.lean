import ExtensionAdmin.Proofs.Batch.Course

/-! What happens in which phase. A scene is what can be seen of a batch from outside: the phase, how
many requests were sent and answered, and whether a modal is open. Each effect is allowed in some
scenes and leads to the next one. Every course of a run keeps to this, from the scene at its
opening, and an ended run has come to rest. -/

namespace ExtensionAdmin.Batch

variable {α β σ : Type}

structure Scene where
  phase : Phase
  sent : Nat
  answered : Nat
  modal : Bool
deriving DecidableEq, Repr

namespace Scene

def opening : Scene := ⟨.idle, 0, 0, false⟩

/-- The scene after an effect. A modal without an answer is open, and one that waits to be closed
stays open when it is answered. -/
def next (s : Scene) : Effect α → Scene
  | .entered p => { s with phase := p }
  | .asked m answer => { s with modal := m.waitToClose || answer.isNone }
  | .closed => { s with modal := false }
  | .sent _ _ => { s with sent := s.sent + 1 }
  | .finished _ _ _ => { s with answered := s.answered + 1 }
  | .stalled _ _ => s
  | .listed _ => s

def after (effects : List (Effect α)) : Scene := effects.foldl next opening

def Loaded (s : Scene) : Prop := s.answered < s.sent

/-- The scenes in which an effect may happen. No phase is left while a request is under way, and
none is sent behind an open modal. -/
def Allows (s : Scene) : Effect α → Prop
  | .entered p => s.phase.mayFollow p = true ∧ ¬ s.Loaded ∧ (p = .executing → s.modal = false)
  | .asked _ _ => s.phase = .confirming
  | .closed => s.phase = .confirming
  | .sent _ _ => s.phase = .executing
  | .finished _ _ _ => s.phase = .executing
  | .stalled _ _ => s.phase = .executing
  | .listed _ => s.phase ∈ [Phase.succeeded, .failed, .aborted]

end Scene

inductive Orderly : Scene → List (Effect α) → Scene → Prop where
  | nil (s : Scene) : Orderly s [] s
  | cons {s last : Scene} {x : Effect α} {rest : List (Effect α)} (allowed : s.Allows x)
      (orderly : Orderly (s.next x) rest last) : Orderly s (x :: rest) last

namespace Orderly

variable {s middle last : Scene} {left right before rest : List (Effect α)} {x : Effect α}

theorem append (first : Orderly s left middle) (second : Orderly middle right last) :
    Orderly s (left ++ right) last := by
  induction first with
  | nil s => exact second
  | cons allowed orderly ih => exact .cons allowed (ih second)

theorem scene (orderly : Orderly s left last) : last = left.foldl Scene.next s := by
  induction orderly with
  | nil s => rfl
  | cons allowed orderly ih => exact ih

theorem split (orderly : Orderly s (before ++ right) last) :
    Orderly (before.foldl Scene.next s) right last ∧
      Orderly s before (before.foldl Scene.next s) := by
  induction before generalizing s with
  | nil => exact ⟨orderly, .nil s⟩
  | cons y before ih =>
    cases orderly with
    | cons allowed orderly =>
      obtain ⟨later, here⟩ := ih orderly
      exact ⟨later, .cons allowed here⟩

theorem allowed (orderly : Orderly s (before ++ x :: rest) last) :
    (before.foldl Scene.next s).Allows x := by
  cases orderly.split.1 with
  | cons allowed orderly => exact allowed

end Orderly

/-- Requests are under way in the executing phase only, and no modal is open then. -/
def Scene.Sound (s : Scene) : Prop :=
  (s.Loaded → s.phase = .executing) ∧ (s.modal = true → s.phase ≠ .executing)

-- One effect, by its kind.
theorem next_sound {s : Scene} {x : Effect α} (sound : s.Sound) (allowed : s.Allows x) :
    (s.next x).Sound := by
  obtain ⟨loaded, modal⟩ := sound
  cases x with
  | entered p =>
    obtain ⟨-, unloaded, closed⟩ := allowed
    constructor
    · intro now
      exact absurd now unloaded
    · intro shown executing
      exact absurd shown (by simp [Scene.next, closed executing])
  | asked m answer =>
    refine ⟨loaded, fun _ => ?_⟩
    simp only [Scene.Allows] at allowed
    simp [Scene.next, allowed]
  | closed => exact ⟨loaded, by simp [Scene.next]⟩
  | sent e t => exact ⟨fun _ => allowed, modal⟩
  | finished e t v => exact ⟨fun _ => allowed, modal⟩
  | stalled underWay t => exact ⟨loaded, modal⟩
  | listed reply => exact ⟨loaded, modal⟩

theorem orderly_sound {s last : Scene} {effects : List (Effect α)} (sound : s.Sound)
    (orderly : Orderly s effects last) : last.Sound := by
  induction orderly with
  | nil s => exact sound
  | cons allowed orderly ih => exact ih (next_sound sound allowed)

theorem counted (effects : List (Effect α)) (s : Scene) :
    (effects.foldl Scene.next s).sent = s.sent + (sends effects).length ∧
      (effects.foldl Scene.next s).answered = s.answered + (answers effects).length := by
  induction effects generalizing s with
  | nil => exact ⟨rfl, rfl⟩
  | cons x effects ih =>
    obtain ⟨sent, answered⟩ := ih (s.next x)
    rw [List.foldl_cons, sent, answered]
    cases x <;> simp [Scene.next] <;> omega

/-- The phase in which a dialogue is left is the one that its record shows. -/
theorem play_phase (env : Environment α σ) (d : Dialogue α β) (s : Scene) (w : σ) :
    (d.play env s.phase w).phase = ((d.play env s.phase w).effects.foldl Scene.next s).phase := by
  induction d generalizing s w with
  | done x => rfl
  | enter p next ih => exact ih (s.next (.entered p : Effect α)) w
  | ask m next ih =>
    rcases reply : env.ask m w with ⟨_ | yes, after⟩ <;> simp only [Dialogue.play, reply]
    · rfl
    · exact ih yes (s.next (.asked m (some yes) : Effect α)) after
  | close next ih => exact ih (s.next (.closed : Effect α)) _
  | send e t next ih =>
    rcases reply : env.send e t w with ⟨_ | v, after⟩ <;> simp only [Dialogue.play, reply]
    · exact ih none (s.next (.sent e t)) after
    · exact ih (some v) ((s.next (.sent e t)).next (.finished e t v)) after
  | await underWay t next ih =>
    rcases reply : env.await underWay t w with ⟨_ | ⟨i, v⟩, after⟩ <;>
      simp only [Dialogue.play, reply]
    · rfl
    · exact ih i v (s.next (.finished underWay[i] t v)) after
  | list next ih =>
    rcases reply : env.list w with ⟨_ | x, after⟩ <;> simp only [Dialogue.play, reply]
    · rfl
    · exact ih x (s.next (.listed (some x))) after

def Scene.At (s : Scene) (phase : Phase) (modal : Bool) : Prop :=
  s.phase = phase ∧ s.modal = modal ∧ s.answered = s.sent

def Proceeds (s : Scene) (effects : List (Effect α)) (result : Option β) (phases : List Phase) :
    Prop :=
  ∃ last, Orderly s effects last ∧ (result ≠ none → ∃ p ∈ phases, last.At p false)

namespace Scene.At

variable {s : Scene} {phase p : Phase} {modal : Bool}

theorem unloaded (here : s.At phase modal) : ¬ s.Loaded := by
  obtain ⟨-, -, settled⟩ := here
  unfold Scene.Loaded
  omega

theorem enter (here : s.At phase modal) (p : Phase) :
    (s.next (.entered p : Effect α)).At p modal :=
  ⟨rfl, here.2.1, here.2.2⟩

theorem mayEnter (here : s.At phase modal) (follows : phase.mayFollow p = true)
    (closed : p = .executing → modal = false) : s.Allows (.entered p : Effect α) := by
  refine ⟨?_, here.unloaded, ?_⟩
  · rw [here.1]
    exact follows
  · intro executing
    rw [here.2.1]
    exact closed executing

theorem ask (here : s.At phase modal) (m : Modal) (yes : Bool) :
    (s.next (.asked m (some yes) : Effect α)).At phase m.waitToClose :=
  ⟨here.1, by simp [Scene.next], here.2.2⟩

theorem close (here : s.At phase modal) : (s.next (.closed : Effect α)).At phase false :=
  ⟨here.1, rfl, here.2.2⟩

end Scene.At

theorem Proceeds.stopped {s last : Scene} {effects : List (Effect α)} {phases : List Phase}
    (orderly : Orderly s effects last) : Proceeds s effects (none : Option β) phases :=
  ⟨last, orderly, fun ended => absurd rfl ended⟩

theorem Proceeds.ends {s last : Scene} {effects : List (Effect α)} {result : Option β}
    {phases : List Phase} {p : Phase} (orderly : Orderly s effects last) (here : last.At p false)
    (among : p ∈ phases) : Proceeds s effects result phases :=
  ⟨last, orderly, fun _ => ⟨p, among, here⟩⟩

theorem Proceeds.cons {s : Scene} {x : Effect α} {effects : List (Effect α)} {result : Option β}
    {phases : List Phase} (allowed : s.Allows x)
    (later : Proceeds (s.next x) effects result phases) :
    Proceeds s (x :: effects) result phases := by
  obtain ⟨last, orderly, ends⟩ := later
  exact ⟨last, .cons allowed orderly, ends⟩

theorem Proceeds.before {s middle : Scene} {lead effects : List (Effect α)} {result : Option β}
    {phases : List Phase} (first : Orderly s lead middle)
    (later : Proceeds middle effects result phases) :
    Proceeds s (lead ++ effects) result phases := by
  obtain ⟨last, orderly, ends⟩ := later
  exact ⟨last, first.append orderly, ends⟩

/-- Requests and answers change nothing but the counts. -/
theorem exchange_orderly {part : List (Effect α)} (quiet : ∀ x ∈ part, x.isExchange) {s : Scene}
    (executing : s.phase = .executing) : Orderly s part
      { s with sent := s.sent + (sends part).length,
               answered := s.answered + (answers part).length } := by
  induction part generalizing s with
  | nil => exact .nil s
  | cons x part ih =>
    obtain ⟨here, later⟩ := List.forall_mem_cons.mp quiet
    cases x with
    | sent e t =>
      refine .cons executing ?_
      simpa [Scene.next, Nat.add_assoc, Nat.add_comm 1] using
        ih later (s := s.next (.sent e t)) executing
    | finished e t v =>
      refine .cons executing ?_
      simpa [Scene.next, Nat.add_assoc, Nat.add_comm 1] using
        ih later (s := s.next (.finished e t v)) executing
    | _ => cases here

-- A wave that is answered leaves nothing under way.
theorem wave_orderly {es : List α} {t : Transition} {part : List (Effect α)} {s : Scene}
    (wave : Answered es t part) (here : s.At .executing false) :
    ∃ last, Orderly s part last ∧ last.At .executing false := by
  refine ⟨_, exchange_orderly wave.quiet here.1, here.1, here.2.1, ?_⟩
  have counts := wave.answered.length_eq
  have sent := congrArg List.length wave.sent
  have settled := here.2.2
  simp only [List.map_nil, List.append_nil, List.nil_append, List.length_map] at counts sent
  simp only
  omega

theorem stalled_orderly {es : List α} {t : Transition} {effects : List (Effect α)} {s : Scene}
    (stalled : Stalled es t effects) (here : s.At .executing false) :
    ∃ last, Orderly s effects last := by
  obtain ⟨part, left, -, wave, rfl⟩ := stalled
  exact ⟨_, (exchange_orderly wave.quiet here.1).append (.cons here.1 (.nil _))⟩

theorem remedied_proceeds {es : List α} {effects : List (Effect α)}
    {result : Option (Except Error Report)} {s : Scene} (course : Remedied es effects result)
    (here : s.At .executing false) : Proceeds s effects result [.executing] := by
  cases course with
  | disablingStalled stalled =>
    obtain ⟨last, orderly⟩ := stalled_orderly stalled here
    exact .stopped orderly
  | disablingFailed wave failed =>
    obtain ⟨last, orderly, there⟩ := wave_orderly wave here
    exact .ends orderly there List.mem_cons_self
  | deletingStalled disabled clean stalled =>
    obtain ⟨middle, first, there⟩ := wave_orderly disabled here
    obtain ⟨last, second⟩ := stalled_orderly stalled there
    exact .stopped (first.append second)
  | deleted disabled clean wave =>
    obtain ⟨middle, first, there⟩ := wave_orderly disabled here
    obtain ⟨last, second, ends⟩ := wave_orderly wave there
    exact .ends (first.append second) ends List.mem_cons_self

def finalPhases : List Phase := [.succeeded, .failed, .aborted]

-- The outcome of requests is a phase that may follow them.
theorem settled_proceeds {own : Except Error Report} {s : Scene} (here : s.At .executing false) :
    Proceeds s [(.entered (settled own) : Effect α)] (some own) finalPhases := by
  cases own with
  | ok report =>
    exact .cons (here.mayEnter rfl (by simp [settled]))
      (.ends (.nil _) (here.enter .succeeded) (by simp [finalPhases]))
  | error f =>
    exact .cons (here.mayEnter rfl (by simp [settled]))
      (.ends (.nil _) (here.enter .failed) (by simp [finalPhases]))

-- The list is fetched in the phase that the requests ended in, and the run comes to rest after it.
theorem fetched_proceeds {s : Scene} {phase : Phase} (among : phase ∈ finalPhases)
    (here : s.At phase false) (reply : Except Error (List α)) (ended : β) :
    Proceeds s [(.listed (some reply) : Effect α), .entered .idle] (some ended) [.idle] := by
  have listed : s.Allows (.listed (some reply) : Effect α) := by
    rw [Scene.Allows, here.1]
    exact among
  have rests : phase.mayFollow .idle = true := by
    simp only [finalPhases, List.mem_cons, List.not_mem_nil, or_false] at among
    rcases among with rfl | rfl | rfl <;> rfl
  refine .cons listed (.cons (here.mayEnter rests (by simp)) ?_)
  exact .ends (.nil _) (here.enter (α := α) .idle) List.mem_cons_self

theorem aborting_proceeds {s : Scene} {modal : Bool} (here : s.At .confirming modal) (ended : β) :
    Proceeds s (aborting : List (Effect α)) (some ended) [.idle] := by
  have closed := here.close (α := α)
  have aborts := closed.mayEnter (α := α) (p := .aborted) rfl (by simp)
  have aborted := closed.enter (α := α) .aborted
  have rests := aborted.mayEnter (α := α) (p := .idle) rfl (by simp)
  exact .cons here.1 (.cons aborts (.cons rests
    (.ends (.nil _) (aborted.enter .idle) List.mem_cons_self)))

variable [Entity α]

theorem offered_proceeds {p : Plan α} {refusal : Error} {effects : List (Effect α)}
    {result : Option (Except Error Report)} {s : Scene} (course : Offered p refusal effects result)
    (here : s.At .confirming false) : Proceeds s effects result finalPhases := by
  have asked : s.Allows (.asked p.remedyQuestion none : Effect α) := here.1
  -- The offer does not stay open, so the remedy can be carried out at once.
  have answered := fun yes => here.ask (α := α) p.remedyQuestion yes
  have executing := (answered true).mayEnter (α := α) (p := .executing) rfl fun _ => rfl
  have sending := (answered true).enter (α := α) .executing
  cases course with
  | unanswered => exact .stopped (.cons asked (.nil _))
  | declined =>
    have aborted := (answered false).mayEnter (α := α) (p := .aborted) rfl fun _ => rfl
    exact .cons here.1 (.cons aborted
      (.ends (.nil _) ((answered false).enter .aborted) (by simp [finalPhases])))
  | stalled remedied =>
    exact .cons here.1 (.cons executing
      (.stopped (remedied_proceeds remedied sending).choose_spec.1))
  | accepted remedied =>
    obtain ⟨last, orderly, ends⟩ := remedied_proceeds remedied sending
    obtain ⟨phase, among, there⟩ := ends (by simp)
    obtain rfl := List.mem_singleton.mp among
    exact .cons here.1 (.cons executing (.before orderly (settled_proceeds there)))

theorem submitted_proceeds {p : Plan α} {effects : List (Effect α)}
    {result : Option (Except Error Report)} {s : Scene} (course : Submitted p effects result)
    (here : s.At .executing false) : Proceeds s effects result finalPhases := by
  cases course with
  | stalled stalled =>
    obtain ⟨last, orderly⟩ := stalled_orderly stalled here
    exact .stopped orderly
  | settled wave plain =>
    obtain ⟨last, orderly, there⟩ := wave_orderly wave here
    exact .before orderly (settled_proceeds there)
  | offered wave refused failed course =>
    obtain ⟨last, orderly, there⟩ := wave_orderly wave here
    have fails := there.mayEnter (α := α) (p := .failed) rfl (by simp)
    have failing := there.enter (α := α) .failed
    have asks := failing.mayEnter (α := α) (p := .confirming) rfl (by simp)
    exact .before orderly (.cons fails (.cons asks
      (offered_proceeds course (failing.enter .confirming))))

theorem carriedOut_proceeds {i : Inventory α} {p : Plan α} {effects : List (Effect α)}
    {result : Option (Ended α)} {s : Scene} {modal : Bool} (course : CarriedOut i p effects result)
    (here : s.At .confirming modal) : Proceeds s effects result [.idle] := by
  have closed := here.close (α := α)
  have executing := closed.mayEnter (α := α) (p := .executing) rfl fun _ => rfl
  have sending := closed.enter (α := α) .executing
  -- Each way through the plan has the same two effects in front of its requests.
  have around : ∀ {rest : List (Effect α)},
      Proceeds ((s.next (.closed : Effect α)).next (.entered .executing : Effect α)) rest result
        [.idle] →
      Proceeds s (.closed :: .entered .executing :: rest) result [.idle] :=
    fun later => .cons here.1 (.cons executing later)
  have submitted : ∀ {part : List (Effect α)} {own : Except Error Report},
      Submitted p part (some own) → ∃ last phase, phase ∈ finalPhases ∧ last.At phase false ∧
        Orderly ((s.next (.closed : Effect α)).next (.entered .executing : Effect α)) part last := by
    intro part own course
    obtain ⟨last, orderly, ends⟩ := submitted_proceeds course sending
    obtain ⟨phase, among, there⟩ := ends (by simp)
    exact ⟨last, phase, among, there, orderly⟩
  cases course with
  | stalled course =>
    obtain ⟨last, orderly, -⟩ := submitted_proceeds course sending
    exact around (.stopped orderly)
  | unlisted course =>
    obtain ⟨last, phase, among, there, orderly⟩ := submitted course
    have listed : last.Allows (.listed none : Effect α) := by
      rw [Scene.Allows, there.1]
      exact among
    exact around (.stopped (orderly.append (.cons listed (.nil _))))
  | refreshed course fresh =>
    obtain ⟨last, phase, among, there, orderly⟩ := submitted course
    exact around (.before orderly (fetched_proceeds among there _ _))
  | unrefreshed course f =>
    obtain ⟨last, phase, among, there, orderly⟩ := submitted course
    exact around (.before orderly (fetched_proceeds among there _ _))

theorem confirmed_proceeds {i : Inventory α} {p : Plan α} {effects : List (Effect α)}
    {result : Option (Ended α)} {s : Scene} (course : Confirmed i p effects result)
    (here : s.At .confirming false) : Proceeds s effects result [.idle] := by
  have answered := fun yes => here.ask (α := α) p.question yes
  have confirms := (answered true).mayEnter (α := α) (p := .confirming) rfl (by simp)
  have again := (answered true).enter (α := α) .confirming
  -- Every way but the last waits in this phase or is aborted; the last goes on to the requests.
  cases course with
  | unanswered => exact .stopped (.cons here.1 (.nil _))
  | declined => exact .cons here.1 (aborting_proceeds (answered false) _)
  | unnoticed noop => exact .stopped (.cons here.1 (.cons here.1 (.nil _)))
  | noticed noop yes =>
    exact .cons here.1 (.cons here.1 (aborting_proceeds ((answered true).ask p.notice yes) _))
  | partlyUnanswered isPartial =>
    exact .stopped (.cons here.1 (.cons confirms (.cons rfl (.nil _))))
  | partlyDeclined isPartial =>
    exact .cons here.1 (.cons confirms (.cons rfl
      (aborting_proceeds (again.ask p.partialQuestion false) _)))
  | agreed needed course =>
    unfold agreement
    split
    · exact .cons here.1 (.cons confirms (.cons rfl
        (carriedOut_proceeds course (again.ask p.partialQuestion true))))
    · exact .cons here.1 (carriedOut_proceeds course (answered true))

theorem course_proceeds {supports : Transition → Bool} {i : Inventory α} {t : Transition}
    {effects : List (Effect α)} {result : Option (Ended α)}
    (course : Course supports i t effects result) : Proceeds .opening effects result [.idle] := by
  have here : Scene.opening.At .idle false := ⟨rfl, rfl, rfl⟩
  cases course with
  | nothingSelected empty => exact .ends (.nil _) here List.mem_cons_self
  | unsupported selected unknown => exact .ends (.nil _) here List.mem_cons_self
  | confirmed selected known course =>
    exact .cons (here.mayEnter rfl (by simp)) (confirmed_proceeds course (here.enter .confirming))

/-- What the phases of a run promise. `last` is the phase in which the session is left. -/
structure PhaseOrder (effects : List (Effect α)) (result : Option (Ended α)) (last : Phase) :
    Prop where
  /-- Each change of phase is an allowed one. -/
  allowed : ∀ before p rest, effects = before ++ .entered p :: rest →
    (Scene.after before).phase.mayFollow p = true
  /-- Requests are sent while executing, -/
  sending : ∀ before e t rest, effects = before ++ .sent e t :: rest →
    (Scene.after before).phase = .executing
  /-- modals are opened while confirming, -/
  asking : ∀ before m answer rest, effects = before ++ .asked m answer :: rest →
    (Scene.after before).phase = .confirming
  /-- and the list is fetched when the batch succeeded, failed or was aborted. -/
  fetching : ∀ before reply rest, effects = before ++ .listed reply :: rest →
    (Scene.after before).phase ∈ [Phase.succeeded, .failed, .aborted]
  /-- A session is left in the phase that the record shows. -/
  shown : last = (Scene.after effects).phase
  /-- A run that returns is at rest, whatever its result. -/
  rests : result ≠ none → last = .idle
  /-- As long as a request is under way the batch is loading. -/
  loading : ∀ before rest, effects = before ++ rest →
    (answers before).length < (sends before).length → (Scene.after before).phase.isLoading = true
  /-- It is not while a modal is open, the list is fetched, or after its return. -/
  unloading : ∀ before rest, effects = before ++ rest → (Scene.after before).modal = true →
    (Scene.after before).phase.isLoading = false
  refreshing : ∀ before reply rest, effects = before ++ .listed reply :: rest →
    (Scene.after before).phase.isLoading = false
  returned : result ≠ none → last.isLoading = false

omit [Entity α] in
theorem orderly_phases {effects : List (Effect α)} {result : Option (Ended α)} {last : Phase}
    (proceeds : Proceeds .opening effects result [.idle])
    (shown : last = (Scene.after effects).phase) : PhaseOrder effects result last := by
  obtain ⟨final, orderly, ends⟩ := proceeds
  -- The law of the scenes holds after each part of the record, and the rest is read off the scenes.
  have sound : ∀ before rest, effects = before ++ rest → (Scene.after before).Sound := by
    rintro before rest rfl
    exact orderly_sound (by simp [Scene.Sound, Scene.opening, Scene.Loaded]) orderly.split.2
  have rests : result ≠ none → last = .idle := by
    intro returned
    obtain ⟨phase, among, here⟩ := ends returned
    obtain rfl := List.mem_singleton.mp among
    rw [shown, Scene.after, ← orderly.scene]
    exact here.1
  have fetching : ∀ before reply rest, effects = before ++ .listed reply :: rest →
      (Scene.after before).phase ∈ [Phase.succeeded, .failed, .aborted] := by
    rintro before reply rest rfl
    exact orderly.allowed
  constructor
  case allowed =>
    rintro before p rest rfl
    exact orderly.allowed.1
  case sending =>
    rintro before e t rest rfl
    exact orderly.allowed
  case asking =>
    rintro before m answer rest rfl
    exact orderly.allowed
  case fetching => exact fetching
  case shown => exact shown
  case rests => exact rests
  case loading =>
    intro before rest split fewer
    have loaded : (Scene.after before).Loaded := by
      obtain ⟨sent, answered⟩ := counted before .opening
      simp only [Scene.opening, Nat.zero_add] at sent answered
      rw [Scene.Loaded, Scene.after, Scene.opening, sent, answered]
      exact fewer
    rw [(sound before rest split).1 loaded]
    rfl
  case unloading =>
    intro before rest split shown
    have other := (sound before rest split).2 shown
    cases phase : (Scene.after before).phase <;> simp_all [Phase.isLoading]
  case refreshing =>
    intro before reply rest split
    have among := fetching before reply rest split
    simp only [List.mem_cons, List.not_mem_nil, or_false] at among
    rcases among with phase | phase | phase <;> rw [phase] <;> rfl
  case returned =>
    intro returned
    rw [rests returned]
    rfl

/-- Whatever phase was left behind, and whatever the operator and the server answer and in whatever
order requests finish, a run keeps to the order of the phases and returns to rest. -/
theorem run_phase_order (env : Environment α σ) (supports : Transition → Bool) (s : Session α)
    (t : Transition) (w : σ) :
    PhaseOrder (s.running env supports t w).effects (s.running env supports t w).result
      (s.perform env supports w (.run t)).2.1.phase := by
  refine orderly_phases (course_proceeds (running_course env supports s t w)) ?_
  have left : (s.perform env supports w (.run t)).2.1.phase =
      (s.running env supports t w).phase := by
    unfold Session.perform Session.afterPlay
    cases result : (s.running env supports t w).result with
    | none => simp [result]
    | some ended =>
      obtain ⟨x, j⟩ := ended
      cases x <;> simp [result]
  rw [left]
  exact play_phase env (run supports s.inventory t) .opening w

end ExtensionAdmin.Batch
