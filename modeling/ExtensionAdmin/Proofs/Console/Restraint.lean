import ExtensionAdmin.Console.Program
import ExtensionAdmin.Proofs.Batch.Consent
import ExtensionAdmin.Proofs.Batch.Ending
import ExtensionAdmin.Proofs.Batch.RequestWaves
import ExtensionAdmin.Proofs.Batch.Selection
import ExtensionAdmin.Proofs.Console.CommandLine
import ExtensionAdmin.Proofs.Http.Client
import ExtensionAdmin.Proofs.Service.Recording

/-! The program touches only what was named and approved. A command fetches the list once before
anything else, looks its targets up there, and runs its change on them. So a request that changes
something is for an entity that was named, and it comes after the answer yes to the first question;
and the first question is answered by the first line of the input, unless the command answers all of
them itself. The requests are those that a network writes down over which the command is carried
out. -/

namespace ExtensionAdmin.Console

open Batch (Course Dialogue Effect Environment Inventory Modal Names Plan Transition questions)
open Http (Client Network Request)
open Service (Endpoint)

variable {α σ : Type}

/-- Questions are answered by a terminal, and nothing else makes a difference to it. -/
structure AtTerminal (env : Environment α (Terminal × σ)) : Prop where
  ask : ∀ m w, env.ask m w = (some (w.1.ask m).1, ((w.1.ask m).2, w.2))
  close : ∀ w, (env.close w).1 = w.1
  send : ∀ e t w, (env.send e t w).2.1 = w.1
  await : ∀ underWay t w, (env.await underWay t w).2.1 = w.1
  list : ∀ w, (env.list w).2.1 = w.1

theorem askAll_cons (t : Terminal) (m : Modal) (ms : List Modal) :
    (t.askAll (m :: ms)).1 = (t.ask m).1 :: ((t.ask m).2.askAll ms).1 := rfl

/-- What a dialogue asks is answered by the terminal, one question after the other. -/
theorem played_answers {β : Type} {env : Environment α (Terminal × σ)} (terminal : AtTerminal env)
    (d : Dialogue α β) (phase : Batch.Phase) (w : Terminal × σ) :
    (questions (d.play env phase w).effects).map Prod.snd =
      (w.1.askAll ((questions (d.play env phase w).effects).map Prod.fst)).1.map some := by
  -- Whatever else is done leaves the terminal as it is, so a question finds it as the last one
  -- left it.
  induction d generalizing phase w with
  | done x => rfl
  | enter p next ih => simpa [Dialogue.play, Batch.Played.after] using ih p w
  | ask m next ih =>
    simpa [Dialogue.play, Batch.Played.after, terminal.ask, Terminal.askAll]
      using ih (w.1.ask m).1 phase ((w.1.ask m).2, w.2)
  | close next ih =>
    simpa [Dialogue.play, Batch.Played.after, terminal.close] using ih phase (env.close w)
  | send e t next ih =>
    rcases reply : env.send e t w with ⟨v, after⟩
    have kept : after.1 = w.1 := by simpa [reply] using terminal.send e t w
    cases v with
    | none => simpa [Dialogue.play, Batch.Played.after, reply, kept] using ih none phase after
    | some v => simpa [Dialogue.play, Batch.Played.after, reply, kept] using ih (some v) phase after
  | await underWay t next ih =>
    rcases reply : env.await underWay t w with ⟨arrived, after⟩
    have kept : after.1 = w.1 := by simpa [reply] using terminal.await underWay t w
    cases arrived with
    | none => simp [Dialogue.play, reply, Terminal.askAll]
    | some a => simpa [Dialogue.play, Batch.Played.after, reply, kept] using ih a.1 a.2 phase after
  | list next ih =>
    rcases reply : env.list w with ⟨r, after⟩
    have kept : after.1 = w.1 := by simpa [reply] using terminal.list w
    cases r with
    | none => simp [Dialogue.play, reply, Terminal.askAll]
    | some r => simpa [Dialogue.play, Batch.Played.after, reply, kept] using ih r phase after

def operated (ep : Endpoint α) (c : Client) (net : Network σ) : Environment α (Terminal × σ) :=
  ep.environment c net (fun m t => (some (t.ask m).1, (t.ask m).2)) id

theorem operated_terminal (ep : Endpoint α) (c : Client) (net : Network σ) :
    AtTerminal (operated ep c net) := by
  constructor <;> intros <;> rfl

def Affirmative (line : List UInt8) : Prop :=
  ∃ text, decode? line = some text ∧ (Text.sameIgnoringCase (Text.trimmed text) "y" ∨
    Text.sameIgnoringCase (Text.trimmed text) "yes")

theorem affirmative_of_accepts {m : Modal} {line : List UInt8} (label : m.accept = some "Yes")
    (accepted : accepts m line) : line ≠ [] ∧ Affirmative line := by
  unfold accepts at accepted
  split at accepted
  · cases accepted
  · cases accepted
  next bytes text nonempty decoded =>
    -- The label of a change is `Yes`, which is no other word once its case is ignored.
    have same : Text.lowered "Yes".toList = Text.lowered "yes".toList := by decide
    simp only [isAffirmative, acceptLabel, label, Option.getD_some, List.any_cons, List.any_nil,
      Text.sameIgnoringCase, same, Bool.or_false, Bool.or_self, Bool.or_eq_true] at accepted
    exact ⟨nonempty, text, decoded, accepted⟩

theorem transition?_eq_some {verb : Verb} (scopes : List String) (changes : verb ≠ .list) :
    ∃ t, verb.transition? scopes = some t := by
  cases verb with
  | list => exact absurd rfl changes
  | _ => exact ⟨_, rfl⟩

/-- The first question of a change is accepted on the terminal's word, or on that of the first
line. -/
theorem approved_of_ask {title body : String} {t : Terminal}
    (yes : (t.ask (.question title body)).1 = true) :
    t.assumeYes = true ∨ t.input ≠ [] ∧ Affirmative (splitLine t.input).1 := by
  cases assumed : t.assumeYes with
  | true => exact Or.inl rfl
  | false =>
    have accepted : accepts (.question title body) (splitLine t.input).1 = true := by
      simpa [Terminal.ask, Terminal.say, Modal.isQuestion, Modal.question, assumed,
        apply_ite Terminal.input, apply_ite Terminal.assumeYes] using yes
    obtain ⟨nonempty, affirmative⟩ := affirmative_of_accepts rfl accepted
    refine Or.inr ⟨?_, affirmative⟩
    intro empty
    rw [empty] at nonempty
    exact nonempty rfl

theorem change_of_sends {es : List α} {t u : Transition} {effects : List (Effect α)} {e : α}
    (whole : Batch.sends effects = es.map fun e => (e, t)) (sent : .sent e u ∈ effects) :
    u = t := by
  have request := (Batch.mem_sends effects e u).mpr sent
  rw [whole, List.mem_map] at request
  obtain ⟨e, -, same⟩ := request
  cases same
  rfl

/-- What a course sends is for selected entities, and is the change itself or, if that deletes, the
disabling before it. -/
theorem course_sent [Entity α] {supports : Transition → Bool} {i : Inventory α} {t u : Transition}
    {effects : List (Effect α)} {result : Option (Batch.Ended α)} {e : α}
    (course : Course supports i t effects result) (sent : .sent e u ∈ effects) :
    e ∈ i.selected ∧ (u = t ∨ t = .delete ∧ u = .disable) := by
  obtain ⟨first, second, third, waves⟩ := Batch.course_waves course
  refine ⟨List.mem_of_mem_filter (waves.sends_subset sent), ?_⟩
  rcases waves.sent_cases sent with member | member | member
  · exact Or.inl (change_of_sends (waves.first_issued (List.ne_nil_of_mem member)).1 member)
  · have exists_second := List.ne_nil_of_mem member
    exact Or.inr ⟨(waves.second_exists.mp exists_second).1,
      change_of_sends (waves.second_issued exists_second).2.1 member⟩
  · have exists_third := List.ne_nil_of_mem member
    have deletes := (waves.second_exists.mp (waves.third_exists.mp exists_third).1).1
    exact Or.inl (deletes ▸ change_of_sends (waves.third_issued exists_third).2.1 member)

section Commands

variable [Tabular α] {supports : Transition → Bool} {targets : Targets} {t : Transition}
  {i j : Inventory α}

def acting (supports : Transition → Bool) (targets : Targets) (t : Transition) (i : Inventory α) :
    Dialogue α (Except Error String) :=
  match chosen i targets with
  | .error e => .done (.error e)
  | .ok i => do
    match ← Batch.run supports i t with
    | (.error e, _) => return .error e
    | (.ok outcome, i) => return .ok (summary t i outcome)

theorem listing_eq : listing = (.list fun
    | .error e => .done (.error e)
    | .ok fresh => .done (.ok (table fresh ++ "\n")) : Dialogue α (Except Error String)) := by
  refine congrArg Dialogue.list (funext fun r => ?_)
  cases r with
  | error e => rfl
  | ok fresh => rfl

/-- A change begins with a listing, and goes on with what was listed. -/
theorem changing_eq : changing supports targets t = (.list fun
    | .error e => .done (.error e)
    | .ok fresh => acting supports targets t (Inventory.empty.replace fresh) :
      Dialogue α (Except Error String)) := by
  refine congrArg Dialogue.list (funext fun r => ?_)
  cases r with
  | error e => rfl
  | ok fresh => rfl

theorem chosen_named (found : chosen i targets = .ok j) {e : α} (member : e ∈ j.selected) :
    e ∈ i.entities ∧ (targets.all = false → ∃ ident ∈ targets.ids, Names ident e) := by
  unfold chosen at found
  split at found
  · next all =>
    cases found
    exact ⟨member, fun some => by simp [some] at all⟩
  · obtain ⟨selected, collected, rfl⟩ := Batch.select_eq_ok.mp found
    rcases Batch.collect_named collected member with none | ⟨listed, named⟩
    · cases none
    · exact ⟨listed, fun _ => named⟩

theorem chosen_unknown (some : targets.all = false) {unknown : String}
    (member : unknown ∈ targets.ids) (absent : ∀ e ∈ i.entities, ¬ Names unknown e) :
    ∃ before ident after, targets.ids = before ++ ident :: after ∧
      (∀ known ∈ before, ∃ e ∈ i.entities, Names known e) ∧
      (∀ e ∈ i.entities, ¬ Names ident e) ∧
      chosen i targets = .error (.notFound s!"{(Entity.kind α).singular} '{ident}'") := by
  obtain ⟨before, ident, after, split, known, none, failed⟩ :=
    Batch.collect_unknown [] member (Batch.find?_eq_none_iff.mpr absent)
  refine ⟨before, ident, after, split, ?_, Batch.find?_eq_none_iff.mp none, ?_⟩
  · intro other among
    have found := known other among
    rw [ne_eq, Batch.find?_eq_none_iff] at found
    simpa using found
  · rw [chosen, if_neg (by simp [some]), Inventory.select, failed]
    rfl

theorem acting_unfolds {effects : List (Effect α)} {result : Option (Except Error String)}
    (unfolds : (acting supports targets t i).Unfolds effects result) :
    (∃ f, chosen i targets = .error f ∧ effects = [] ∧ result = some (.error f)) ∨
      ∃ j ended, chosen i targets = .ok j ∧ Course supports j t effects ended := by
  unfold acting at unfolds
  split at unfolds
  next f failed => exact Or.inl ⟨f, failed, unfolds⟩
  next j found =>
    refine Or.inr ⟨j, ?_⟩
    rcases Batch.unfolds_bind _ _ _ _ unfolds with
      ⟨stopped, -⟩ | ⟨first, ended, rest, rfl, runs, ends⟩
    · exact ⟨none, found, Batch.run_course _ _ _ _ _ stopped⟩
    · have quiet : rest = [] := by
        rcases ended with ⟨f | outcome, last⟩ <;> exact ends.1
      rw [quiet, List.append_nil]
      exact ⟨some ended, found, Batch.run_course _ _ _ _ _ runs⟩

end Commands

section CarriedOut

variable [Tabular α] (ep : Endpoint α) (c : Client) (net : Network σ) (t : Terminal) (w : σ)

def conversation (action : Action) : Batch.Played α (Except Error String) (Terminal × σ) :=
  (dialogue ep.supports action).play (operated ep c net) .idle (t, w)

/-- Over a network that writes down what is sent, a command ends as before. -/
theorem carryOut_recorded (action : Action) :
    carryOut ep c net.recording t ([], w) action = ((carryOut ep c net t w action).1,
      ((conversation ep c net t w action).effects.flatMap (ep.requests c),
        (carryOut ep c net t w action).2)) := by
  simp only [carryOut, conversation, operated, ep.recorded_play c net, List.nil_append]
  split <;> simp [*]

theorem carryOut_error {action : Action} {f : Error}
    (failed : (conversation ep c net t w action).result = some (.error f)) :
    (carryOut ep c net t w action).1.status = 1 ∧
      (carryOut ep c net t w action).1.error = some f := by
  have same : ((dialogue ep.supports action).play (ep.environment c net (fun m t =>
      (some (t.ask m).1, (t.ask m).2)) id) .idle (t, w)).result = some (.error f) := failed
  simp [carryOut, same]

theorem listing_played :
    (conversation ep c net t w .list).effects = [.listed (ep.list c net w).1] := by
  rcases reply : ep.list c net w with ⟨_ | _ | es, after⟩ <;>
    simp [conversation, dialogue, listing_eq, Dialogue.play, operated, Endpoint.environment, reply,
      Batch.Played.after]

/-- A change goes on with what was listed, or stops there. -/
theorem changing_played {verb : Verb} {targets : Targets} {scopes : List String}
    {change : Transition} (changes : verb.transition? scopes = some change) :
    (∃ es, (ep.list c net w).1 = some (.ok es) ∧
      conversation ep c net t w (.change verb targets scopes) =
        ((acting ep.supports targets change (Inventory.empty.replace es)).play (operated ep c net)
          .idle (t, (ep.list c net w).2)).after (.listed (some (.ok es)))) ∨
    (∀ es, (ep.list c net w).1 ≠ some (.ok es)) ∧
      (conversation ep c net t w (.change verb targets scopes)).effects =
        [.listed (ep.list c net w).1] := by
  have goes : dialogue ep.supports (.change verb targets scopes) =
      changing (α := α) ep.supports targets change := by rw [dialogue, changes]
  rw [conversation, goes, changing_eq]
  rcases reply : ep.list c net w with ⟨_ | _ | es, after⟩
  case ok => exact Or.inl ⟨es, rfl, by simp [Dialogue.play, operated, Endpoint.environment, reply]⟩
  all_goals
    refine Or.inr ⟨by simp, ?_⟩
    simp [Dialogue.play, operated, Endpoint.environment, reply, Batch.Played.after]

/-- What is sent in a change is for a listed entity that was named, and the operator approved it. -/
theorem acting_sent {targets : Targets} {change u : Transition} {i : Inventory α}
    {phase : Batch.Phase} {e : α} (sent : .sent e u ∈ ((acting ep.supports targets change i).play
      (operated ep c net) phase (t, w)).effects) :
    e ∈ i.entities ∧ (u = change ∨ change = .delete ∧ u = .disable) ∧
      (targets.all = false → ∃ ident ∈ targets.ids, Names ident e) ∧
      (t.assumeYes = true ∨ t.input ≠ [] ∧ Affirmative (splitLine t.input).1) := by
  have answers := played_answers (operated_terminal ep c net)
    (acting ep.supports targets change i) phase (t, w)
  rcases acting_unfolds (Batch.play_unfolds (operated ep c net) _ phase (t, w)) with
    ⟨f, -, empty, -⟩ | ⟨j, ended, found, course⟩
  · rw [empty] at sent
    cases sent
  -- It was selected, so it was named; and what sends anything asked its first question before.
  obtain ⟨selected, changes⟩ := course_sent course sent
  obtain ⟨listed, named⟩ := chosen_named found selected
  refine ⟨listed, changes, named, ?_⟩
  rcases Batch.course_asks course with silent | ⟨rest, opening⟩
  · have member := (Batch.mem_sends _ _ _).mpr sent
    rw [silent] at member
    cases member
  · have first : (questions (Effect.entered .confirming ::
        .asked (Plan.ofSelection j.selected change).question (some true) :: rest)) =
        ((Plan.ofSelection j.selected change).question, some true) :: questions rest := rfl
    rw [opening, first, List.map_cons, List.map_cons, askAll_cons, List.map_cons] at answers
    exact approved_of_ask (Option.some.inj (List.cons.inj answers).1).symm

end CarriedOut

/-- A request that does not only look goes out with an effect that sends one. -/
theorem sent_of_request {ep : Endpoint α} {c : Client}
    (looks : ∀ r, ep.listRequest c = .ok r → r.method = .get) {effects : List (Effect α)}
    {r : Request} (member : r ∈ effects.flatMap (ep.requests c)) (changes : r.method ≠ .get) :
    ∃ e u, .sent e u ∈ effects ∧ ep.changeRequest c e u = .ok r := by
  obtain ⟨x, among, out⟩ := List.mem_flatMap.mp member
  cases x with
  | sent e u => exact ⟨e, u, among, Fallible.mem_toOption.mp out⟩
  | listed result => exact absurd (looks r (Fallible.mem_toOption.mp out)) changes
  | entered | asked | closed | finished | stalled => simp [Endpoint.requests] at out

/-- What a command with some input has to do with the requests that it sends and with how it ends,
given the list that it fetched. -/
structure Restrained [Entity α] (ep : Endpoint α) (c : Client) (input : List UInt8)
    (command : Invocation) (fetched : Option (Except Error (List α))) (log : List Request)
    (ending : Ending) : Prop where
  /-- The list is asked for before anything else. -/
  listed : ∃ later, log = (ep.listRequest c).toOption.toList ++ later
  /-- What changes something was asked for and approved. -/
  approved : ∀ r ∈ log, r.method ≠ .get → command.action ≠ .list ∧
    (command.yes = true ∨ Affirmative (splitLine input).1)
  /-- It is the request of the change for a listed entity that was named. -/
  named : ∀ r ∈ log, r.method ≠ .get → ∃ verb targets scopes change u es e,
    command.action = .change verb targets scopes ∧ verb.transition? scopes = some change ∧
    fetched = some (.ok es) ∧ e ∈ es ∧ ep.changeRequest c e u = .ok r ∧
    (u = change ∨ change = .delete ∧ u = .disable) ∧
    (targets.all = false → ∃ ident ∈ targets.ids, Names ident e)
  /-- If one identifier names nothing, nothing is changed, and the first such one is reported. -/
  unknown : ∀ verb targets scopes es unknown, command.action = .change verb targets scopes →
    fetched = some (.ok es) → unknown ∈ targets.ids → (∀ e ∈ es, ¬ Names unknown e) →
    (∀ r ∈ log, r.method = .get) ∧ ending.status = 1 ∧
    ∃ before ident after, targets.ids = before ++ ident :: after ∧
      (∀ known ∈ before, ∃ e ∈ es, Names known e) ∧ (∀ e ∈ es, ¬ Names ident e) ∧
      ending.error = some (.notFound s!"{(Entity.kind α).singular} '{ident}'")
  /-- Without any input nothing is changed unless the command says yes itself. -/
  silent : command.yes = false → input = [] → ∀ r ∈ log, r.method = .get

section Restrained

variable [Tabular α] {ep : Endpoint α} {c : Client} (net : Network σ) (w : σ)
  {command : Invocation} {input : List UInt8}

/-- What changes something in a command was asked for, named and approved. -/
theorem conversation_sent (definite : command.Definite) {e : α} {u : Transition}
    (sent : .sent e u ∈ (conversation ep c net ⟨command.yes, false, input, ""⟩ w
      command.action).effects) :
    ∃ verb targets scopes change es, command.action = .change verb targets scopes ∧
      verb.transition? scopes = some change ∧ (ep.list c net w).1 = some (.ok es) ∧ e ∈ es ∧
      (u = change ∨ change = .delete ∧ u = .disable) ∧
      (targets.all = false → ∃ ident ∈ targets.ids, Names ident e) ∧
      (command.yes = true ∨ input ≠ [] ∧ Affirmative (splitLine input).1) := by
  cases asks : command.action with
  | list =>
    rw [asks, listing_played] at sent
    simp at sent
  | change verb targets scopes =>
    obtain ⟨change, changes⟩ := transition?_eq_some scopes (definite verb targets scopes asks).1
    rcases changing_played ep c net ⟨command.yes, false, input, ""⟩ w changes with
      ⟨es, fetched, played⟩ | ⟨-, only⟩
    · rw [asks, played] at sent
      obtain ⟨listed, kind, named, approved⟩ :=
        acting_sent ep c net _ _ (by simpa [Batch.Played.after] using sent)
      exact ⟨verb, targets, scopes, change, es, rfl, changes, fetched, listed, kind, named,
        approved⟩
    · rw [asks, only] at sent
      simp at sent

theorem conversation_listed (definite : command.Definite) (t : Terminal) :
    ∃ x rest, (conversation ep c net t w command.action).effects = .listed x :: rest := by
  cases asks : command.action with
  | list => exact ⟨_, [], listing_played ep c net t w⟩
  | change verb targets scopes =>
    obtain ⟨change, changes⟩ := transition?_eq_some scopes (definite verb targets scopes asks).1
    rcases changing_played ep c net t w changes with ⟨es, -, played⟩ | ⟨-, only⟩
    · exact ⟨some (.ok es), _, by rw [played]; rfl⟩
    · exact ⟨_, [], only⟩

/-- A command that names something which is not listed ends with that. -/
theorem conversation_unknown (definite : command.Definite) {verb : Verb} {targets : Targets}
    {scopes : List String} (asks : command.action = .change verb targets scopes) {es : List α}
    (fetched : (ep.list c net w).1 = some (.ok es)) {unknown : String}
    (member : unknown ∈ targets.ids) (absent : ∀ e ∈ es, ¬ Names unknown e) (t : Terminal) :
    (conversation ep c net t w command.action).effects = [.listed (some (.ok es))] ∧
    ∃ before ident after, targets.ids = before ++ ident :: after ∧
      (∀ known ∈ before, ∃ e ∈ es, Names known e) ∧ (∀ e ∈ es, ¬ Names ident e) ∧
      (conversation ep c net t w command.action).result =
        some (.error (.notFound s!"{(Entity.kind α).singular} '{ident}'")) := by
  obtain ⟨known, all⟩ := definite verb targets scopes asks
  obtain ⟨change, changes⟩ := transition?_eq_some scopes known
  have some_named : targets.all = false := by
    cases named : targets.all with
    | false => rfl
    | true =>
      rw [all named] at member
      cases member
  obtain ⟨before, ident, after, split, earlier, first, failed⟩ :=
    chosen_unknown (i := Inventory.empty.replace es) some_named member absent
  rcases changing_played ep c net t w changes with ⟨others, same, played⟩ | ⟨unlisted, -⟩
  · cases fetched.symm.trans same
    rw [asks, played, acting, failed]
    exact ⟨rfl, before, ident, after, split, earlier, first, rfl⟩
  · exact absurd fetched (unlisted es)

theorem carryOut_restrained (definite : command.Definite)
    (looks : ∀ r, ep.listRequest c = .ok r → r.method = .get) :
    Restrained ep c input command (ep.list c net w).1
      ((conversation ep c net ⟨command.yes, false, input, ""⟩ w command.action).effects.flatMap
        (ep.requests c))
      (carryOut ep c net ⟨command.yes, false, input, ""⟩ w command.action).1 := by
  constructor
  case listed =>
    obtain ⟨x, rest, begins⟩ : ∃ x rest,
        (conversation ep c net ⟨command.yes, false, input, ""⟩ w command.action).effects =
          .listed x :: rest := conversation_listed net w definite _
    rw [begins, List.flatMap_cons]
    exact ⟨_, rfl⟩
  case approved =>
    intro r member changes
    obtain ⟨e, u, sent, -⟩ := sent_of_request looks member changes
    obtain ⟨verb, targets, scopes, -, -, asks, -, -, -, -, -, approved⟩ :=
      conversation_sent net w definite sent
    exact ⟨by simp [asks], approved.imp_right And.right⟩
  case named =>
    intro r member changes
    obtain ⟨e, u, sent, built⟩ := sent_of_request looks member changes
    obtain ⟨verb, targets, scopes, change, es, asks, found, fetched, listed, kind, named, -⟩ :=
      conversation_sent net w definite sent
    exact ⟨verb, targets, scopes, change, u, es, e, asks, found, fetched, listed, built, kind,
      named⟩
  -- The change stops at the lookup, and the listing is all that was asked of the server.
  case unknown =>
    intro verb targets scopes es unknown asks fetched member absent
    obtain ⟨only, before, ident, after, split, earlier, first, failed⟩ :=
      conversation_unknown net w definite asks fetched member absent
        ⟨command.yes, false, input, ""⟩
    obtain ⟨status, error⟩ := carryOut_error ep c net _ w failed
    refine ⟨?_, status, before, ident, after, split, earlier, first, error⟩
    intro r out
    by_contra changes
    obtain ⟨e, u, sent, -⟩ := sent_of_request looks out changes
    rw [only] at sent
    simp at sent
  case silent =>
    intro no empty r member
    by_contra changes
    obtain ⟨e, u, sent, -⟩ := sent_of_request looks member changes
    obtain ⟨-, -, -, -, -, -, -, -, -, -, -, yes | ⟨nonempty, -⟩⟩ :=
      conversation_sent net w definite sent
    · simp [no] at yes
    · exact nonempty empty

end Restrained

theorem services_looked_up {c : Client} (r : Request)
    (built : Service.ApiExtensions.endpoint.listRequest c = .ok r) : r.method = .get := by
  simp only [Service.ApiExtensions.endpoint, Client.bare] at built
  exact (Client.request_ok built).1

theorem plugins_looked_up {c : Client} (r : Request)
    (built : Service.UiPlugins.endpoint.listRequest c = .ok r) : r.method = .get := by
  simp only [Service.UiPlugins.endpoint, Client.bare] at built
  exact (Client.request_ok built).1

/-- The program touches only what was named and approved. Whatever the settings, the server and
the input are, a command that was read ends over a network that writes down its requests as it does
without; it sends nothing without a client, and with one it is restrained. -/
theorem command_restrained {words : List String} {env : Option String} {command : Invocation}
    (parsed : parseCommand words env = .ok command) (net : Network σ) (w : σ)
    (input : List UInt8) (settings : Except ConfigFault Settings) :
    let recorded := runCommand net.recording ([], w) input settings command
    (recorded.1, recorded.2.2) = runCommand net w input settings command ∧
    match settings.bind Client.ofSettings with
    | .error _ => recorded.2.1 = []
    | .ok c =>
      match command.kind with
      | .apiExtension => Restrained Service.ApiExtensions.endpoint c input command
          (Service.ApiExtensions.endpoint.list c net w).1 recorded.2.1 recorded.1
      | .uiPlugin => Restrained Service.UiPlugins.endpoint c input command
          (Service.UiPlugins.endpoint.list c net w).1 recorded.2.1 recorded.1 := by
  have definite := parseCommand_definite parsed
  simp only [runCommand]
  cases reached : settings.bind Client.ofSettings with
  | error f => simp
  | ok c =>
    cases command.kind with
    | apiExtension =>
      simp only [carryOut_recorded]
      exact ⟨trivial, carryOut_restrained net w definite services_looked_up⟩
    | uiPlugin =>
      simp only [carryOut_recorded]
      exact ⟨trivial, carryOut_restrained net w definite plugins_looked_up⟩

def ghostDeletion : Invocation := ⟨none, false, .uiPlugin, .change .delete ⟨["ghost"], false⟩ []⟩

def emptySettings : Settings := ⟨"http://h", "37.0", "t", 30⟩

def emptyClient : Client := ⟨⟨.http, "", "", .domain "h", none, "/", none, none⟩, "37.0", "t"⟩

def emptyServer : Network Unit where
  send r w := (if r.method = .get then some (.ok ⟨200, "[]"⟩) else none, w)
  await _ w := (none, w)

theorem emptySettings_client :
    (Except.ok emptySettings).bind Client.ofSettings = .ok emptyClient := by
  rfl

theorem ghostDeletion_restrained :
    parseCommand ["plugins", "delete", "ghost"] none = .ok ghostDeletion ∧
    (let recorded :=
      runCommand emptyServer.recording ([], ()) [] (.ok emptySettings) ghostDeletion
    Restrained Service.UiPlugins.endpoint emptyClient [] ghostDeletion
      (Service.UiPlugins.endpoint.list emptyClient emptyServer ()).1 recorded.2.1 recorded.1) := by
  have parsed : parseCommand ["plugins", "delete", "ghost"] none = .ok ghostDeletion := by rfl
  have whole := (command_restrained parsed emptyServer () [] (.ok emptySettings)).2
  simp only [emptySettings_client] at whole
  exact ⟨parsed, whole⟩

example : (runCommand emptyServer () [] (.ok emptySettings) ghostDeletion).1 =
    ⟨1, "", some (.notFound "UI Plugin 'ghost'")⟩ := by
  decide

end ExtensionAdmin.Console
