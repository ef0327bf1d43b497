import ExtensionAdmin.Proofs.Batch.Refresh

/-! What the order in which requests finish decides. Let everything but that order be settled before
a run: the answer to each question, what each request of each wave comes to, and the list. Then all
that can be observed of the run is foreseen but for one thing: a deletion that is refused for some
entities and fails for others offers the remedy if a refusal is observed first, and does not if
another error is. Two runs that agree in this agree in everything, up to which of the errors of
their last wave is the one reported. -/

namespace ExtensionAdmin.Batch

variable {α σ τ : Type}

/-- What is settled before a run. Waves are counted from zero. -/
structure World (α : Type) where
  answer : Modal → Bool
  verdict : Nat → α → Transition → Verdict
  list : Except Error (List α)

def Effect.isStall : Effect α → Bool
  | .stalled _ _ => true
  | _ => false

structure World.Governs (world : World α) (effects : List (Effect α)) : Prop where
  answered : ∀ q ∈ questions effects, q.2 = some (world.answer q.1)
  settled : ∀ x ∈ (waves effects).zipIdx, ∀ a ∈ answers x.1, a.2 = world.verdict x.2 a.1.1 a.1.2
  listed : ∀ reply ∈ fetches effects, reply = some world.list
  unstalled : ∀ x ∈ effects, x.isStall = false

namespace World

def requests (es : List α) (t : Transition) : List (α × Transition) := es.map fun e => (e, t)

def errors (world : World α) (n : Nat) (es : List α) (t : Transition) : List Error :=
  es.filterMap fun e => (world.verdict n e t).error?

theorem governed_returns {world : World α} {effects : List (Effect α)}
    (governed : world.Governs effects) : ¬ Waits effects := by
  rintro ⟨x, last, unanswered⟩
  have member := List.mem_of_getLast? last
  cases x with
  | asked m answer =>
    cases answer with
    | none =>
      have question : (m, none) ∈ questions effects :=
        List.mem_filterMap.mpr ⟨_, member, rfl⟩
      cases governed.answered _ question
    | some yes => cases unanswered
  | stalled left t => cases governed.unstalled _ member
  | listed reply =>
    cases reply with
    | none => cases governed.listed none ((mem_fetches effects none).mpr member)
    | some list => cases unanswered
  | _ => cases unanswered

theorem answer_eq {world : World α} {asked : List (Modal × Option Bool)}
    (answered : ∀ q ∈ asked, q.2 = some (world.answer q.1)) {m : Modal} {yes : Bool}
    (member : (m, some yes) ∈ asked) : world.answer m = yes :=
  (Option.some.inj (answered (m, some yes) member)).symm

theorem Governs.list_eq {world : World α} {effects : List (Effect α)}
    (governed : world.Governs effects) {reply : Except Error (List α)}
    (member : .listed (some reply) ∈ effects) : world.list = reply :=
  (Option.some.inj (governed.listed _ ((mem_fetches effects _).mpr member))).symm

/-- The errors that are observed in a wave are those that were settled, in some order. -/
theorem failures_perm (world : World α) (n : Nat) {t : Transition} {es : List α}
    {part : List (Effect α)} (wave : Answered es t part)
    (settled : ∀ a ∈ answers part, a.2 = world.verdict n a.1.1 a.1.2) :
    (failures part).Perm (world.errors n es t) := by
  have answered := wave.answered
  rw [List.map_nil, List.append_nil, List.nil_append] at answered
  have each : verdicts part =
      ((answers part).map Prod.fst).map fun r => world.verdict n r.1 r.2 := by
    rw [verdicts, List.map_map]
    exact List.map_congr_left settled
  have whole := (answered.map fun r => world.verdict n r.1 r.2).filterMap Verdict.error?
  rw [← each, List.map_map] at whole
  rw [errors, failures]
  simpa [List.filterMap_map, Function.comp_def] using whole

end World

/-- What can be foreseen of requests: the questions, the waves, the errors of the last of them, and
the report if there are none. -/
structure Prospect (α : Type) where
  asked : List Modal
  waves : List (List (α × Transition))
  errors : List Error
  report : Report

def Reported (parts : List (List (Effect α))) (f : Error) : Prop :=
  ∃ part, parts.getLast? = some part ∧ f ∈ failures part

def Prospect.total (x : Prospect α) : Nat := (x.waves.getLast?.getD []).length

structure Prospect.Shown (x : Prospect α) (asked : List (Modal × Option Bool))
    (parts : List (List (Effect α))) (own : Except Error Report) : Prop where
  asked : asked.map Prod.fst = x.asked
  waves : parts.map sends = x.waves
  own : (x.errors = [] ∧ own = .ok x.report) ∨
    ∃ f ∈ x.errors, Reported parts f ∧ own = .error (.batch x.errors.length x.total f)

theorem outcome_foreseen (t : Transition) (total : Nat) {observed errors : List Error}
    (same : observed.Perm errors) :
    (errors = [] ∧ outcome t total observed = .ok ⟨t, total, total, 0⟩) ∨
      ∃ f ∈ errors, f ∈ observed ∧
        outcome t total observed = .error (.batch errors.length total f) := by
  cases observed with
  | nil => exact Or.inl ⟨List.nil_perm.mp same, rfl⟩
  | cons f rest =>
    refine Or.inr ⟨f, same.mem_iff.mp List.mem_cons_self, List.mem_cons_self, ?_⟩
    rw [outcome, ← same.length_eq, List.length_cons]

variable [Entity α]

def World.prospect (world : World α) (p : Plan α) (offered : Bool) : Prospect α :=
  let first := World.requests p.eligible p.transition
  let count := p.enabledEligible.length
  if offered && world.answer p.remedyQuestion then
    let disabling := World.requests p.enabledEligible .disable
    if (world.errors 1 p.enabledEligible .disable).isEmpty then
      ⟨[p.remedyQuestion], [first, disabling, World.requests p.enabledEligible .delete],
        world.errors 2 p.enabledEligible .delete, ⟨.delete, count, count, count⟩⟩
    else
      ⟨[p.remedyQuestion], [first, disabling], world.errors 1 p.enabledEligible .disable,
        ⟨.disable, count, count, 0⟩⟩
  else
    ⟨if offered then [p.remedyQuestion] else [], [first], world.errors 0 p.eligible p.transition,
      ⟨p.transition, p.eligible.length, p.eligible.length, 0⟩⟩

theorem ending_shown (world : World α) {p : Plan α} {asked : List (Modal × Option Bool)}
    {parts : List (List (Effect α))} {own : Except Error Report} (ending : Ending p asked parts own)
    (answered : ∀ q ∈ asked, q.2 = some (world.answer q.1))
    (settled : ∀ x ∈ parts.zipIdx, ∀ a ∈ answers x.1, a.2 = world.verdict x.2 a.1.1 a.1.2) :
    (world.prospect p (!asked.isEmpty)).Shown asked parts own := by
  -- In each end the waves are known. The last one has the errors that were settled for it, in the
  -- order of the answers, and the first of them is reported.
  cases ending with
  | @plain first wave plain =>
    have foreseen := outcome_foreseen p.transition p.eligible.length
      (world.failures_perm 0 wave (settled (first, 0) (by simp)))
    refine ⟨by simp [World.prospect], by simp [World.prospect, wave.sent, World.requests], ?_⟩
    simpa [World.prospect, Prospect.total, World.requests, Reported] using foreseen
  | @declined first wave refused =>
    have no : world.answer p.remedyQuestion = false :=
      World.answer_eq answered List.mem_cons_self
    have foreseen := outcome_foreseen p.transition p.eligible.length
      (world.failures_perm 0 wave (settled (first, 0) (by simp)))
    refine ⟨?_, ?_, ?_⟩
    · simp [World.prospect, no]
    · simp [World.prospect, no, wave.sent, World.requests]
    · simpa [World.prospect, no, Prospect.total, World.requests, Reported] using foreseen
  | @disablingFailed first second wave refused disabled failed =>
    have yes : world.answer p.remedyQuestion = true :=
      World.answer_eq answered List.mem_cons_self
    have observed := world.failures_perm 1 disabled (settled (second, 1) (by simp))
    have errors : world.errors 1 p.enabledEligible .disable ≠ [] := by
      intro none
      rw [none] at observed
      exact failed (List.perm_nil.mp observed)
    have foreseen := outcome_foreseen .disable p.enabledEligible.length observed
    refine ⟨?_, ?_, ?_⟩
    · simp [World.prospect, yes, errors]
    · simp [World.prospect, yes, errors, wave.sent, disabled.sent, World.requests]
    · rcases foreseen with ⟨none, -⟩ | ⟨f, settled, member, same⟩
      · exact absurd none errors
      · refine Or.inr ⟨f, by simpa [World.prospect, yes, errors], ⟨second, rfl, member⟩, ?_⟩
        simp [World.prospect, yes, errors, same, Prospect.total, World.requests]
  | @deleted first second third wave refused disabled clean deletes =>
    have yes : world.answer p.remedyQuestion = true :=
      World.answer_eq answered List.mem_cons_self
    have errors : world.errors 1 p.enabledEligible .disable = [] := by
      have observed := world.failures_perm 1 disabled (settled (second, 1) (by simp))
      rw [clean] at observed
      exact List.nil_perm.mp observed
    have foreseen := outcome_foreseen .delete p.enabledEligible.length
      (world.failures_perm 2 deletes (settled (third, 2) (by simp)))
    refine ⟨?_, ?_, ?_⟩
    · simp [World.prospect, yes, errors]
    · simp [World.prospect, yes, errors, wave.sent, disabled.sent, deletes.sent, World.requests]
    · rcases foreseen with ⟨none, same⟩ | ⟨f, settled, member, same⟩
      · exact Or.inl ⟨by simp [World.prospect, yes, errors, none],
          by simp [World.prospect, yes, errors, same, Except.map]⟩
      · refine Or.inr ⟨f, by simpa [World.prospect, yes, errors], ⟨third, rfl, member⟩, ?_⟩
        simp [World.prospect, yes, errors, same, Prospect.total, World.requests, Except.map]

structure Foreseen (α : Type) where
  asked : List Modal
  waves : List (List (α × Transition))
  errors : List Error
  otherwise : Except Error Outcome
  inventory : Inventory α

def Foreseen.total (x : Foreseen α) : Nat := (x.waves.getLast?.getD []).length

def Foreseen.Ends (x : Foreseen α) (effects : List (Effect α)) (result : Option (Ended α)) : Prop :=
  (x.errors = [] ∧ result = some (x.otherwise, x.inventory)) ∨
    ∃ f ∈ x.errors, Reported (Batch.waves effects) f ∧
      result = some (.error (.batch x.errors.length x.total f), x.inventory)

structure Foreseen.Shown (x : Foreseen α) (effects : List (Effect α))
    (result : Option (Ended α)) : Prop where
  asked : (questions effects).map Prod.fst = x.asked
  waves : (Batch.waves effects).map sends = x.waves
  ended : x.Ends effects result

def World.after (world : World α) (i : Inventory α) : Inventory α :=
  match world.list with
  | .ok fresh => i.replace fresh
  | .error _ => i

def opening (p : Plan α) : List Modal :=
  p.question :: if p.isPartial then [p.partialQuestion] else []

def Prospect.foreseen (x : Prospect α) (world : World α) (i : Inventory α) (p : Plan α) :
    Foreseen α where
  asked := opening p ++ x.asked
  waves := x.waves
  errors := x.errors
  otherwise := conclude (.ok x.report) (world.list.map fun _ => ())
  inventory := world.after i

def World.foresee (world : World α) (supports : Transition → Bool) (i : Inventory α)
    (t : Transition) (offered : Bool) : Foreseen α :=
  let p := Plan.ofSelection i.selected t
  if i.selected.isEmpty then ⟨[], [], [], .ok .nothingSelected, i⟩
  else if !supports t then ⟨[], [], [], .error (unsupported α t), i⟩
  else if !world.answer p.question then ⟨[p.question], [], [], .ok .declined, i⟩
  else if p.isNoop then ⟨[p.question, p.notice], [], [], .ok (.alreadySatisfied p.total), i⟩
  else if p.isPartial && !world.answer p.partialQuestion then ⟨opening p, [], [], .ok .declined, i⟩
  else (world.prospect p offered).foreseen world i p

def OffersRemedy (p : Plan α) (effects : List (Effect α)) : Prop :=
  p.remedyQuestion ∈ (questions effects).map Prod.fst

/-- A run whose replies are settled: one that sends nothing and ends as foreseen either way, or one
that goes on to its requests. -/
inductive Settling (world : World α) (supports : Transition → Bool) (i : Inventory α)
    (t : Transition) : List (Effect α) → Option (Ended α) → Prop where
  | silent {ended effects}
      (foreseen : ∀ offered, world.foresee supports i t offered =
        ⟨(questions effects).map Prod.fst, [], [], ended, i⟩) (waveless : waves effects = [])
      (unoffered : ¬ OffersRemedy (Plan.ofSelection i.selected t) effects) :
      Settling world supports i t effects (some (ended, i))
  | sending {effects part own}
      (foreseen : ∀ offered, world.foresee supports i t offered =
        (world.prospect (Plan.ofSelection i.selected t) offered).foreseen world i
          (Plan.ofSelection i.selected t))
      (asked : questions effects =
        (opening (Plan.ofSelection i.selected t)).map (fun m => (m, some true)) ++ questions part)
      (cut : waves effects = waves part) (needed : (Plan.ofSelection i.selected t).eligible ≠ [])
      (course : Submitted (Plan.ofSelection i.selected t) part (some own)) :
      Settling world supports i t effects
        (some (conclude own (world.list.map fun _ => ()), world.after i))

theorem agreement_questions (p : Plan α) :
    questions (agreement p) = (opening p).map fun m => (m, some true) := by
  unfold agreement opening
  split <;> rfl

theorem opening_ne_remedy (p : Plan α) : p.remedyQuestion ∉ opening p := by
  have first := remedyQuestion_ne p (m := p.question) rfl
  have second := remedyQuestion_ne p (m := p.partialQuestion) rfl
  unfold opening
  split <;> simp [first, second]

-- The questions in front of the requests were accepted, and nothing was sent yet.
theorem carriedOut_settling {world : World α} {supports : Transition → Bool} {i : Inventory α}
    {t : Transition} (lead : List (Effect α)) {effects : List (Effect α)} {result : Option (Ended α)}
    (course : CarriedOut i (Plan.ofSelection i.selected t) effects result)
    (needed : (Plan.ofSelection i.selected t).eligible ≠ [])
    (governed : world.Governs (lead ++ effects)) (returned : result ≠ none)
    (opened : questions lead = (opening (Plan.ofSelection i.selected t)).map fun m => (m, some true))
    (unsent : exchanges lead = [])
    (foreseen : ∀ offered, world.foresee supports i t offered =
      (world.prospect (Plan.ofSelection i.selected t) offered).foreseen world i
        (Plan.ofSelection i.selected t)) :
    Settling world supports i t (lead ++ effects) result := by
  -- The list makes a difference to the end alone, and there it is the settled one.
  have sending : ∀ {part : List (Effect α)} {own : Except Error Report} (reply),
      Submitted (Plan.ofSelection i.selected t) part (some own) →
      Settling world supports i t (lead ++ .closed :: .entered .executing ::
        (part ++ [.listed reply, .entered .idle]))
        (some (conclude own (world.list.map fun _ => ()), world.after i)) := by
    intro part own reply course
    refine .sending foreseen (by simp [opened]) (waves_congr ?_) needed course
    simp [unsent, exchanges_cons, Effect.isExchange]
  cases course with
  | stalled course => exact absurd rfl returned
  | unlisted course => exact absurd rfl returned
  | refreshed course fresh =>
    have list : world.list = .ok fresh := governed.list_eq (by simp)
    simpa [list, World.after, Except.map] using sending (some (.ok fresh)) course
  | unrefreshed course f =>
    have list : world.list = .error f := governed.list_eq (by simp)
    simpa [list, World.after, Except.map] using sending (some (.error f)) course

theorem confirmed_settling {world : World α} {supports : Transition → Bool} {i : Inventory α}
    {t : Transition} {effects : List (Effect α)} {result : Option (Ended α)}
    (selected : i.selected ≠ []) (known : supports t = true)
    (course : Confirmed i (Plan.ofSelection i.selected t) effects result)
    (governed : world.Governs (.entered .confirming :: effects)) (returned : result ≠ none) :
    Settling world supports i t (.entered .confirming :: effects) result := by
  have answered : ∀ m yes, (m, some yes) ∈ questions effects → world.answer m = yes :=
    fun m yes member => World.answer_eq governed.answered (by simpa using member)
  -- None of the questions before the requests is the offer.
  have first := remedyQuestion_ne (Plan.ofSelection i.selected t)
    (m := (Plan.ofSelection i.selected t).question) rfl
  have notice := remedyQuestion_ne (Plan.ofSelection i.selected t)
    (m := (Plan.ofSelection i.selected t).notice) rfl
  have partly := remedyQuestion_ne (Plan.ofSelection i.selected t)
    (m := (Plan.ofSelection i.selected t).partialQuestion) rfl
  cases course with
  | unanswered => exact absurd rfl returned
  | unnoticed noop => exact absurd rfl returned
  | partlyUnanswered isPartial => exact absurd rfl returned
  | declined =>
    have no := answered (Plan.ofSelection i.selected t).question false (by simp)
    refine .silent (fun _ => ?_) rfl (by simp [OffersRemedy, aborting, first])
    simp [World.foresee, selected, known, no, aborting]
  | noticed noop yes =>
    have goes := answered (Plan.ofSelection i.selected t).question true (by simp)
    refine .silent (fun _ => ?_) rfl (by simp [OffersRemedy, aborting, first, notice])
    simp [World.foresee, selected, known, goes, noop, aborting]
  | partlyDeclined isPartial =>
    have goes := answered (Plan.ofSelection i.selected t).question true (by simp)
    have no := answered (Plan.ofSelection i.selected t).partialQuestion false (by simp)
    have needed : (Plan.ofSelection i.selected t).isNoop = false := by
      simp only [Plan.isPartial, Bool.and_eq_true, Bool.not_eq_true'] at isPartial
      exact isPartial.1
    refine .silent (fun _ => ?_) rfl (by simp [OffersRemedy, aborting, first, partly])
    simp [World.foresee, selected, known, goes, no, needed, isPartial, opening, aborting]
  | @agreed part _ needed course =>
    have goes : ∀ m ∈ opening (Plan.ofSelection i.selected t), world.answer m = true := by
      intro m member
      refine answered m true ?_
      simp [agreement_questions, member]
    have unsent : exchanges (.entered .confirming :: agreement (Plan.ofSelection i.selected t)) =
        [] := agreement_silent _
    refine carriedOut_settling (.entered .confirming :: agreement _) course
      (by simpa [Plan.isNoop] using needed) governed returned (by simp [agreement_questions])
      unsent (fun offered => ?_)
    have first := goes (Plan.ofSelection i.selected t).question (by simp [opening])
    cases isPartial : (Plan.ofSelection i.selected t).isPartial with
    | false => simp [World.foresee, selected, known, first, needed, isPartial]
    | true =>
      have second := goes (Plan.ofSelection i.selected t).partialQuestion
        (by simp [opening, isPartial])
      simp [World.foresee, selected, known, first, second, needed]

theorem governed_settling {world : World α} {supports : Transition → Bool} {i : Inventory α}
    {t : Transition} {effects : List (Effect α)} {result : Option (Ended α)}
    (course : Course supports i t effects result) (governed : world.Governs effects)
    (returned : result ≠ none) : Settling world supports i t effects result := by
  cases course with
  | nothingSelected empty =>
    exact .silent (fun _ => by simp [World.foresee, empty]) rfl (by simp [OffersRemedy])
  | unsupported selected unknown =>
    exact .silent (fun _ => by simp [World.foresee, selected, unknown]) rfl (by simp [OffersRemedy])
  | confirmed selected known course =>
    exact confirmed_settling selected known course governed returned

def RefusedFirst (parts : List (List (Effect α))) : Prop :=
  ∃ part f, parts.head? = some part ∧ (failures part).head? = some f ∧
    (f.status? = some 400 ∨ f.status? = some 409)

theorem ending_offers_iff {p : Plan α} {asked : List (Modal × Option Bool)}
    {parts : List (List (Effect α))} {own : Except Error Report} (ending : Ending p asked parts own) :
    p.remedyQuestion ∈ asked.map Prod.fst ↔ p.transition = .delete ∧
      (∃ e ∈ p.eligible, Entity.enabled e = true) ∧ RefusedFirst parts := by
  have decides : ∀ first rest, parts = first :: rest → (Remediable p (failures first) ↔
      p.transition = .delete ∧ (∃ e ∈ p.eligible, Entity.enabled e = true) ∧
        RefusedFirst parts) := by
    rintro first rest rfl
    rw [remediable_iff]
    constructor
    · rintro ⟨deletes, ⟨f, first, refusal⟩, enabled⟩
      exact ⟨deletes, enabled, _, f, rfl, first, refusal⟩
    · rintro ⟨deletes, enabled, _, f, ⟨rfl⟩, first, refusal⟩
      exact ⟨deletes, ⟨f, first, refusal⟩, enabled⟩
  cases ending with
  | plain wave plain => simpa [← decides _ _ rfl] using plain
  | declined wave refused => simpa [← decides _ _ rfl] using refused
  | disablingFailed wave refused disabled failed => simpa [← decides _ _ rfl] using refused
  | deleted wave refused disabled clean deletes => simpa [← decides _ _ rfl] using refused

theorem ending_asks_iff {p : Plan α} {asked : List (Modal × Option Bool)}
    {parts : List (List (Effect α))} {own : Except Error Report} (ending : Ending p asked parts own) :
    (!asked.isEmpty) = true ↔ p.remedyQuestion ∈ asked.map Prod.fst := by
  cases ending <;> simp

/-- What is asked, sent and reached by a run is what was foreseen, once it is known whether the
remedy is offered; and that is decided by the first error that is observed. -/
theorem settling_shown {world : World α} {supports : Transition → Bool} {i : Inventory α}
    {t : Transition} {effects : List (Effect α)} {result : Option (Ended α)}
    (settling : Settling world supports i t effects result) (governed : world.Governs effects) :
    (OffersRemedy (Plan.ofSelection i.selected t) effects ↔ t = .delete ∧
      (∃ e ∈ (Plan.ofSelection i.selected t).eligible, Entity.enabled e = true) ∧
      RefusedFirst (waves effects)) ∧
    ∃ offered, (offered = true ↔ OffersRemedy (Plan.ofSelection i.selected t) effects) ∧
      (world.foresee supports i t offered).Shown effects result := by
  cases settling with
  | silent foreseen waveless unoffered =>
    refine ⟨iff_of_false unoffered (by simp [RefusedFirst, waveless]), false, by simpa, ?_⟩
    rw [foreseen]
    exact ⟨rfl, by rw [waveless]; rfl, Or.inl ⟨rfl, rfl⟩⟩
  | @sending _ part own foreseen asked cut needed course =>
    have ending := submitted_ending needed course
    -- The offer is made among the requests, if at all.
    have offers : OffersRemedy (Plan.ofSelection i.selected t) effects ↔
        (Plan.ofSelection i.selected t).remedyQuestion ∈ (questions part).map Prod.fst := by
      rw [OffersRemedy, asked]
      simp [opening_ne_remedy]
    have shown := ending_shown world ending
      (fun q member => governed.answered q (by rw [asked]; exact List.mem_append_right _ member))
      (by rw [← cut]; exact governed.settled)
    refine ⟨?_, _, (ending_asks_iff ending).trans offers.symm, ?_⟩
    · rw [offers, cut]
      exact ending_offers_iff ending
    · rw [foreseen]
      refine ⟨?_, ?_, ?_⟩
      · simp [asked, shown.asked, Function.comp_def, Prospect.foreseen]
      · rw [cut]
        exact shown.waves
      · rcases shown.own with ⟨none, rfl⟩ | ⟨f, settled, reported, rfl⟩
        · exact Or.inl ⟨none, rfl⟩
        · exact Or.inr ⟨f, settled, by rw [cut]; exact reported, rfl⟩

inductive SameEnd (one other : List (Effect α)) :
    Option (Ended α) → Option (Ended α) → Prop where
  | equal (ended : Ended α) : SameEnd one other (some ended) (some ended)
  | failed {f g} (count total : Nat) (j : Inventory α) (reported : Reported (waves one) f)
      (reported' : Reported (waves other) g) :
      SameEnd one other (some (.error (.batch count total f), j))
        (some (.error (.batch count total g), j))

/-- Two runs that cannot be told apart but by such an error: the same questions, the same requests in
each wave, the same end. -/
structure Alike (one other : List (Effect α)) (r₁ r₂ : Option (Ended α)) : Prop where
  asked : questions one = questions other
  sent : (waves one).map sends = (waves other).map sends
  ended : SameEnd one other r₁ r₂

omit [Entity α] in
theorem ends_same {x : Foreseen α} {one other : List (Effect α)} {r₁ r₂ : Option (Ended α)}
    (ends : x.Ends one r₁) (ends' : x.Ends other r₂) : SameEnd one other r₁ r₂ := by
  rcases ends with ⟨none, rfl⟩ | ⟨f, some, reported, rfl⟩ <;>
    rcases ends' with ⟨none', rfl⟩ | ⟨g, some', reported', rfl⟩
  · exact .equal _
  · simp [none] at some'
  · simp [none'] at some
  · exact .failed _ _ _ reported reported'

-- Each question has its answer, so the same questions are asked with the same answers.
omit [Entity α] in
theorem governed_questions {world : World α} {effects : List (Effect α)}
    (governed : world.Governs effects) :
    questions effects = ((questions effects).map Prod.fst).map fun m => (m, some (world.answer m)) := by
  rw [List.map_map]
  refine (List.map_id _).symm.trans (List.map_congr_left ?_)
  rintro ⟨m, answer⟩ member
  exact Prod.ext rfl (governed.answered (m, answer) member)

omit [Entity α] in
theorem shown_alike {world : World α} {x : Foreseen α} {one other : List (Effect α)}
    {r₁ r₂ : Option (Ended α)} (shown : x.Shown one r₁) (shown' : x.Shown other r₂)
    (governed : world.Governs one) (governed' : world.Governs other) : Alike one other r₁ r₂ where
  asked := by
    rw [governed_questions governed, governed_questions governed', shown.asked, shown'.asked]
  sent := shown.waves.trans shown'.waves.symm
  ended := ends_same shown.ended shown'.ended

def World.Mixed (world : World α) (p : Plan α) : Prop :=
  p.transition = .delete ∧ (∃ e ∈ p.eligible, Entity.enabled e = true) ∧
    (∃ e ∈ p.eligible, ∃ f, world.verdict 0 e .delete = .error f ∧ f.isRefusal = true) ∧
    ∃ e ∈ p.eligible, ∃ f, world.verdict 0 e .delete = .error f ∧ f.isRefusal = false

structure Parted (world : World α) (p : Plan α) (one other : List (Effect α))
    (r₁ r₂ : Option (Ended α)) : Prop where
  asked : questions one = questions other ++ [(p.remedyQuestion, some (world.answer p.remedyQuestion))]
  first : (waves other).map sends = [p.eligible.map fun e => (e, p.transition)]
  sent : (waves one).map sends = (waves other).map sends ++ ((waves one).map sends).drop 1
  declined : world.answer p.remedyQuestion = false →
    (waves one).map sends = (waves other).map sends ∧ SameEnd one other r₁ r₂

structure Compared (world : World α) (p : Plan α) (one other : List (Effect α))
    (r₁ r₂ : Option (Ended α)) : Prop where
  /-- The remedy is offered exactly if a refusal is observed before any other error, in a deletion
  of something that is enabled. -/
  offered : OffersRemedy p one ↔ p.transition = .delete ∧
    (∃ e ∈ p.eligible, Entity.enabled e = true) ∧ RefusedFirst (waves one)
  /-- If both runs offer it, or neither does, they are alike. -/
  alike : (OffersRemedy p one ↔ OffersRemedy p other) → Alike one other r₁ r₂
  /-- This is so in every order, unless there are refusals and other errors. -/
  unmixed : ¬ world.Mixed p → (OffersRemedy p one ↔ OffersRemedy p other)
  /-- Otherwise nothing but the remedy differs. -/
  parted : OffersRemedy p one → ¬ OffersRemedy p other → Parted world p one other r₁ r₂

theorem ending_first {p : Plan α} {asked : List (Modal × Option Bool)}
    {parts : List (List (Effect α))} {own : Except Error Report} (ending : Ending p asked parts own) :
    ∃ first rest, parts = first :: rest ∧ Answered p.eligible p.transition first := by
  cases ending with
  | plain wave plain => exact ⟨_, _, rfl, wave⟩
  | declined wave refused => exact ⟨_, _, rfl, wave⟩
  | disablingFailed wave refused disabled failed => exact ⟨_, _, rfl, wave⟩
  | deleted wave refused disabled clean deletes => exact ⟨_, _, rfl, wave⟩

section

variable {world : World α} {supports : Transition → Bool} {i : Inventory α} {t : Transition}
  {effects one other : List (Effect α)} {result r₁ r₂ : Option (Ended α)}

theorem settling_first (settling : Settling world supports i t effects result)
    (governed : world.Governs effects) (sent : waves effects ≠ []) :
    ∃ first rest, waves effects = first :: rest ∧
      (failures first).Perm (world.errors 0 (Plan.ofSelection i.selected t).eligible t) := by
  cases settling with
  | silent foreseen waveless unoffered => exact absurd waveless sent
  | @sending _ part own foreseen asked cut needed course =>
    obtain ⟨first, rest, same, wave⟩ := ending_first (submitted_ending needed course)
    rw [← cut] at same
    refine ⟨first, rest, same, world.failures_perm 0 wave ?_⟩
    exact governed.settled (first, 0) (by simp [same])

/-- Whether anything is sent does not depend on the offer. -/
theorem foresee_waveless_iff (world : World α) (supports : Transition → Bool) (i : Inventory α)
    (t : Transition) (yes no : Bool) :
    (world.foresee supports i t yes).waves = [] ↔ (world.foresee supports i t no).waves = [] := by
  have sends : ∀ offered, (world.prospect (Plan.ofSelection i.selected t) offered).waves ≠ [] := by
    intro offered
    unfold World.prospect
    dsimp only
    split_ifs <;> simp
  unfold World.foresee
  dsimp only
  split_ifs <;> simp [Prospect.foreseen, sends]

omit [Entity α] in
theorem mem_errors {n : Nat} {es : List α} {f : Error} :
    f ∈ world.errors n es t ↔ ∃ e ∈ es, world.verdict n e t = .error f := by
  simp only [World.errors, List.mem_filterMap]
  refine exists_congr fun e => and_congr_right fun _ => ?_
  cases world.verdict n e t <;> simp

/-- If all errors are refusals, or none is, every order offers the remedy or none does. -/
theorem offers_of_unmixed (settling : Settling world supports i t one r₁)
    (settling' : Settling world supports i t other r₂) (governed : world.Governs one)
    (governed' : world.Governs other) (plain : ¬ world.Mixed (Plan.ofSelection i.selected t))
    (offers : OffersRemedy (Plan.ofSelection i.selected t) one) :
    OffersRemedy (Plan.ofSelection i.selected t) other := by
  obtain ⟨offers_iff, _, _, shown⟩ := settling_shown settling governed
  obtain ⟨offers_iff', _, _, shown'⟩ := settling_shown settling' governed'
  obtain ⟨rfl, enabled, part, f, isFirst, observed, refusal⟩ := offers_iff.mp offers
  refine offers_iff'.mpr ⟨rfl, enabled, ?_⟩
  have sent : waves one ≠ [] := by
    intro none
    simp [none] at isFirst
  have sent' : waves other ≠ [] := by
    intro none
    have waveless := shown'.waves
    rw [none, List.map_nil, eq_comm, foresee_waveless_iff world supports i _ _ _] at waveless
    exact sent (List.map_eq_nil_iff.mp (shown.waves.trans waveless))
  obtain ⟨first, rest, cut, settled⟩ := settling_first settling governed sent
  obtain ⟨first', rest', cut', settled'⟩ := settling_first settling' governed' sent'
  obtain rfl : first = part := by simpa [cut] using isFirst
  have member := settled.mem_iff.mp (List.mem_of_head? observed)
  -- The other run observes the same errors, and since there is a refusal all of them are.
  obtain ⟨g, others, found⟩ := List.exists_cons_of_ne_nil
    (List.ne_nil_of_mem ((settled'.symm.mem_iff).mp member))
  have member' := settled'.mem_iff.mp (by rw [found]; exact List.mem_cons_self)
  refine ⟨first', g, by simp [cut'], by simp [found], (refusal_iff g).mp ?_⟩
  obtain ⟨e, eligible, failed⟩ := mem_errors.mp member
  obtain ⟨e', eligible', failed'⟩ := mem_errors.mp member'
  by_contra other
  exact plain ⟨rfl, enabled, ⟨e, eligible, f, failed, (refusal_iff f).mpr refusal⟩, e', eligible', g,
    failed', by simpa using other⟩

theorem prospect_asked (world : World α) (p : Plan α) (offered : Bool) :
    (world.prospect p offered).asked = if offered then [p.remedyQuestion] else [] := by
  unfold World.prospect
  dsimp only
  split_ifs <;> simp_all

theorem prospect_first (world : World α) (p : Plan α) (offered : Bool) :
    (world.prospect p offered).waves.take 1 = [p.eligible.map fun e => (e, p.transition)] := by
  unfold World.prospect
  dsimp only
  split_ifs <;> rfl

-- A remedy that is declined leaves what the first wave came to.
theorem prospect_declined {world : World α} {p : Plan α}
    (no : world.answer p.remedyQuestion = false) :
    world.prospect p true = { world.prospect p false with asked := [p.remedyQuestion] } := by
  simp [World.prospect, no]

theorem settling_parted (settling : Settling world supports i t one r₁)
    (settling' : Settling world supports i t other r₂) (governed : world.Governs one)
    (governed' : world.Governs other) (offers : OffersRemedy (Plan.ofSelection i.selected t) one)
    (silent : ¬ OffersRemedy (Plan.ofSelection i.selected t) other) :
    Parted world (Plan.ofSelection i.selected t) one other r₁ r₂ := by
  obtain ⟨-, yes, offered, shown⟩ := settling_shown settling governed
  obtain ⟨-, no, offered', shown'⟩ := settling_shown settling' governed'
  obtain rfl : yes = true := offered.mpr offers
  obtain rfl : no = false := by simpa using mt offered'.mp silent
  -- Only a run that goes on to its requests can offer the remedy.
  cases settling with
  | silent foreseen waveless unoffered => exact absurd offers unoffered
  | sending foreseen asked cut needed course =>
    rw [foreseen] at shown shown'
    have single : (world.prospect (Plan.ofSelection i.selected t) false).waves =
        [(Plan.ofSelection i.selected t).eligible.map fun e => (e, t)] := by
      simp [World.prospect, World.requests, Plan.ofSelection]
    constructor
    case asked =>
      rw [governed_questions governed, governed_questions governed', shown.asked, shown'.asked]
      simp [prospect_asked, Prospect.foreseen]
    case first => exact shown'.waves.trans single
    case sent =>
      rw [shown'.waves, shown.waves]
      simp only [Prospect.foreseen, single]
      have first := prospect_first world (Plan.ofSelection i.selected t) true
      exact (List.take_append_drop 1 _).symm.trans (congrArg (· ++ _) first)
    -- If the offer is declined, what is foreseen differs by the question alone.
    case declined =>
      intro no
      have same := prospect_declined no
      refine ⟨?_, ends_same ?_ shown'.ended⟩
      · rw [shown.waves, shown'.waves, same]
        rfl
      · have ends := shown.ended
        rw [same] at ends
        exact ends

end

theorem running_settling {world : World α} (env : Environment α σ) (supports : Transition → Bool)
    (s : Session α) (t : Transition) (w : σ)
    (governed : world.Governs (s.running env supports t w).effects) :
    Settling world supports s.inventory t (s.running env supports t w).effects
      (s.running env supports t w).result := by
  refine governed_settling (running_course env supports s t w) governed ?_
  have unfolds := play_unfolds env (run supports s.inventory t) .idle w
  exact mt (unfolds_waits_iff _ _ _ unfolds).mp (World.governed_returns governed)

/-- If everything but the order in which requests finish is settled, two runs are alike, except that a
deletion with refusals and other errors offers the remedy in those runs in which a refusal is
observed first. -/
theorem completion_order_compared (world : World α) (supports : Transition → Bool) (s : Session α)
    (t : Transition) (env₁ : Environment α σ) (w₁ : σ) (env₂ : Environment α τ) (w₂ : τ)
    (one : world.Governs (s.running env₁ supports t w₁).effects)
    (other : world.Governs (s.running env₂ supports t w₂).effects) :
    Compared world (Plan.ofSelection s.inventory.selected t)
      (s.running env₁ supports t w₁).effects (s.running env₂ supports t w₂).effects
      (s.running env₁ supports t w₁).result (s.running env₂ supports t w₂).result := by
  have settling := running_settling env₁ supports s t w₁ one
  have settling' := running_settling env₂ supports s t w₂ other
  obtain ⟨offered, yes, offers, shown⟩ := settling_shown settling one
  obtain ⟨-, yes', offers', shown'⟩ := settling_shown settling' other
  constructor
  case offered => exact offered
  case alike =>
    intro same
    obtain rfl : yes = yes' := Bool.eq_iff_iff.mpr (offers.trans (same.trans offers'.symm))
    exact shown_alike shown shown' one other
  case unmixed =>
    intro plain
    exact ⟨offers_of_unmixed settling settling' one other plain,
      offers_of_unmixed settling' settling other one plain⟩
  case parted => exact settling_parted settling settling' one other

omit [Entity α] in
/-- Replies as they were settled. Every request is under way until its wave is sent; then the first of
those under way is answered next, or the last. The state counts the waves and holds their change. -/
def World.environment (world : World α) (lastFirst : Bool) :
    Environment α (Nat × Option Transition) where
  ask m w := (some (world.answer m), w)
  close w := w
  send _ t w := (none, if w.2 = some t then w else (w.1 + 1, some t))
  await underWay t w :=
    if waits : 0 < underWay.length then
      let i : Fin underWay.length := if lastFirst then ⟨underWay.length - 1, by omega⟩ else ⟨0, waits⟩
      (some (i, world.verdict (w.1 - 1) underWay[i] t), w)
    else (none, w)
  list w := (some world.list, w)

def mixedFailures : World ServiceRecord where
  answer m := m.waitToClose
  verdict _ e _ :=
    if e.href = "/a" then .error (.api 409 "must be disabled first") else .error (.api 500 "down")
  list := .ok [service "/a" true, service "/b" true]

def mixedRun (lastFirst : Bool) : Played ServiceRecord (Ended ServiceRecord)
    (Nat × Option Transition) :=
  (allSelected [service "/a" true, service "/b" true]).running
    (mixedFailures.environment lastFirst) (fun _ => true) .delete (0, none)

theorem mixedRun_governed (lastFirst : Bool) :
    mixedFailures.Governs (mixedRun lastFirst).effects := by
  cases lastFirst <;> exact ⟨by decide, by decide, by decide, by decide⟩

theorem mixedRun_compared :
    mixedFailures.Governs (mixedRun false).effects ∧ mixedFailures.Governs (mixedRun true).effects ∧
    Compared mixedFailures (Plan.ofSelection [service "/a" true, service "/b" true] .delete)
      (mixedRun false).effects (mixedRun true).effects (mixedRun false).result
      (mixedRun true).result :=
  ⟨mixedRun_governed false, mixedRun_governed true,
    completion_order_compared mixedFailures (fun _ => true)
      (allSelected [service "/a" true, service "/b" true]) .delete (mixedFailures.environment false)
      (0, none) (mixedFailures.environment true) (0, none) (mixedRun_governed false)
      (mixedRun_governed true)⟩

-- The offer depends on which answer comes first.
theorem mixedRun_questions_differ :
    mixedFailures.Governs (mixedRun false).effects ∧ mixedFailures.Governs (mixedRun true).effects ∧
    ((questions (mixedRun false).effects).map Prod.fst ≠
      (questions (mixedRun true).effects).map Prod.fst) := by
  refine ⟨mixedRun_governed false, mixedRun_governed true, fun same => ?_⟩
  exact absurd (congrArg List.length same) (by decide)

end ExtensionAdmin.Batch
