import ExtensionAdmin.Proofs.Batch.Ending

/-! The list is fetched once. A run that sends requests fetches the list when all of them are
answered, whatever became of them, and what it leaves behind is the fetched list or what was there
before. A run that sends nothing fetches nothing. -/

namespace ExtensionAdmin.Batch

variable {α β σ : Type}

@[simp]
def Effect.fetch? : Effect α → Option (Option (Except Error (List α)))
  | .listed reply => some reply
  | _ => none

def fetches (effects : List (Effect α)) : List (Option (Except Error (List α))) :=
  effects.filterMap Effect.fetch?

@[simp]
theorem fetches_nil : fetches ([] : List (Effect α)) = [] := rfl

@[simp]
theorem fetches_cons (x : Effect α) (rest : List (Effect α)) :
    fetches (x :: rest) = x.fetch?.toList ++ fetches rest := by
  cases x <;> rfl

@[simp]
theorem fetches_append (left right : List (Effect α)) :
    fetches (left ++ right) = fetches left ++ fetches right := List.filterMap_append

theorem mem_fetches (effects : List (Effect α)) (reply : Option (Except Error (List α))) :
    reply ∈ fetches effects ↔ .listed reply ∈ effects := by
  induction effects with
  | nil => simp
  | cons x rest ih => cases x <;> simp [ih]

theorem fetches_eq_nil_iff (effects : List (Effect α)) :
    fetches effects = [] ↔ ∀ reply, .listed reply ∉ effects := by
  simp only [List.eq_nil_iff_forall_not_mem, mem_fetches]

def Effect.isUnanswered : Effect α → Bool
  | .asked _ none => true
  | .stalled _ _ => true
  | .listed none => true
  | _ => false

def Waits (effects : List (Effect α)) : Prop :=
  ∃ x, effects.getLast? = some x ∧ x.isUnanswered = true

theorem waits_cons {x : Effect α} (answered : x.isUnanswered = false) (rest : List (Effect α)) :
    Waits (x :: rest) ↔ Waits rest := by
  cases rest with
  | nil => simp [Waits, answered]
  | cons y rest => simp [Waits]

theorem waits_singleton {x : Effect α} (unanswered : x.isUnanswered = true) : Waits [x] :=
  ⟨x, rfl, unanswered⟩

/-- A dialogue comes to its end unless some reply never comes. -/
theorem unfolds_waits_iff (d : Dialogue α β) (effects : List (Effect α)) (result : Option β)
    (unfolds : d.Unfolds effects result) : result = none ↔ Waits effects := by
  -- Each node puts an answered effect in front, except where its reply is missing and it ends.
  induction d generalizing effects with
  | done x =>
    obtain ⟨rfl, rfl⟩ := unfolds
    simp [Waits]
  | enter p next ih =>
    obtain ⟨rest, rfl, follows⟩ := unfolds
    exact (ih rest follows).trans (waits_cons rfl rest).symm
  | ask m next ih =>
    rcases unfolds with ⟨rfl, rfl⟩ | ⟨yes, rest, rfl, follows⟩
    · exact iff_of_true rfl (waits_singleton rfl)
    · exact (ih yes rest follows).trans (waits_cons rfl rest).symm
  | close next ih =>
    obtain ⟨rest, rfl, follows⟩ := unfolds
    exact (ih rest follows).trans (waits_cons rfl rest).symm
  | send e t next ih =>
    rcases unfolds with ⟨rest, rfl, follows⟩ | ⟨v, rest, rfl, follows⟩
    · exact (ih none rest follows).trans (waits_cons rfl rest).symm
    · rw [waits_cons rfl, waits_cons rfl]
      exact ih (some v) rest follows
  | await underWay t next ih =>
    rcases unfolds with ⟨rfl, rfl⟩ | ⟨i, v, rest, rfl, follows⟩
    · exact iff_of_true rfl (waits_singleton rfl)
    · exact (ih i v rest follows).trans (waits_cons rfl rest).symm
  | list next ih =>
    rcases unfolds with ⟨rfl, rfl⟩ | ⟨x, rest, rfl, follows⟩
    · exact iff_of_true rfl (waits_singleton rfl)
    · exact (ih x rest follows).trans (waits_cons rfl rest).symm

theorem answers_exchanges (effects : List (Effect α)) :
    answers (exchanges effects) = answers effects := by
  induction effects with
  | nil => rfl
  | cons x rest ih => cases x <;> simp [exchanges_cons, Effect.isExchange, ih]

theorem settled_append {left right : List (Effect α)} (first : Settled left)
    (second : Settled right) : Settled (left ++ right) := by
  unfold Settled
  simpa using List.Perm.append first second

theorem settled_waves {effects : List (Effect α)} (all : ∀ part ∈ waves effects, Settled part) :
    Settled effects := by
  have whole : ∀ parts : List (List (Effect α)), (∀ part ∈ parts, Settled part) →
      Settled parts.flatten := by
    intro parts
    induction parts with
    | nil => intro _; exact List.Perm.refl _
    | cons part rest ih =>
      intro all
      exact settled_append (all part (by simp)) (ih fun x member => all x (by simp [member]))
  have flat := whole _ all
  rwa [waves_flatten, Settled, sends_exchanges, answers_exchanges] at flat

variable [Entity α]

theorem ending_settled {p : Plan α} {asked : List (Modal × Option Bool)}
    {parts : List (List (Effect α))} {result : Except Error Report}
    (ending : Ending p asked parts result) : ∀ part ∈ parts, Settled part := by
  cases ending with
  | plain wave plain => simp [(wave_settled_iff wave).mpr rfl]
  | declined wave refused => simp [(wave_settled_iff wave).mpr rfl]
  | disablingFailed wave refused disabled failed =>
    simp [(wave_settled_iff wave).mpr rfl, (wave_settled_iff disabled).mpr rfl]
  | deleted wave refused disabled clean deletes =>
    simp [(wave_settled_iff wave).mpr rfl, (wave_settled_iff disabled).mpr rfl,
      (wave_settled_iff deletes).mpr rfl]

/-- The result of a batch, read off its last wave: the first error that was observed in it, with
their number, or success without any. -/
def Decides (part : List (Effect α)) (result : Except Error Report) : Prop :=
  (∀ f rest, failures part = f :: rest →
    result = .error (.batch (rest.length + 1) (sends part).length f)) ∧
  (failures part = [] → ∃ report, result = .ok report)

omit [Entity α] in
theorem answered_decides {t : Transition} {es : List α} {part : List (Effect α)}
    (wave : Answered es t part) (change : Report → Report) :
    Decides part ((outcome t es.length (failures part)).map change) := by
  have count : (sends part).length = es.length := by rw [wave.sent, List.length_map]
  constructor
  · intro f rest failed
    rw [failed, count]
    rfl
  · intro clean
    rw [clean]
    exact ⟨_, rfl⟩

omit [Entity α] in
theorem answered_decides_plain {t : Transition} {es : List α} {part : List (Effect α)}
    (wave : Answered es t part) : Decides part (outcome t es.length (failures part)) := by
  have decides := answered_decides wave id
  cases found : failures part <;> simpa [found, outcome, Except.map] using decides

theorem ending_decides {p : Plan α} {asked : List (Modal × Option Bool)}
    {parts : List (List (Effect α))} {result : Except Error Report}
    (ending : Ending p asked parts result) :
    ∃ part, parts.getLast? = some part ∧ Decides part result := by
  cases ending with
  | plain wave plain => exact ⟨_, rfl, answered_decides_plain wave⟩
  | declined wave refused => exact ⟨_, rfl, answered_decides_plain wave⟩
  | disablingFailed wave refused disabled failed => exact ⟨_, rfl, answered_decides_plain disabled⟩
  | deleted wave refused disabled clean deletes => exact ⟨_, rfl, answered_decides deletes _⟩

omit [Entity α] in
theorem remedied_unlisted {es : List α} {effects : List (Effect α)}
    {result : Option (Except Error Report)} (course : Remedied es effects result)
    (reply : Option (Except Error (List α))) : .listed reply ∉ effects := by
  intro member
  obtain exchange | ⟨_, _, same⟩ := remedied_quiet course member
  · cases exchange
  · cases same

theorem submitted_unlisted {p : Plan α} {effects : List (Effect α)}
    {result : Option (Except Error Report)} (course : Submitted p effects result)
    (reply : Option (Except Error (List α))) : .listed reply ∉ effects := by
  have first : ∀ {left part : List _}, Wave p.transition [] p.eligible part left →
      .listed reply ∉ part := by
    intro left part wave member
    cases wave.quiet _ member
  cases course with
  | stalled stalled =>
    obtain ⟨part, left, -, wave, rfl⟩ := stalled
    simp [first wave]
  | settled wave plain => simp [first wave]
  | offered wave refused failed course =>
    cases course with
    | unanswered => simp [first wave]
    | declined => simp [first wave]
    | stalled remedied => simp [first wave, remedied_unlisted remedied]
    | accepted remedied => simp [first wave, remedied_unlisted remedied]

inductive Fetched (i : Inventory α) (own : Except Error Report) :
    List (Effect α) → Option (Ended α) → Prop where
  | unlisted : Fetched i own [.listed none] none
  | refreshed (fresh : List α) : Fetched i own [.listed (some (.ok fresh)), .entered .idle]
      (some (conclude own (.ok ()), i.replace fresh))
  | unrefreshed (f : Error) : Fetched i own [.listed (some (.error f)), .entered .idle]
      (some (conclude own (.error f), i))

inductive Stages (i : Inventory α) (p : Plan α) : List (Effect α) → Option (Ended α) → Prop where
  | silent {effects result} (unsent : exchanges effects = []) (unlisted : fetches effects = [])
      (same : ∀ x j, result = some (x, j) → j = i) : Stages i p effects result
  | stalled {lead part} (unsent : exchanges lead = []) (unlisted : fetches lead = [])
      (course : Submitted p part none) : Stages i p (lead ++ part) none
  | fetched {lead part last own result} (unsent : exchanges lead = []) (unlisted : fetches lead = [])
      (needed : p.eligible ≠ []) (course : Submitted p part (some own))
      (fetch : Fetched i own last result) : Stages i p (lead ++ part ++ last) result

theorem Stages.lead {i : Inventory α} {p : Plan α} {effects : List (Effect α)}
    {result : Option (Ended α)} (stages : Stages i p effects result) {before : List (Effect α)}
    (unsent : exchanges before = []) (unlisted : fetches before = []) :
    Stages i p (before ++ effects) result := by
  cases stages with
  | silent unsent' unlisted' same => exact .silent (by simp [*]) (by simp [*]) same
  | stalled unsent' unlisted' course =>
    rw [← List.append_assoc]
    exact .stalled (by simp [*]) (by simp [*]) course
  | fetched unsent' unlisted' needed course fetch =>
    rw [← List.append_assoc, ← List.append_assoc]
    exact .fetched (by simp [*]) (by simp [*]) needed course fetch

theorem carriedOut_stages {i : Inventory α} {p : Plan α} {effects : List (Effect α)}
    {result : Option (Ended α)} (needed : p.eligible ≠ []) (course : CarriedOut i p effects result) :
    Stages i p effects result := by
  -- Each way through the plan has the same two effects in front of its requests.
  have around : ∀ {rest : List (Effect α)}, Stages i p rest result →
      Stages i p (.closed :: .entered .executing :: rest) result :=
    fun stages => stages.lead (show exchanges [.closed, .entered .executing] = [] from rfl) rfl
  have nothing : exchanges ([] : List (Effect α)) = [] := rfl
  cases course with
  | stalled course => exact around (.stalled nothing rfl course)
  | unlisted course => exact around (.fetched nothing rfl needed course .unlisted)
  | refreshed course fresh => exact around (.fetched nothing rfl needed course (.refreshed fresh))
  | unrefreshed course f => exact around (.fetched nothing rfl needed course (.unrefreshed f))

theorem confirmed_stages {i : Inventory α} {p : Plan α} {effects : List (Effect α)}
    {result : Option (Ended α)} (course : Confirmed i p effects result) :
    Stages i p effects result := by
  cases course with
  | agreed needed course =>
    refine (carriedOut_stages (by simpa [Plan.isNoop] using needed) course).lead
      (agreement_silent p) ?_
    unfold agreement
    split <;> rfl
  | declined => exact .silent rfl rfl (by simp_all)
  | noticed noop yes => exact .silent rfl rfl (by simp_all)
  | partlyDeclined isPartial => exact .silent rfl rfl (by simp_all)
  | unanswered => exact .silent rfl rfl (by simp)
  | unnoticed noop => exact .silent rfl rfl (by simp)
  | partlyUnanswered isPartial => exact .silent rfl rfl (by simp)

theorem course_stages {supports : Transition → Bool} {i : Inventory α} {t : Transition}
    {effects : List (Effect α)} {result : Option (Ended α)}
    (course : Course supports i t effects result) :
    Stages i (Plan.ofSelection i.selected t) effects result := by
  cases course with
  | nothingSelected empty => exact .silent rfl rfl (by simp_all)
  | unsupported selected unknown => exact .silent rfl rfl (by simp_all)
  | confirmed selected known course =>
    exact (confirmed_stages course).lead (show exchanges [.entered .confirming] = [] from rfl) rfl

/-- How a run on an inventory fetches the list, and what it leaves behind. `after` is the inventory
that the session has then. -/
structure RefreshedOnce (i : Inventory α) (effects : List (Effect α)) (result : Option (Ended α))
    (after : Inventory α) : Prop where
  /-- Only a reply that never comes keeps a run from its end. -/
  returns : result = none ↔ Waits effects
  /-- A run that sent something and ended has fetched the list, -/
  once : sends effects ≠ [] → result ≠ none → ∃ reply, fetches effects = [reply]
  /-- not twice, -/
  most : (fetches effects).length ≤ 1
  /-- and not without having sent anything. -/
  unsent : sends effects = [] → fetches effects = []
  /-- Before the fetch every request is answered, and after it none is sent. -/
  last : ∀ before reply rest, effects = before ++ .listed reply :: rest →
    Settled before ∧ exchanges rest = []
  /-- A fetched list replaces the old one, and of it those stay selected whose keys were. -/
  replaced : ∀ fresh, .listed (some (.ok fresh)) ∈ effects → after.entities = fresh ∧
    after.selected = fresh.filter fun e => i.selected.map Entity.key |>.contains (Entity.key e)
  /-- Without one everything stays as it was. -/
  kept : (∀ fresh, .listed (some (.ok fresh)) ∉ effects) → after = i
  /-- An error of the last wave is the result, whatever the fetch came to. -/
  failed : ∀ part f others ended j, (waves effects).getLast? = some part →
    failures part = f :: others → result = some (ended, j) →
    ended = .error (.batch (others.length + 1) (sends part).length f)
  /-- Otherwise an error of the fetch is the result, -/
  unrefreshed : ∀ part f ended j, (waves effects).getLast? = some part → failures part = [] →
    .listed (some (.error f)) ∈ effects → result = some (ended, j) → ended = .error f
  /-- and otherwise the run is completed. -/
  completed : ∀ part fresh ended j, (waves effects).getLast? = some part → failures part = [] →
    .listed (some (.ok fresh)) ∈ effects → result = some (ended, j) →
    ∃ report, ended = .ok (.completed report)

-- A run without a fetch ends only if it sent nothing.
theorem unfetched_refreshed {i : Inventory α} {effects : List (Effect α)}
    {result : Option (Ended α)} (unlisted : fetches effects = [])
    (silent : ∀ x j, result = some (x, j) → j = i ∧ exchanges effects = [])
    (returns : result = none ↔ Waits effects) :
    RefreshedOnce i effects result ((result.map Prod.snd).getD i) := by
  have absent := (fetches_eq_nil_iff effects).mp unlisted
  constructor
  case returns => exact returns
  case once =>
    intro sent ended
    obtain ⟨⟨x, j⟩, same⟩ := Option.ne_none_iff_exists'.mp ended
    have unsent := (silent x j same).2
    exact absurd (by rw [← sends_exchanges, unsent, sends_nil]) sent
  case most => simp [unlisted]
  case unsent => exact fun _ => unlisted
  case last =>
    rintro before reply rest rfl
    exact absurd (by simp) (absent reply)
  case replaced => exact fun fresh member => absurd member (absent _)
  case kept =>
    intro _
    cases result with
    | none => rfl
    | some ended => exact (silent ended.1 ended.2 rfl).1
  case failed =>
    intro part f others ended j final _ same
    simp [(waves_eq_nil_iff effects).mpr (silent ended j same).2] at final
  case unrefreshed => exact fun part f ended j _ _ member => absurd member (absent _)
  case completed => exact fun part fresh ended j _ _ member => absurd member (absent _)

theorem fetched_listed {i : Inventory α} {own : Except Error Report} {last : List (Effect α)}
    {result : Option (Ended α)} (fetch : Fetched i own last result) :
    ∃ reply tail, last = .listed reply :: tail ∧ fetches tail = [] ∧ exchanges tail = [] := by
  cases fetch with
  | unlisted => exact ⟨_, _, rfl, rfl, rfl⟩
  | refreshed fresh => exact ⟨_, _, rfl, rfl, rfl⟩
  | unrefreshed f => exact ⟨_, _, rfl, rfl, rfl⟩

theorem submitted_settled {p : Plan α} {effects : List (Effect α)} {own : Except Error Report}
    (needed : p.eligible ≠ []) (course : Submitted p effects (some own)) : Settled effects :=
  settled_waves (ending_settled (submitted_ending needed course))

theorem replace_selected (i : Inventory α) (fresh : List α) :
    (i.replace fresh).selected =
      fresh.filter fun e => i.selected.map Entity.key |>.contains (Entity.key e) := by
  refine List.filter_congr ?_
  intro e _
  rw [Bool.eq_iff_iff]
  simp

/-- Where the fetch stands: after requests that are all answered, and before nothing of the kind. -/
theorem fetched_last {p : Plan α} {lead part tail before rest : List (Effect α)}
    {own : Except Error Report} {reply other : Option (Except Error (List α))}
    (unsent : exchanges lead = []) (unlisted : fetches lead = []) (needed : p.eligible ≠ [])
    (course : Submitted p part (some own)) (tailUnlisted : fetches tail = [])
    (tailUnsent : exchanges tail = [])
    (split : lead ++ part ++ .listed reply :: tail = before ++ .listed other :: rest) :
    Settled before ∧ exchanges rest = [] := by
  have quiet := (fetches_eq_nil_iff part).mpr (submitted_unlisted course)
  have clean : fetches (lead ++ part) = [] := by
    rw [fetches_append, unlisted, quiet, List.nil_append]
  rcases split_append split with ⟨_, inside, -⟩ | ⟨ahead, later, rfl⟩
  · exact absurd (by simp [inside]) ((fetches_eq_nil_iff _).mp clean other)
  · rcases List.cons_eq_append_iff.mp later with ⟨rfl, first⟩ | ⟨_, -, inside⟩
    · obtain rfl : rest = tail := (List.cons.inj first).2
      refine ⟨?_, tailUnsent⟩
      have settled := submitted_settled needed course
      rw [Settled, ← answers_exchanges, ← sends_exchanges] at settled ⊢
      simpa [unsent] using settled
    · exact absurd (by simp [inside]) ((fetches_eq_nil_iff _).mp tailUnlisted other)

theorem fetched_refreshed {i : Inventory α} {p : Plan α} {lead part last : List (Effect α)}
    {own : Except Error Report} {result : Option (Ended α)} (unsent : exchanges lead = [])
    (unlisted : fetches lead = []) (needed : p.eligible ≠ [])
    (course : Submitted p part (some own)) (fetch : Fetched i own last result)
    (returns : result = none ↔ Waits (lead ++ part ++ last)) :
    RefreshedOnce i (lead ++ part ++ last) result ((result.map Prod.snd).getD i) := by
  obtain ⟨reply, tail, rfl, tailUnlisted, tailUnsent⟩ := fetched_listed fetch
  have quiet := (fetches_eq_nil_iff part).mpr (submitted_unlisted course)
  have only : fetches (lead ++ part ++ .listed reply :: tail) = [reply] := by
    simp [unlisted, quiet, tailUnlisted]
  have listed : ∀ other, .listed other ∈ lead ++ part ++ .listed reply :: tail ↔ other = reply := by
    intro other
    rw [← mem_fetches, only, List.mem_singleton]
  -- The waves are those of the requests, and the last of them decides.
  have same : exchanges (lead ++ part ++ .listed reply :: tail) = exchanges part := by
    simp [unsent, exchanges_cons, Effect.isExchange, tailUnsent]
  obtain ⟨final, isFinal, failing, clean⟩ := ending_decides (submitted_ending needed course)
  rw [← waves_congr same] at isFinal
  constructor
  case returns => exact returns
  case once => exact fun _ _ => ⟨reply, only⟩
  case most => rw [only, List.length_singleton]
  case unsent =>
    intro nothing
    rw [← sends_exchanges, same, sends_exchanges] at nothing
    exact absurd nothing (submitted_sends needed course)
  case last =>
    intro before other rest split
    exact fetched_last unsent unlisted needed course tailUnlisted tailUnsent split
  case replaced =>
    intro fresh member
    obtain rfl := (listed _).mp member
    cases fetch
    exact ⟨rfl, replace_selected i fresh⟩
  case kept =>
    intro stale
    cases fetch with
    | unlisted => rfl
    | unrefreshed f => rfl
    | refreshed fresh => exact absurd ((listed _).mpr rfl) (stale fresh)
  -- An error of the requests goes before one of the fetch, and that goes before their success.
  case failed =>
    intro found f others ended j isFound failed ends
    rw [isFinal, Option.some.injEq] at isFound
    subst isFound
    subst ends
    rw [failing f others failed] at fetch
    cases fetch with
    | refreshed fresh => rfl
    | unrefreshed g => rfl
  case unrefreshed =>
    intro found f ended j isFound unfailed member ends
    rw [isFinal, Option.some.injEq] at isFound
    subst isFound ends
    obtain ⟨report, rfl⟩ := clean unfailed
    obtain rfl := (listed _).mp member
    cases fetch
    rfl
  case completed =>
    intro found fresh ended j isFound unfailed member ends
    rw [isFinal, Option.some.injEq] at isFound
    subst isFound ends
    obtain ⟨report, rfl⟩ := clean unfailed
    obtain rfl := (listed _).mp member
    cases fetch
    exact ⟨report, rfl⟩

theorem stages_refreshed {i : Inventory α} {p : Plan α} {effects : List (Effect α)}
    {result : Option (Ended α)} (stages : Stages i p effects result)
    (returns : result = none ↔ Waits effects) :
    RefreshedOnce i effects result ((result.map Prod.snd).getD i) := by
  cases stages with
  | silent unsent unlisted same =>
    exact unfetched_refreshed unlisted (fun x j ends => ⟨same x j ends, unsent⟩) returns
  | stalled unsent unlisted course =>
    have quiet := (fetches_eq_nil_iff _).mpr (submitted_unlisted course)
    refine unfetched_refreshed ?_ (by simp) returns
    rw [fetches_append, unlisted, quiet, List.nil_append]
  | fetched unsent unlisted needed course fetch =>
    exact fetched_refreshed unsent unlisted needed course fetch returns

theorem afterRun_inventory (env : Environment α σ) (supports : Transition → Bool) (s : Session α)
    (t : Transition) (w : σ) : (s.perform env supports w (.run t)).2.1.inventory =
      (((s.running env supports t w).result.map Prod.snd).getD s.inventory) :=
  congrArg Session.inventory (afterPlay_session s _ _)

/-- Whatever the server and the operator answer and in whatever order requests finish, a run that
sends requests fetches the list once, when all of them are answered, and any other run does not. It
leaves what it fetched, or what was there. It sends requests exactly when it goes ahead. -/
theorem run_refreshed_once (env : Environment α σ) (supports : Transition → Bool) (s : Session α)
    (t : Transition) (w : σ) :
    RefreshedOnce s.inventory (s.running env supports t w).effects
      (s.running env supports t w).result
      (s.perform env supports w (.run t)).2.1.inventory ∧
    (sends (s.running env supports t w).effects ≠ [] ↔
      GoesAhead supports (Plan.ofSelection s.inventory.selected t)
        (s.running env supports t w).effects) := by
  have course := running_course env supports s t w
  rw [afterRun_inventory]
  refine ⟨stages_refreshed (course_stages course) ?_, (course_goes_ahead course).sends_iff⟩
  exact unfolds_waits_iff _ _ _ (play_unfolds env (run supports s.inventory t) .idle w)

end ExtensionAdmin.Batch
