import ExtensionAdmin.Proofs.Batch.Completion
import ExtensionAdmin.Proofs.Batch.Consent
import ExtensionAdmin.Proofs.Batch.History
import ExtensionAdmin.Proofs.Service.PluginServer

/-! A transition takes effect once. After a run against a server that stores what it is sent,
everything selected satisfies the transition, what was not eligible is as it was, the selection has
the same keys, and a second run finds nothing to do. The eligible plugins have no other changes than
those of the transition exactly when each of them can be addressed and its members that are no
fields are legible. -/

namespace ExtensionAdmin.Service.UiPlugins

open Batch (Accepts Environment Inventory Modal Obliges Plan Session Transition Untouched)
open Http (Client Network)
open Json (Value)

variable {σ τ : Type} {c : Client} {net : Network σ} {u : Update}
  {holds : σ → Nat → List String → Prop} {ask : Modal → τ → Option Bool × τ} {close : τ → τ}
  {texts : List String} {ps : List UiPlugin}

theorem accepts (willing : ∀ m x, (ask m x).1 = some true) (I : σ → Prop) :
    Accepts (endpoint.environment c net ask close) fun w => I w.2 := by
  constructor
  case asked =>
    intro m w held
    refine ⟨((ask m w.1).2, w.2), ?_, held⟩
    simp only [Endpoint.environment, willing m w.1]
  case closed => exact fun held => held

namespace Update

def eligible (u : Update) (i : Inventory UiPlugin) : List UiPlugin :=
  (Plan.ofSelection i.selected u.transition).eligible

def outcome (u : Update) (i : Inventory UiPlugin) : Batch.Outcome :=
  if u.eligible i = [] then .alreadySatisfied i.selected.length
  else .completed ⟨u.transition, (u.eligible i).length, (u.eligible i).length, 0⟩

def perform (u : Update) (env : Environment UiPlugin (τ × σ)) (s : Session UiPlugin) (w : τ × σ) :
    Batch.Reply × Session UiPlugin × (τ × σ) :=
  s.perform env endpoint.supports w (.run u.transition)

theorem mem_eligible {i : Inventory UiPlugin} {p : UiPlugin} :
    p ∈ u.eligible i ↔ p ∈ i.selected ∧ ¬ u.transition.satisfiedBy p = true := by
  simp [eligible, Plan.ofSelection]

theorem eligible_subset {i : Inventory UiPlugin} (proper : i.Proper) :
    u.eligible i ⊆ i.entities := by
  intro p member
  exact proper.subset (mem_eligible.mp member).1

end Update

/-- A run that finds nothing to do: it says so, and the server hears nothing of it. -/
structure AtRest (env : Environment UiPlugin (τ × σ)) (u : Update) (s : Session UiPlugin)
    (w : τ × σ) : Prop where
  ended : (u.perform env s w).1 = .ended (.alreadySatisfied s.inventory.selected.length)
  untouched : Untouched s.inventory (s.running env endpoint.supports u.transition w).effects
    (u.perform env s w).2.1.inventory
  server : (u.perform env s w).2.2.2 = w.2

structure TakesEffect (env : Environment UiPlugin (τ × σ)) (u : Update) (s : Session UiPlugin)
    (w : τ × σ) (after : List UiPlugin) : Prop where
  ended : (u.perform env s w).1 = .ended (u.outcome s.inventory)
  listed : (u.perform env s w).2.1.inventory.entities = after
  /-- All that is selected satisfies the transition. -/
  satisfied : ∀ p ∈ (u.perform env s w).2.1.inventory.selected, u.transition.satisfiedBy p = true
  /-- The selected keys are the same. -/
  selection : ((u.perform env s w).2.1.inventory.selected.map Entity.key).Perm
    (s.inventory.selected.map Entity.key)
  /-- A second run finds nothing to do. -/
  again : AtRest env u (u.perform env s w).2.1 (u.perform env s w).2.2

theorem atRest (willing : ∀ m x, (ask m x).1 = some true) {s : Session UiPlugin} (w : τ × σ)
    (selected : s.inventory.selected ≠ [])
    (satisfied : ∀ p ∈ s.inventory.selected, u.transition.satisfiedBy p = true) :
    AtRest (endpoint.environment c net ask close) u s w := by
  have idle : (Plan.ofSelection s.inventory.selected u.transition).eligible = [] := by
    simpa [Plan.ofSelection] using satisfied
  have total : (Plan.ofSelection s.inventory.selected u.transition).total =
      s.inventory.selected.length := by
    rw [Plan.total, idle, Plan.ofSelection, List.filter_eq_self.mpr satisfied]
    simp
  have noop : (Plan.ofSelection s.inventory.selected u.transition).isNoop = true := by
    rw [Plan.isNoop, idle]
    rfl
  have known : endpoint.supports u.transition = true := rfl
  have accepts : Accepts (endpoint.environment c net ask close) fun x => x.2 = w.2 :=
    accepts willing fun x => x = w.2
  obtain ⟨result, reply, inventory, server⟩ :=
    Batch.running_secured (Batch.run_noop_secures accepts selected known noop rfl)
  -- What is satisfied already is no report of requests, so nothing was asked of the server.
  have course := Batch.running_course (endpoint.environment c net ask close) endpoint.supports s
    u.transition w
  rw [result] at course
  refine ⟨?_, ?_, server⟩
  · rw [total] at reply
    exact reply
  · obtain untouched | ⟨_, same⟩ | ⟨_, _, _, same⟩ | ⟨_, same, -⟩ := Batch.course_ended course
    · exact inventory ▸ untouched
    · cases same
    · cases same
    · cases same

/-- What an update leaves selected satisfies the transition: the selected plugins that were not
eligible did so before. -/
theorem selected_satisfied {i : Inventory UiPlugin} (proper : i.Proper)
    (distinct : (i.entities.map Entity.key).Nodup) {fresh : List UiPlugin}
    (became : List.Forall₂ (fun p q => u.becomes? (u.eligible i) p = some q) i.entities fresh) :
    ∀ q ∈ (i.replace fresh).selected, u.transition.satisfiedBy q = true := by
  intro q member
  obtain ⟨listed, chosen⟩ := List.mem_filter.mp member
  obtain ⟨s, selected, same⟩ := List.any_eq_true.mp chosen
  obtain ⟨p, among, here⟩ := Fallible.paired_of_mem became listed
  obtain ⟨key, kept, done⟩ := Update.becomes?_eq_some here
  have key : Entity.key p = Entity.key s := key.symm.trans (beq_iff_eq.mp same).symm
  obtain rfl : p = s := List.inj_on_of_nodup_map distinct among (proper.subset selected) key
  by_cases satisfied : u.transition.satisfiedBy p = true
  · have unsent : p ∉ u.eligible i := fun sent => (Update.mem_eligible.mp sent).2 satisfied
    rwa [kept unsent]
  · exact done (Update.mem_eligible.mpr ⟨selected, satisfied⟩)

theorem became_keys {sent fresh : List UiPlugin}
    (became : List.Forall₂ (fun p q => u.becomes? sent p = some q) ps fresh) :
    fresh.map Entity.key = ps.map Entity.key := by
  induction became with
  | nil => rfl
  | cons here later ih => exact congrArg₂ List.cons (Update.becomes?_eq_some here).1 ih

section Runs

variable {s : Session UiPlugin} {w : τ × σ}

/-- What a run with something to do comes to. -/
theorem Serves.runs (server : Serves c net u holds) (close : τ → τ)
    (willing : ∀ m x, (ask m x).1 = some true) (held : holds w.2 0 texts)
    (fetched : (endpoint.list c net w.2).1 = some (.ok s.inventory.entities))
    (distinct : (s.inventory.entities.map Entity.key).Nodup) (proper : s.inventory.Proper)
    (addressable : ∀ p ∈ u.eligible s.inventory, Addressable c p)
    (needed : u.eligible s.inventory ≠ []) :
    let after := listing (s.inventory.entities.mapM (u.becomes? (u.eligible s.inventory)))
    (u.perform (endpoint.environment c net ask close) s w).1 =
        Batch.reply (after.map fun _ => u.outcome s.inventory) ∧
      (u.perform (endpoint.environment c net ask close) s w).2.1.inventory =
        s.inventory.fetched after := by
  intro after
  obtain ⟨⟨r, asks⟩, described⟩ := server.described held fetched
  have selected : s.inventory.selected ≠ [] := by
    intro empty
    simp [Update.eligible, Plan.ofSelection, empty] at needed
  have within : u.eligible s.inventory ⊆ s.inventory.entities := Update.eligible_subset proper
  have once : (u.eligible s.inventory).Nodup :=
    (Batch.proper_distinct proper distinct).of_map.filter _
  -- The server stands at what it holds: each change that is sent revises one more of its texts, and
  -- the list that is fetched in the end is read from them.
  have obliges : Obliges (endpoint.environment c net ask close) u.transition
      (u.eligible s.inventory) _ :=
    server.obliges asks described distinct within once addressable
  have begins : holds w.2 0 (texts.map (u.revised [])) := by
    rwa [List.map_congr_left (fun text _ => u.revised_nil text), List.map_id']
  have lists : ∀ {x : τ × σ}, holds x.2 0 (texts.map (u.revised (u.eligible s.inventory))) →
      ∃ last, (endpoint.environment c net ask close).list x = (some after, last) ∧ True := by
    intro x held
    obtain ⟨last, answered, -⟩ := server.listed held asks
    refine ⟨(x.1, last), ?_, trivial⟩
    rw [Update.mapM_revised described] at answered
    simp only [Endpoint.environment, answered, after]
  have noop : (Plan.ofSelection s.inventory.selected u.transition).isNoop = false := by
    rw [Plan.isNoop, List.isEmpty_eq_false_iff]
    exact needed
  have known : endpoint.supports u.transition = true := rfl
  have accepts : Accepts (endpoint.environment c net ask close)
      fun x => holds x.2 0 (texts.map (u.revised [])) :=
    accepts willing fun x => holds x 0 (texts.map (u.revised []))
  obtain ⟨-, reply, inventory, -⟩ := Batch.running_secured
    (Batch.run_secures selected known noop accepts obliges lists begins)
  refine ⟨?_, inventory⟩
  rw [Update.outcome, if_neg needed]
  exact reply

theorem Serves.takes_effect (server : Serves c net u holds)
    (willing : ∀ m x, (ask m x).1 = some true) (held : holds w.2 0 texts)
    (fetched : (endpoint.list c net w.2).1 = some (.ok s.inventory.entities))
    (distinct : (s.inventory.entities.map Entity.key).Nodup) (proper : s.inventory.Proper)
    (selected : s.inventory.selected ≠ [])
    (addressable : ∀ p ∈ u.eligible s.inventory, Addressable c p) {fresh : List UiPlugin}
    (became : s.inventory.entities.mapM (u.becomes? (u.eligible s.inventory)) = some fresh) :
    TakesEffect (endpoint.environment c net ask close) u s w fresh := by
  -- With nothing to do the run is at rest already. Otherwise the list comes back with the changes,
  -- and the next run is.
  by_cases idle : u.eligible s.inventory = []
  · have satisfied : ∀ p ∈ s.inventory.selected, u.transition.satisfiedBy p = true := by
      intro p member
      by_contra unsatisfied
      simpa [idle] using Update.mem_eligible.mpr ⟨member, unsatisfied⟩
    rw [idle, u.mapM_becomes?_nil] at became
    obtain rfl := Option.some.inj became
    have rests : AtRest (endpoint.environment c net ask close) u s w :=
      atRest willing w selected satisfied
    have inventory := rests.untouched.unchanged
    constructor
    case ended => rw [rests.ended, Update.outcome, if_pos idle]
    case listed => rw [inventory]
    case satisfied => rwa [inventory]
    case selection => rw [inventory]
    case again =>
      apply atRest willing
      · rwa [inventory]
      · rwa [inventory]
  · obtain ⟨reply, inventory⟩ :=
      server.runs close willing held fetched distinct proper addressable idle
    rw [became] at reply inventory
    change (u.perform (endpoint.environment c net ask close) s w).2.1.inventory =
      s.inventory.replace fresh at inventory
    have pairs := Fallible.mapM_eq_some.mp became
    have selection := Batch.replace_keys proper distinct (became_keys pairs)
    have satisfied := selected_satisfied proper distinct pairs
    constructor
    case ended => exact reply
    case listed => rw [inventory, Inventory.replace]
    case satisfied => rwa [inventory]
    case selection => rwa [inventory]
    case again =>
      apply atRest willing
      · rw [inventory]
        intro empty
        simp [empty, selected] at selection
      · rwa [inventory]

/-- A run that ends as if every change were made could be sent every change. -/
theorem addressable_of_ended (asks : ∃ r, endpoint.listRequest c = .ok r)
    (ended : (u.perform (endpoint.environment c net ask close) s w).1 =
      .ended (u.outcome s.inventory)) :
    ∀ p ∈ u.eligible s.inventory, Addressable c p := by
  intro p eligible
  by_contra unaddressable
  obtain ⟨r, asks⟩ := asks
  obtain ⟨j, completed⟩ := Batch.running_of_ended ended
  rw [Update.outcome, if_neg (List.ne_nil_of_mem eligible)] at completed
  obtain ⟨selected, unsatisfied⟩ := Update.mem_eligible.mp eligible
  cases built : u.request c p with
  | ok put => exact unaddressable ((request_built_iff asks u p).mp ⟨put, built⟩)
  | error f =>
    refine Batch.completed_unrefused completed rfl selected unsatisfied f fun x => ?_
    simp only [Endpoint.environment, Endpoint.send]
    rw [show endpoint.changeRequest c p u.transition = .error f from
      (u.changeRequest_eq c p).trans built]

theorem Serves.takes_effect_iff (server : Serves c net u holds) (close : τ → τ)
    (willing : ∀ m x, (ask m x).1 = some true) (held : holds w.2 0 texts)
    (fetched : (endpoint.list c net w.2).1 = some (.ok s.inventory.entities))
    (distinct : (s.inventory.entities.map Entity.key).Nodup) (proper : s.inventory.Proper)
    (selected : s.inventory.selected ≠ []) :
    TakesEffect (endpoint.environment c net ask close) u s w
        (s.inventory.entities.map (u.changed (u.eligible s.inventory))) ↔
      ∀ p ∈ u.eligible s.inventory,
        Addressable c p ∧ ∀ m ∈ p.extra, m.2.Legible memberDepth := by
  have within : u.eligible s.inventory ⊆ s.inventory.entities := Update.eligible_subset proper
  rw [forall₂_and, ← Update.mapM_becomes?_iff (u := u) within]
  constructor
  · intro effect
    have addressable := addressable_of_ended (server.described held fetched).1 effect.ended
    refine ⟨addressable, ?_⟩
    by_cases idle : u.eligible s.inventory = []
    · rw [Update.mapM_becomes?_iff within, idle]
      simp
    obtain ⟨reply, inventory⟩ :=
      server.runs close willing held fetched distinct proper addressable idle
    cases became : s.inventory.entities.mapM (u.becomes? (u.eligible s.inventory)) with
    | none =>
      rw [became] at reply
      cases effect.ended.symm.trans reply
    | some fresh =>
      rw [became] at inventory
      rw [← effect.listed, inventory]
      rfl
  · rintro ⟨addressable, became⟩
    exact server.takes_effect willing held fetched distinct proper selected addressable became

/-- Against a server that stores what it is sent, the run of a transition that the operator accepts
takes effect once, if each eligible plugin can be addressed. The plugins come back with no more than
the change exactly when besides that the eligible ones are legible. -/
theorem transition_takes_effect (server : Serves c net u holds) (close : τ → τ)
    (willing : ∀ m x, (ask m x).1 = some true) (held : holds w.2 0 texts)
    (fetched : (endpoint.list c net w.2).1 = some (.ok s.inventory.entities))
    (distinct : (s.inventory.entities.map Entity.key).Nodup) (proper : s.inventory.Proper)
    (selected : s.inventory.selected ≠ []) :
    ((∀ p ∈ u.eligible s.inventory, Addressable c p) → ∀ fresh,
      s.inventory.entities.mapM (u.becomes? (u.eligible s.inventory)) = some fresh →
        TakesEffect (endpoint.environment c net ask close) u s w fresh) ∧
    (TakesEffect (endpoint.environment c net ask close) u s w
        (s.inventory.entities.map (u.changed (u.eligible s.inventory))) ↔
      ∀ p ∈ u.eligible s.inventory,
        Addressable c p ∧ ∀ m ∈ p.extra, m.2.Legible memberDepth) :=
  ⟨fun addressable _ became =>
    server.takes_effect willing held fetched distinct proper selected addressable became,
    server.takes_effect_iff close willing held fetched distinct proper selected⟩

/-- The same in every session that commands led to: its selection is a part of its list. -/
theorem Serves.reached_takes_effect_iff (server : Serves c net u holds) (close : τ → τ)
    (willing : ∀ m x, (ask m x).1 = some true) (held : holds w.2 0 texts)
    (fetched : (endpoint.list c net w.2).1 = some (.ok s.inventory.entities))
    (distinct : (s.inventory.entities.map Entity.key).Nodup) (reached : s.Reached)
    (selected : s.inventory.selected ≠ []) :
    TakesEffect (endpoint.environment c net ask close) u s w
        (s.inventory.entities.map (u.changed (u.eligible s.inventory))) ↔
      ∀ p ∈ u.eligible s.inventory,
        Addressable c p ∧ ∀ m ∈ p.extra, m.2.Legible memberDepth :=
  server.takes_effect_iff close willing held fetched distinct (Batch.reached_proper reached)
    selected

end Runs

def shelved : Environment UiPlugin (Unit × Shelf) :=
  endpoint.environment sampleClient Shelf.network (fun _ x => (some true, x)) id

theorem sample_asks : ∃ r, endpoint.listRequest sampleClient = .ok r := by
  have built : (endpoint.listRequest sampleClient).toOption.isSome = true := rfl
  cases same : endpoint.listRequest sampleClient with
  | error e => simp [same, Except.toOption] at built
  | ok r => exact ⟨r, rfl⟩

def sample (id : String) (enabled : Bool) (name : String) (v : Value) : UiPlugin :=
  ⟨id, id, "", none, "", none, none, false, false, enabled, none, none, [(name, v)]⟩

def allSelected (ps : List UiPlugin) : Session UiPlugin := ⟨.idle, ⟨ps, ps⟩⟩

theorem sample_kept {id name : String} {enabled : Bool} {v : Value}
    (foreign : UiPlugin.isField name = false) (canonical : v.Canonical) :
    (sample id enabled name v).Kept := by
  constructor
  case ascending => exact List.pairwise_singleton _ _
  case foreign => simpa [sample] using foreign
  case canonical => simpa [sample] using canonical

theorem addressable_sample {p : UiPlugin} {url : Url}
    (leads : sampleClient.url (pluginPath p) = .ok url) (fits : url.fits = true) :
    Addressable sampleClient p := by
  intro other found
  obtain rfl := Except.ok.inj (leads.symm.trans found)
  exact fits

theorem sample_reread {id name : String} {enabled : Bool} {v w : Value}
    (read : v.reread memberDepth = some w) :
    (sample id enabled name v).reread memberDepth = some (sample id enabled name w) := by
  rw [UiPlugin.reread, sample, Value.rereadMembers, Value.rereadMembers, read]
  rfl

def hint : Value := .object [("retries", .array [.number (.int 7), .null])]

def ready (enabled : Bool) : UiPlugin := sample "ready" enabled "hint" hint

def done : UiPlugin := sample "done" true "hint" hint

theorem hint_legible : hint.Legible memberDepth := by
  apply (Value.legible_object_iff _).mpr
  rw [List.forall_mem_singleton]
  apply (Value.legible_array_iff _).mpr
  rw [List.forall_mem_cons, List.forall_mem_singleton]
  exact ⟨Value.legible_int (by unfold Json.Exact; omega), rfl⟩

theorem hint_canonical : hint.Canonical := by
  rw [hint, Value.canonical_object_iff, List.forall_mem_singleton, Value.canonical_array_iff,
    List.forall_mem_cons, List.forall_mem_singleton]
  exact ⟨List.pairwise_singleton _ _, Value.canonical_scalar rfl, Value.canonical_scalar rfl⟩

theorem ready_read (enabled : Bool) :
    plugin? (ready enabled).toValue.text = some (ready enabled) :=
  (plugin?_text (sample_kept rfl hint_canonical)).trans (sample_reread hint_legible)

theorem done_read : plugin? done.toValue.text = some done :=
  (plugin?_text (sample_kept rfl hint_canonical)).trans (sample_reread hint_legible)

theorem ready_serves :
    Serves sampleClient Shelf.network (.enabling true)
      (Shelf.Holds [[ready false, done], [ready true, done]]) := by
  apply Shelf.serves
  have enabled : ∀ b, (Update.enabling true).apply (ready b) = ready true := fun b => rfl
  have still : (Update.enabling true).apply done = done := rfl
  have apart : ∀ b, (ready b).id ≠ done.id := by decide
  intro ps among p listed q read
  obtain ⟨b, rfl⟩ : ∃ b, ps = [ready b, done] := by simpa [or_comm] using among
  simp only [List.mem_cons, List.not_mem_nil, or_false] at listed
  rcases listed with rfl | rfl
  · obtain rfl : ready b = q := by simpa [ready_read] using read
    rw [enabled, ready_read]
    refine ⟨rfl, [ready true, done], by simp, ?_⟩
    simp [replaced, ready_read, done_read, (apart _).symm]
  · obtain rfl : done = q := by simpa [done_read] using read
    rw [still, done_read]
    refine ⟨rfl, [ready b, done], among, ?_⟩
    simp [replaced, ready_read, done_read, apart]

theorem ready_takes_effect :
    Serves sampleClient Shelf.network (.enabling true)
        (Shelf.Holds [[ready false, done], [ready true, done]]) ∧
      (endpoint.list sampleClient Shelf.network (Shelf.start [ready false, done])).1 =
        some (.ok [ready false, done]) ∧
      TakesEffect shelved (.enabling true) (allSelected [ready false, done])
        ((), Shelf.start [ready false, done]) [ready true, done] := by
  have held : Shelf.Holds [[ready false, done], [ready true, done]]
      (Shelf.start [ready false, done]) 0 _ := Shelf.holds_start List.mem_cons_self
  have fetched : (endpoint.list sampleClient Shelf.network (Shelf.start [ready false, done])).1 =
      some (.ok (allSelected [ready false, done]).inventory.entities) :=
    ready_serves.fetched held sample_asks (by simp [ready_read, done_read, allSelected])
  have sound : ∀ p ∈ (Update.enabling true).eligible (allSelected [ready false, done]).inventory,
      Addressable sampleClient p ∧ ∀ m ∈ p.extra, m.2.Legible memberDepth := by
    intro p eligible
    have same : p = ready false ∨ p = done := by
      simpa [allSelected] using (Update.mem_eligible.mp eligible).1
    constructor
    · rcases same with rfl | rfl
      · exact addressable_sample rfl rfl
      · exact addressable_sample rfl rfl
    · intro m member
      obtain rfl : m = ("hint", hint) := by
        rcases same with rfl | rfl <;> simpa [ready, done, sample] using member
      exact hint_legible
  refine ⟨ready_serves, fetched, ?_⟩
  exact (transition_takes_effect (w := ((), Shelf.start [ready false, done])) ready_serves id
    (fun _ _ => rfl) held fetched (by decide) (List.Subperm.refl _) (by simp [allSelected])).2.mpr
      sound

def limited (enabled high : Bool) : UiPlugin :=
  sample "limited" enabled "limit"
    (.number (.float (if high then ⟨5096006472832567709⟩ else ⟨5096006472832567708⟩)))

theorem limited_reread (enabled high : Bool) :
    (limited enabled high).reread memberDepth = some (limited enabled !high) := by
  apply sample_reread
  cases high <;> decide +kernel

theorem limited_read (enabled high : Bool) :
    plugin? (limited enabled high).toValue.text = some (limited enabled !high) :=
  (plugin?_text (sample_kept rfl (Value.canonical_scalar rfl))).trans (limited_reread enabled high)

theorem limited_serves :
    Serves sampleClient Shelf.network (.enabling true)
      (Shelf.Holds [[limited false false], [limited true true], [limited true false]]) := by
  apply Shelf.serves
  have enabled : ∀ b high, (Update.enabling true).apply (limited b high) = limited true high :=
    fun b high => rfl
  intro ps among p listed q read
  obtain ⟨b, high, rfl⟩ : ∃ b high, ps = [limited b high] := by
    simp only [List.mem_cons, List.not_mem_nil, or_false] at among
    rcases among with rfl | rfl | rfl <;> exact ⟨_, _, rfl⟩
  obtain rfl := List.mem_singleton.mp listed
  obtain rfl : limited b (!high) = q := by simpa [limited_read] using read
  rw [enabled, limited_read]
  refine ⟨rfl, [limited true !high], by cases high <;> simp, ?_⟩
  simp only [replaced, List.map_cons, List.map_nil, limited_read, Option.any_some, beq_self_eq_true,
    if_true]

def limitedText : String :=
  "\x7b\"id\":\"limited\",\"pluginName\":\"limited\",\"vendor\":\"\",\"version\":\"\"," ++
    "\"tenant_scoped\":false,\"provider_scoped\":false,\"enabled\":false,\"limit\":5e+32\x7d"

/-- Enabling the plugin changes its limit as well. -/
theorem limit_drifts :
    Shelf.start [limited false false] = ⟨[limitedText], 0⟩ ∧
      Serves sampleClient Shelf.network (.enabling true)
        (Shelf.Holds [[limited false false], [limited true true], [limited true false]]) ∧
      (endpoint.list sampleClient Shelf.network (Shelf.start [limited false false])).1 =
        some (.ok [limited false true]) ∧
      TakesEffect shelved (.enabling true) (allSelected [limited false true])
        ((), Shelf.start [limited false false]) [limited true false] ∧
      ¬ TakesEffect shelved (.enabling true) (allSelected [limited false true])
        ((), Shelf.start [limited false false]) [limited true true] := by
  have held : Shelf.Holds [[limited false false], [limited true true], [limited true false]]
      (Shelf.start [limited false false]) 0 _ := Shelf.holds_start List.mem_cons_self
  have fetched : (endpoint.list sampleClient Shelf.network (Shelf.start [limited false false])).1 =
      some (.ok (allSelected [limited false true]).inventory.entities) :=
    limited_serves.fetched held sample_asks (by simp [limited_read, allSelected])
  have became : (allSelected [limited false true]).inventory.entities.mapM
      ((Update.enabling true).becomes?
        ((Update.enabling true).eligible (allSelected [limited false true]).inventory)) =
      some [limited true false] := by
    have eligible : (Update.enabling true).eligible (allSelected [limited false true]).inventory =
        [limited false true] := by decide
    have enabled : (Update.enabling true).apply (limited false true) = limited true true := rfl
    rw [eligible]
    simp [allSelected, Update.becomes?, enabled, limited_reread]
  have addressable : ∀ p ∈
      (Update.enabling true).eligible (allSelected [limited false true]).inventory,
      Addressable sampleClient p := by
    intro p eligible
    obtain rfl : p = limited false true := by
      simpa [allSelected] using (Update.mem_eligible.mp eligible).1
    exact addressable_sample rfl rfl
  have taken : TakesEffect shelved (.enabling true) (allSelected [limited false true])
      ((), Shelf.start [limited false false]) [limited true false] :=
    limited_serves.takes_effect (w := ((), Shelf.start [limited false false])) (fun _ _ => rfl) held
      fetched (by decide) (List.Subperm.refl _) (by simp [allSelected]) addressable became
  refine ⟨by decide +kernel, limited_serves, fetched, taken, fun other => ?_⟩
  have same : [limited true false] = [limited true true] := taken.listed.symm.trans other.listed
  exact absurd same (by decide)

end ExtensionAdmin.Service.UiPlugins
