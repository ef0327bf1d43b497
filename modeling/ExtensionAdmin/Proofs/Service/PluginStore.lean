import ExtensionAdmin.Proofs.Service.PluginUpdate

/-! Plugins as a server stores them. A server keeps the text of each plugin and lists the texts one
after another. An update of a plugin puts its body in the place of the text with the id of the
plugin. What is listed afterwards are the plugins as they were, and of the updated ones what the
texts of their updates are read as. -/

namespace ExtensionAdmin.Service.UiPlugins

open Batch (Transition)
open Json (Value Members)

/-- How deep a stored plugin may nest: the list of all plugins is around it. -/
def storedDepth : Nat := Json.maxDepth - 1

def stored? (text : String) : Option Value := Json.readWithin? storedDepth text.toList

def plugin? (text : String) : Option UiPlugin := UiPlugin.read? storedDepth text.toList

variable {u : Update} {p : UiPlugin} {text : String} {texts : List String}

/-- A listing holds the plugins that its items describe, if they are all legible. -/
theorem ofListing?_eq {body : String}
    (lists : Json.readVerbatim? body.toList = (texts.mapM stored?).map .array) :
    ofListing? body = texts.mapM plugin? := by
  have each : texts.mapM plugin? =
      (texts.mapM stored?).bind fun vs => (vs.mapM UiPlugin.ofVerbatim).toOption := by
    simp only [Fallible.mapM_toOption]
    exact Fallible.mapM_bind stored? _ texts
  rw [ofListing?, lists, each]
  cases texts.mapM stored? <;> rfl

theorem plugin?_kept (read : plugin? text = some p) : p.Kept := by
  obtain ⟨v, -, described⟩ := Option.bind_eq_some_iff.mp read
  apply UiPlugin.ofVerbatim_kept
  cases same : UiPlugin.ofVerbatim v with
  | error e => simp [same, Except.toOption] at described
  | ok q =>
    rw [same] at described
    exact congrArg Except.ok (Option.some.inj described)

def memberDepth : Nat := storedDepth - 1

theorem plugin?_text (kept : p.Kept) : plugin? p.toValue.text = p.reread memberDepth := by
  rw [plugin?, Value.text, String.toList_ofList]
  exact kept.read?_render

namespace Update

def transition : Update → Transition
  | .enabling true => .enable
  | .enabling false => .disable
  | .scoping s => .changeScope s

theorem changeRequest_eq (c : Http.Client) (p : UiPlugin) (u : Update) :
    changeRequest c p u.transition = u.request c p := by
  rcases u with ⟨_ | _⟩ | s <;> rfl

/-- A plugin satisfies a transition when its update would leave it as it is. -/
theorem satisfiedBy_iff (u : Update) (p : UiPlugin) :
    u.transition.satisfiedBy p = true ↔ u.apply p = p := by
  obtain ⟨id, name, vendor, description, version, license, link, tenantScoped, providerScoped,
    enabled, status, resourcePath, extra⟩ := p
  cases u with
  | enabling b =>
    cases b <;> cases enabled <;>
      simp [transition, apply, UiPlugin.withEnabled, Transition.satisfiedBy, Entity.enabled]
  | scoping s =>
    obtain ⟨provider, tenant⟩ := s
    simp only [transition, apply, UiPlugin.withScope, Transition.satisfiedBy, Entity.scope?,
      UiPlugin.scope, beq_iff_eq, Option.some.injEq, Scope.mk.injEq, UiPlugin.mk.injEq]
    grind

theorem apply_apply (u : Update) (p : UiPlugin) : u.apply (u.apply p) = u.apply p := by
  cases u <;> rfl

theorem apply_id (u : Update) (p : UiPlugin) : (u.apply p).id = p.id := by
  cases u <;> rfl

end Update

-- No transition looks at the members that are no fields.
theorem satisfiedBy_extra (t : Transition) (p : UiPlugin) (es : Members) :
    t.satisfiedBy { p with extra := es } = t.satisfiedBy p := by
  cases t <;> rfl

def replaced (id body : String) (texts : List String) : List String :=
  texts.map fun text => if (plugin? text).any fun p => p.id == id then body else text

namespace Update

def revised (u : Update) (sent : List UiPlugin) (text : String) : String :=
  match plugin? text with
  | some p => if p ∈ sent then (u.apply p).toValue.text else text
  | none => text

/-- What a stored plugin is read as after the update of some plugins. -/
def becomes? (u : Update) (sent : List UiPlugin) (p : UiPlugin) : Option UiPlugin :=
  if p ∈ sent then (u.apply p).reread memberDepth else some p

def changed (u : Update) (sent : List UiPlugin) (p : UiPlugin) : UiPlugin :=
  if p ∈ sent then u.apply p else p

variable {sent ps : List UiPlugin} {q : UiPlugin}

theorem becomes?_eq_some (became : u.becomes? sent p = some q) :
    q.id = p.id ∧ (p ∉ sent → q = p) ∧
      (p ∈ sent → u.transition.satisfiedBy q = true) := by
  unfold becomes? at became
  split at became
  · next member =>
    obtain ⟨es, -, rfl⟩ := Option.map_eq_some_iff.mp became
    refine ⟨u.apply_id p, fun absent => absurd member absent, fun _ => ?_⟩
    rw [satisfiedBy_extra, satisfiedBy_iff, apply_apply]
  · next absent =>
    obtain rfl := Option.some.inj became
    exact ⟨rfl, fun _ => rfl, fun member => absurd member absent⟩

theorem revised_nil (u : Update) (text : String) : u.revised [] text = text := by
  unfold revised
  split
  · exact if_neg List.not_mem_nil
  · rfl

theorem plugin?_revised (read : plugin? text = some p) :
    plugin? (u.revised sent text) = u.becomes? sent p := by
  simp only [revised, read, becomes?]
  split
  · exact plugin?_text (u.apply_kept (plugin?_kept read))
  · exact read

/-- What is listed after the update of some plugins. -/
theorem mapM_revised (read : texts.mapM plugin? = some ps) (sent : List UiPlugin) :
    (texts.map (u.revised sent)).mapM plugin? = ps.mapM (u.becomes? sent) := by
  have described : List.Forall₂ (fun text p => plugin? text = some p) texts ps :=
    Fallible.mapM_eq_some.mp read
  clear read
  induction described with
  | nil => rfl
  | cons here later ih =>
    rw [List.map_cons, List.mapM_cons, List.mapM_cons, plugin?_revised here, ih]

/-- Every plugin comes back with no more than its update exactly when the updated ones are
legible. -/
theorem mapM_becomes?_iff (within : sent ⊆ ps) :
    ps.mapM (u.becomes? sent) = some (ps.map (u.changed sent)) ↔
      ∀ p ∈ sent, ∀ m ∈ p.extra, m.2.Legible memberDepth := by
  rw [Fallible.mapM_eq_some, List.forall₂_map_right_iff, List.forall₂_same]
  constructor
  · intro each p member
    have same := each p (within member)
    rwa [becomes?, changed, if_pos member, if_pos member, UiPlugin.reread_eq_self_iff,
      apply_extra] at same
  · intro legible p _
    by_cases member : p ∈ sent
    · rw [becomes?, changed, if_pos member, if_pos member, UiPlugin.reread_eq_self_iff, apply_extra]
      exact legible p member
    · rw [becomes?, changed, if_neg member, if_neg member]

theorem mapM_becomes?_nil (u : Update) (ps : List UiPlugin) :
    ps.mapM (u.becomes? []) = some ps := by
  rw [Fallible.mapM_eq_some, List.forall₂_same]
  exact fun p _ => if_neg List.not_mem_nil

/-- One more update, if no two plugins have the same id. -/
theorem replaced_revised (read : texts.mapM plugin? = some ps)
    (distinct : (ps.map UiPlugin.id).Nodup) {e : UiPlugin} (listed : e ∈ ps) (unsent : e ∉ sent) :
    replaced e.id (u.apply e).toValue.text (texts.map (u.revised sent)) =
      texts.map (u.revised (sent ++ [e])) := by
  rw [replaced, List.map_map]
  apply List.map_congr_left
  intro text member
  obtain ⟨p, among, same⟩ := Fallible.mapM_some_mem read member
  have apart : p ≠ e → p.id ≠ e.id :=
    fun other => other ∘ List.inj_on_of_nodup_map distinct among listed
  -- Of the stored texts, the one that holds the id is that of the plugin, revised or not.
  have found : (plugin? (u.revised sent text)).any (fun q => q.id == e.id) = decide (p = e) := by
    rw [plugin?_revised same]
    by_cases this : p = e
    · subst this
      simp [becomes?, unsent]
    · rw [decide_eq_false this]
      cases became : u.becomes? sent p with
      | none => rfl
      | some q => simpa [(becomes?_eq_some became).1] using apart this
  simp only [Function.comp_apply, found, decide_eq_true_eq]
  simp only [revised, same, List.mem_append, List.mem_singleton]
  by_cases this : p = e
  · simp [this]
  · simp [this]

end Update

end ExtensionAdmin.Service.UiPlugins
