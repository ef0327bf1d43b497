import ExtensionAdmin.Proofs.Batch.History

/-! Selecting by identifiers. An identifier stands for the first entity of that key and, only if no
entity has the key, for the first of that name. A selection takes what the identifiers stand for,
one after another and each key once; if one of them stands for nothing, it is reported and nothing
changes. So the keys of listed entities select those entities, whatever the names of others are. -/

namespace ExtensionAdmin.Batch

variable {α σ : Type} [Entity α]

inductive Denotes (es : List α) (ident : String) : α → Prop where
  | byKey {before after : List α} {e : α} (listed : es = before ++ e :: after)
      (key : Entity.key e = ident) (first : ∀ x ∈ before, Entity.key x ≠ ident) :
      Denotes es ident e
  | byName {before after : List α} {e : α} (unkeyed : ∀ x ∈ es, Entity.key x ≠ ident)
      (listed : es = before ++ e :: after) (name : Entity.name e = ident)
      (first : ∀ x ∈ before, Entity.name x ≠ ident) : Denotes es ident e

theorem find?_eq_some_iff {i : Inventory α} {ident : String} {e : α} :
    i.find? ident = some e ↔ Denotes i.entities ident e := by
  unfold Inventory.find?
  -- Keys are looked at first, and names only if no key matches.
  constructor
  · intro found
    split at found
    next x byKey =>
      obtain rfl := Option.some.inj found
      obtain ⟨key, before, after, listed, first⟩ := List.find?_eq_some_iff_append.mp byKey
      exact .byKey listed (by simpa using key) (by simpa using first)
    next byKey =>
      obtain ⟨name, before, after, listed, first⟩ := List.find?_eq_some_iff_append.mp found
      exact .byName (by simpa using byKey) listed (by simpa using name) (by simpa using first)
  · intro denotes
    cases denotes with
    | byKey listed key first =>
      have byKey : (i.entities.find? fun x => Entity.key x == ident) = some e :=
        List.find?_eq_some_iff_append.mpr ⟨by simpa using key, _, _, listed, by simpa using first⟩
      rw [byKey]
    | byName unkeyed listed name first =>
      have byKey : (i.entities.find? fun x => Entity.key x == ident) = none := by
        simpa using unkeyed
      have byName : (i.entities.find? fun x => Entity.name x == ident) = some e :=
        List.find?_eq_some_iff_append.mpr ⟨by simpa using name, _, _, listed, by simpa using first⟩
      rw [byKey, byName]

/-- In a list without repeated keys the key of an entity stands for it. -/
theorem denotes_key {es : List α} (distinct : (es.map Entity.key).Nodup) {e : α} (member : e ∈ es) :
    Denotes es (Entity.key e) e := by
  obtain ⟨before, after, rfl⟩ := List.append_of_mem member
  apply Denotes.byKey rfl rfl
  intro x earlier same
  rw [List.map_append, List.map_cons, List.nodup_append] at distinct
  exact distinct.2.2 _ (List.mem_map_of_mem earlier) _ List.mem_cons_self same

def sameKey (x e : α) : Bool := Entity.key e == Entity.key x

/-- Adding entities one by one leaves out those of a key that is there already. -/
theorem foldl_addNew (selected es : List α) : es.foldl Inventory.addNew selected =
    selected ++ (es.filter fun e => !holdsKey selected (Entity.key e)).eraseDupsBy sameKey := by
  induction es generalizing selected with
  | nil => simp
  | cons e es ih =>
    rw [List.foldl_cons, ih]
    by_cases there : holdsKey selected (Entity.key e) = true
    · have same : Inventory.addNew selected e = selected := if_pos there
      rw [same, List.filter_cons_of_neg (by simp [there])]
    · have more : Inventory.addNew selected e = selected ++ [e] := if_neg there
      -- What is left out because of `e` is left out by the two filters on the right.
      have left_out : (es.filter fun x => !holdsKey (selected ++ [e]) (Entity.key x)) =
          (es.filter fun x => !holdsKey selected (Entity.key x)).filter fun x => !sameKey x e := by
        rw [List.filter_filter]
        apply List.filter_congr
        intro x _
        simp [holdsKey, sameKey, Bool.and_comm]
      rw [more, left_out, List.filter_cons_of_pos (by simpa using there), List.eraseDupsBy_cons]
      simp

theorem collect_denoted {i : Inventory α} {idents : List String} {es : List α}
    (denoted : List.Forall₂ (Denotes i.entities) idents es) (selected : List α) :
    i.collect selected idents = .ok (es.foldl Inventory.addNew selected) := by
  induction denoted generalizing selected with
  | nil => rfl
  | cons denotes rest ih =>
    simp only [Inventory.collect, find?_eq_some_iff.mpr denotes]
    apply ih

/-- The entities of identifiers are selected in their order, each key once. -/
theorem select_denoted {i : Inventory α} {idents : List String} {es : List α}
    (denoted : List.Forall₂ (Denotes i.entities) idents es) :
    i.select idents = .ok { i with selected := es.eraseDupsBy sameKey } := by
  have all : (es.filter fun e => !holdsKey ([] : List α) (Entity.key e)) = es :=
    List.filter_eq_self.mpr fun _ _ => rfl
  rw [Inventory.select, collect_denoted denoted, foldl_addNew, all, List.nil_append]
  rfl

theorem denoted_each {es : List α} {idents : List String}
    (known : ∀ ident ∈ idents, ∃ e, Denotes es ident e) :
    ∃ chosen, List.Forall₂ (Denotes es) idents chosen := by
  induction idents with
  | nil => exact ⟨[], .nil⟩
  | cons ident idents ih =>
    obtain ⟨here, later⟩ := List.forall_mem_cons.mp known
    obtain ⟨e, denotes⟩ := here
    obtain ⟨chosen, rest⟩ := ih later
    exact ⟨e :: chosen, .cons denotes rest⟩

omit [Entity α] in
theorem eraseDupsBy_distinct {r : α → α → Bool} {es : List α}
    (distinct : es.Pairwise fun e x => r x e = false) : es.eraseDupsBy r = es := by
  induction distinct with
  | nil => rfl
  | cons other _ ih =>
    rw [List.eraseDupsBy_cons, List.filter_eq_self.mpr (by simpa using other), ih]

theorem select_keys {i : Inventory α} (distinct : (i.entities.map Entity.key).Nodup) {es : List α}
    (listed : ∀ e ∈ es, e ∈ i.entities) (once : es.Nodup) :
    i.select (es.map Entity.key) = .ok { i with selected := es } := by
  have denoted : List.Forall₂ (Denotes i.entities) (es.map Entity.key) es := by
    rw [List.forall₂_map_left_iff, List.forall₂_same]
    intro e member
    exact denotes_key distinct (listed e member)
  -- Two listed entities of one key are the same, so none of the chosen is left out.
  have apart : es.Pairwise fun e x => sameKey x e = false := by
    apply once.imp_of_mem
    intro e x member other unlike
    rw [sameKey, beq_eq_false_iff_ne]
    intro same
    exact unlike (List.inj_on_of_nodup_map distinct (listed e member) (listed x other) same)
  rw [select_denoted denoted, eraseDupsBy_distinct apart]

structure Chooses (s : Session α) (w : σ) (idents : List String)
    (after : Reply × Session α × σ) : Prop where
  /-- If every identifier stands for an entity, these are selected, later ones of a key left out. -/
  chosen : (∀ ident ∈ idents, ∃ e, Denotes s.inventory.entities ident e) →
    ∃ es, List.Forall₂ (Denotes s.inventory.entities) idents es ∧ after =
      (.done, { s with inventory := { s.inventory with selected := es.eraseDupsBy sameKey } }, w)
  /-- If not, the first one that stands for nothing is reported, and all is as it was. -/
  refused : ¬ (∀ ident ∈ idents, ∃ e, Denotes s.inventory.entities ident e) →
    ∃ before ident rest, idents = before ++ ident :: rest ∧
      (∀ known ∈ before, ∃ e, Denotes s.inventory.entities known e) ∧
      (∀ e, ¬ Denotes s.inventory.entities ident e) ∧
      after = (.failed (.notFound s!"{(Entity.kind α).singular} '{ident}'"), s, w)
  /-- Where keys are not repeated they select their entities, each of which is named once. -/
  keyed : (s.inventory.entities.map Entity.key).Nodup → ∀ es : List α, es.Nodup →
    (∀ e ∈ es, e ∈ s.inventory.entities) → idents = es.map Entity.key →
    after = (.done, { s with inventory := { s.inventory with selected := es } }, w)

/-- Selecting by identifiers is exact, and all or nothing. -/
theorem identifiers_choose (env : Environment α σ) (supports : Transition → Bool) (s : Session α)
    (w : σ) (idents : List String) :
    Chooses s w idents (s.perform env supports w (.select idents)) := by
  constructor
  case chosen =>
    intro known
    obtain ⟨es, denoted⟩ := denoted_each known
    exact ⟨es, denoted, by simp only [Session.perform, select_denoted denoted]⟩
  case refused =>
    intro unknown
    push Not at unknown
    obtain ⟨ident, member, nothing⟩ := unknown
    have absent : s.inventory.find? ident = none :=
      Option.eq_none_iff_forall_ne_some.mpr fun e found => nothing e (find?_eq_some_iff.mp found)
    obtain ⟨before, first, rest, same, known, none, failed⟩ := collect_unknown [] member absent
    refine ⟨before, first, rest, same, ?_, ?_, ?_⟩
    · intro known_ident among
      obtain ⟨e, found⟩ := Option.ne_none_iff_exists'.mp (known known_ident among)
      exact ⟨e, find?_eq_some_iff.mp found⟩
    · intro e denotes
      rw [find?_eq_some_iff.mpr denotes] at none
      cases none
    · simp [Session.perform, Inventory.select, failed, Except.map]
  case keyed =>
    rintro distinct es once listed rfl
    simp only [Session.perform, select_keys distinct listed once]

-- A key counts before a name, also before that of an entity further ahead.
example : (Inventory.mk [{ service "a" true with name := "b" }, service "b" true] []).select
    ["b", "a", "b"] = .ok ⟨[{ service "a" true with name := "b" }, service "b" true],
      [service "b" true, { service "a" true with name := "b" }]⟩ := rfl

end ExtensionAdmin.Batch
