import Mathlib.Data.List.Nodup
import ExtensionAdmin.Proofs.Xml.Building

/-! No element that is read has two attributes of one name. A key is checked against those before it
as soon as its equals sign is read, and is among them from its closing quote on. So the keys of a
tag are distinct, the elements of events have distinct attributes, and so do the elements of the
tree that is built of them. -/

namespace ExtensionAdmin.Xml

open Fallible (bind_eq_ok mapM_eq_ok)

def TagMode.Fresh (known : List (List Char × Nat)) : TagMode → Prop
  | .afterEquals _ name => name ∉ known.map Prod.fst
  | .value _ name _ _ => name ∉ known.map Prod.fst
  | _ => True

theorem fresh_of_firstUse? {key : List Char} {known : List (List Char × Nat)}
    (unused : firstUse? key known = none) : key ∉ known.map Prod.fst := by
  simp only [firstUse?, Option.map_eq_none_iff, List.find?_eq_none] at unused
  intro member
  obtain ⟨k, among, same⟩ := List.mem_map.mp member
  exact unused k among (by simpa using same)

/-- The induction is on what is left of the tag: the keys that it still holds differ from each other
and from those that are known. -/
theorem attributesFrom_distinct (known : List (List Char × Nat)) (pos : Nat) (mode : TagMode)
    (cs : List Char) (distinct : (known.map Prod.fst).Nodup) (fresh : mode.Fresh known) :
    (known.map Prod.fst ++
      (attributesFrom known pos mode cs).attributes.map RawAttribute.key).Nodup := by
  fun_induction attributesFrom known pos mode cs
  case case9 unused ih | case13 unused ih => exact ih distinct (fresh_of_firstUse? unused)
  case case19 ih =>
    have both := And.intro distinct fresh
    have grown := ih (by simpa [List.nodup_append', TagMode.Fresh] using both) trivial
    simpa [RawAttributes.cons] using grown
  case case6 ih | case7 ih | case10 ih | case11 ih | case14 ih | case16 ih | case17 ih | case20 ih =>
    exact ih distinct fresh
  all_goals simpa using distinct

theorem decode_eq_ok {r : RawAttributes} {attributes : List Attribute}
    (decoded : r.decode = .ok attributes) :
    List.Forall₂ (fun raw a => raw.decode = .ok a) r.attributes attributes := by
  obtain ⟨read, each, rest⟩ := bind_eq_ok.mp decoded
  have same : read = attributes := by
    cases fault : r.fault with
    | none => simpa [fault, pure, Except.pure] using rest
    | some f => simp [fault, throw, throwThe, MonadExceptOf.throw] at rest
  exact mapM_eq_ok.mp (same ▸ each)

theorem decode_key {raw : RawAttribute} {a : Attribute} (decoded : raw.decode = .ok a) :
    a.1 = String.ofList raw.key := by
  unfold RawAttribute.decode at decoded
  split at decoded <;> cases decoded
  rfl

theorem decoded_keys {raws : List RawAttribute} {attributes : List Attribute}
    (each : List.Forall₂ (fun raw a => raw.decode = .ok a) raws attributes) :
    attributes.map Prod.fst = (raws.map RawAttribute.key).map String.ofList := by
  induction each with
  | nil => rfl
  | cons here after ih => simp [decode_key here, ih]

theorem tagAttributes_distinct {content : List Char} {attributes : List Attribute}
    (read : tagAttributes content = .ok attributes) : (attributes.map Prod.fst).Nodup := by
  have keys := attributesFrom_distinct [] (Text.byteLength (tagName content)) .between
    (tagRest content) List.nodup_nil trivial
  rw [decoded_keys (decode_eq_ok read)]
  exact keys.map fun _ _ => String.ofList_inj.mp

inductive Node.Distinct : Node → Prop
  | text (content : String) : Distinct (.text content)
  | element {name : String} {attributes : List Attribute} {children : List Node}
      (distinct : (attributes.map Prod.fst).Nodup) (each : ∀ n ∈ children, Distinct n) :
      Distinct (.element name attributes children)
  | document {children : List Node} (each : ∀ n ∈ children, Distinct n) :
      Distinct (.document children)

structure Builder.Distinct (b : Builder) : Prop where
  roots : ∀ n ∈ b.roots, n.Distinct
  frames : ∀ f ∈ b.frames, f.element.Distinct

theorem Builder.Distinct.attach {b : Builder} {n : Node} (built : b.Distinct)
    (added : n.Distinct) : (b.attach n).Distinct := by
  obtain ⟨roots, frames⟩ := built
  unfold Builder.attach
  cases opened : b.frames with
  | nil => exact ⟨List.forall_mem_cons.mpr ⟨added, roots⟩, by simp⟩
  | cons f rest =>
    rw [opened] at frames
    obtain ⟨here, after⟩ := List.forall_mem_cons.mp frames
    have grown : Node.Distinct { f with children := n :: f.children }.element := by
      cases here with
      | element distinct each =>
        apply Node.Distinct.element distinct
        intro m member
        rcases List.mem_cons.mp (List.mem_reverse.mp member) with rfl | member
        · exact added
        · exact each m (List.mem_reverse.mpr member)
    exact ⟨roots, List.forall_mem_cons.mpr ⟨grown, after⟩⟩

def Event.Distinct : Event → Prop
  | .start _ attributes => (attributes.map Prod.fst).Nodup
  | .empty _ attributes => (attributes.map Prod.fst).Nodup
  | _ => True

theorem event_distinct {t : Token} {e : Event} (made : t.event? = .ok (some e)) : e.Distinct := by
  cases t with
  | text raw =>
    obtain ⟨cs, -, same⟩ := textEvent?_eq_ok made
    split at same <;> cases same
    trivial
  | start content =>
    obtain ⟨attributes, read, made⟩ := bind_eq_ok.mp made
    cases made
    exact tagAttributes_distinct read
  | empty content =>
    obtain ⟨attributes, read, made⟩ := bind_eq_ok.mp made
    cases made
    exact tagAttributes_distinct read
  | close => cases made; trivial
  | cdata => cases made; trivial
  | comment => cases made
  | instruction => cases made
  | doctype => cases made

theorem Builder.Distinct.push {b next : Builder} {e : Event} (built : b.Distinct)
    (distinct : e.Distinct) (pushed : b.push e = .ok next) : next.Distinct := by
  cases e with
  | start name attributes =>
    cases pushed
    have opened : (Frame.mk name attributes []).element.Distinct := .element distinct (by simp)
    exact ⟨built.roots, List.forall_mem_cons.mpr ⟨opened, built.frames⟩⟩
  | empty name attributes =>
    cases pushed
    exact built.attach (.element distinct (by simp))
  | close written =>
    obtain ⟨f, frames, opened, rfl⟩ := Builder.close_eq_ok pushed
    have held := built.frames
    rw [opened] at held
    obtain ⟨here, after⟩ := List.forall_mem_cons.mp held
    have closed : Builder.Distinct { b with frames } := ⟨built.roots, after⟩
    exact closed.attach here
  | text content =>
    cases pushed
    exact built.attach (.text content)

theorem Builder.Distinct.take {b next : Builder} {t : Token} (built : b.Distinct)
    (taken : b.take t = .ok next) : next.Distinct := by
  obtain ⟨made, event, taken⟩ := bind_eq_ok.mp taken
  cases made with
  | none =>
    cases taken
    exact built
  | some e => exact built.push (event_distinct event) taken

theorem Builder.Distinct.foldlM {b last : Builder} {ts : List Token} (built : b.Distinct)
    (taken : ts.foldlM Builder.take b = .ok last) : last.Distinct := by
  induction ts generalizing b with
  | nil =>
    cases taken
    exact built
  | cons t ts ih =>
    obtain ⟨next, here, later⟩ := bind_eq_ok.mp taken
    exact ih (built.take here) later

/-- In a document that is read no element has two attributes of one name. -/
theorem Node.read_distinct {cs : List Char} {n : Node} (read : Node.read cs = .ok n) :
    n.Distinct := by
  rw [Node.read_eq] at read
  obtain ⟨last, taken, -, -, rfl⟩ := Scan.into_eq_ok.mp read
  have fresh : Builder.fresh.Distinct := ⟨by simp [Builder.fresh], by simp [Builder.fresh]⟩
  exact .document fun m member => (fresh.foldlM taken).roots m (List.mem_reverse.mp member)

end ExtensionAdmin.Xml
