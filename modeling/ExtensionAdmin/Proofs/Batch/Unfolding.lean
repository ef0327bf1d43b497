import ExtensionAdmin.Batch.Dialogue

/-! The records that a dialogue can leave, whatever its environment replies. An environment answers
from a state of its own. What it can make of a dialogue is described here without it: a dialogue
unfolds into a record and a result if there are replies that lead to them. Every statement about all
environments, all answers and all orders in which requests finish is a statement about all
unfoldings. -/

namespace ExtensionAdmin.Batch

variable {α β γ σ : Type}

/-- There are replies with which a dialogue leaves a record and comes to a result; without a result
it stopped at something to which no reply came. -/
def Dialogue.Unfolds : Dialogue α β → List (Effect α) → Option β → Prop
  | .done x, effects, result => effects = [] ∧ result = some x
  | .enter p next, effects, result =>
      ∃ rest, effects = .entered p :: rest ∧ Unfolds next rest result
  | .ask m next, effects, result =>
      (effects = [.asked m none] ∧ result = none) ∨
      ∃ yes rest, effects = .asked m (some yes) :: rest ∧ Unfolds (next yes) rest result
  | .close next, effects, result => ∃ rest, effects = .closed :: rest ∧ Unfolds next rest result
  | .send e t next, effects, result =>
      (∃ rest, effects = .sent e t :: rest ∧ Unfolds (next none) rest result) ∨
      ∃ v rest, effects = .sent e t :: .finished e t v :: rest ∧ Unfolds (next (some v)) rest result
  | .await underWay t next, effects, result =>
      (effects = [.stalled underWay t] ∧ result = none) ∨
      ∃ i v rest, effects = .finished underWay[i] t v :: rest ∧ Unfolds (next i v) rest result
  | .list next, effects, result =>
      (effects = [.listed none] ∧ result = none) ∨
      ∃ x rest, effects = .listed (some x) :: rest ∧ Unfolds (next x) rest result

open Dialogue (Unfolds)

/-- What is played in an environment is an unfolding. -/
theorem play_unfolds (env : Environment α σ) (d : Dialogue α β) (phase : Phase) (w : σ) :
    d.Unfolds (d.play env phase w).effects (d.play env phase w).result := by
  induction d generalizing phase w with
  | done x => exact ⟨rfl, rfl⟩
  | enter p next ih => exact ⟨_, rfl, ih p w⟩
  | ask m next ih =>
    rcases reply : env.ask m w with ⟨_ | yes, after⟩ <;> simp only [Dialogue.play, reply]
    · exact Or.inl ⟨rfl, rfl⟩
    · exact Or.inr ⟨yes, _, rfl, ih yes phase after⟩
  | close next ih => exact ⟨_, rfl, ih phase _⟩
  | send e t next ih =>
    rcases reply : env.send e t w with ⟨_ | v, after⟩ <;> simp only [Dialogue.play, reply]
    · exact Or.inl ⟨_, rfl, ih none phase after⟩
    · exact Or.inr ⟨v, _, rfl, ih (some v) phase after⟩
  | await underWay t next ih =>
    rcases reply : env.await underWay t w with ⟨_ | ⟨i, v⟩, after⟩ <;>
      simp only [Dialogue.play, reply]
    · exact Or.inl ⟨rfl, rfl⟩
    · exact Or.inr ⟨i, v, _, rfl, ih i v phase after⟩
  | list next ih =>
    rcases reply : env.list w with ⟨_ | x, after⟩ <;> simp only [Dialogue.play, reply]
    · exact Or.inl ⟨rfl, rfl⟩
    · exact Or.inr ⟨x, _, rfl, ih x phase after⟩

theorem mem_after {x y : Effect α} {p : Played α β σ} :
    x ∈ (p.after y).effects ↔ x = y ∨ x ∈ p.effects := List.mem_cons

/-- A request that is answered in one way as soon as it is sent has that answer in the record. -/
theorem answered_at_once {env : Environment α σ} {e : α} {t : Transition} {v : Verdict}
    (prompt : ∀ w, (env.send e t w).1 = some v) (d : Dialogue α β) (phase : Phase) (w : σ)
    (sent : .sent e t ∈ (d.play env phase w).effects) :
    .finished e t v ∈ (d.play env phase w).effects := by
  induction d generalizing phase w with
  | done x => cases sent
  | enter p next ih =>
    simp only [Dialogue.play, mem_after, reduceCtorEq, false_or] at sent ⊢
    exact ih p w sent
  | ask m next ih =>
    rcases reply : env.ask m w with ⟨_ | yes, after⟩ <;> simp only [Dialogue.play, reply] at sent ⊢
    · simp at sent
    · simp only [mem_after, reduceCtorEq, false_or] at sent ⊢
      exact ih yes phase after sent
  | close next ih =>
    simp only [Dialogue.play, mem_after, reduceCtorEq, false_or] at sent ⊢
    exact ih phase _ sent
  | send d u next ih =>
    have now := prompt w
    rcases reply : env.send d u w with ⟨_ | x, after⟩ <;>
      simp only [Dialogue.play, reply, mem_after, reduceCtorEq, false_or, Effect.sent.injEq]
        at sent ⊢
    · rcases sent with ⟨rfl, rfl⟩ | later
      · simp [reply] at now
      · exact ih none phase after later
    · rcases sent with ⟨rfl, rfl⟩ | later
      · obtain rfl : x = v := by simpa [reply] using now
        exact Or.inl rfl
      · exact Or.inr (ih (some x) phase after later)
  | await underWay u next ih =>
    rcases reply : env.await underWay u w with ⟨_ | ⟨i, x⟩, after⟩ <;>
      simp only [Dialogue.play, reply] at sent ⊢
    · simp at sent
    · simp only [mem_after, reduceCtorEq, false_or] at sent ⊢
      exact Or.inr (ih i x phase after sent)
  | list next ih =>
    rcases reply : env.list w with ⟨_ | x, after⟩ <;> simp only [Dialogue.play, reply] at sent ⊢
    · simp at sent
    · simp only [mem_after, reduceCtorEq, false_or] at sent ⊢
      exact ih x phase after sent

def Joined (d : Dialogue α β) (f : β → Dialogue α γ) (effects : List (Effect α))
    (result : Option γ) : Prop :=
  (d.Unfolds effects none ∧ result = none) ∨
  ∃ first x rest, effects = first ++ rest ∧ d.Unfolds first (some x) ∧ (f x).Unfolds rest result

theorem joined_after (lead : List (Effect α)) (d before : Dialogue α β) (f : β → Dialogue α γ)
    (effects : List (Effect α)) (result : Option γ)
    (leads : ∀ rest r, d.Unfolds rest r → before.Unfolds (lead ++ rest) r)
    (joined : Joined d f effects result) : Joined before f (lead ++ effects) result := by
  rcases joined with ⟨stopped, rfl⟩ | ⟨first, x, rest, rfl, ended, follows⟩
  · exact Or.inl ⟨leads _ _ stopped, rfl⟩
  · exact Or.inr ⟨lead ++ first, x, rest, by simp, leads _ _ ended, follows⟩

theorem unfolds_bind (d : Dialogue α β) (f : β → Dialogue α γ) (effects : List (Effect α))
    (result : Option γ) (unfolds : (d >>= f).Unfolds effects result) :
    Joined d f effects result := by
  change (d.bind f).Unfolds effects result at unfolds
  -- By the nodes of the first dialogue: each puts its own effects in front of what follows it.
  induction d generalizing effects with
  | done x => exact Or.inr ⟨[], x, effects, rfl, ⟨rfl, rfl⟩, unfolds⟩
  | enter p next ih =>
    obtain ⟨rest, rfl, follows⟩ := unfolds
    exact joined_after [_] next _ f rest result (fun _ _ h => ⟨_, rfl, h⟩) (ih rest follows)
  | ask m next ih =>
    rcases unfolds with ⟨rfl, rfl⟩ | ⟨yes, rest, rfl, follows⟩
    · exact Or.inl ⟨Or.inl ⟨rfl, rfl⟩, rfl⟩
    · exact joined_after [_] (next yes) _ f rest result (fun _ _ h => Or.inr ⟨yes, _, rfl, h⟩)
        (ih yes rest follows)
  | close next ih =>
    obtain ⟨rest, rfl, follows⟩ := unfolds
    exact joined_after [_] next _ f rest result (fun _ _ h => ⟨_, rfl, h⟩) (ih rest follows)
  | send e t next ih =>
    rcases unfolds with ⟨rest, rfl, follows⟩ | ⟨v, rest, rfl, follows⟩
    · exact joined_after [_] (next none) _ f rest result (fun _ _ h => Or.inl ⟨_, rfl, h⟩)
        (ih none rest follows)
    · exact joined_after [_, _] (next (some v)) _ f rest result
        (fun _ _ h => Or.inr ⟨v, _, rfl, h⟩) (ih (some v) rest follows)
  | await underWay t next ih =>
    rcases unfolds with ⟨rfl, rfl⟩ | ⟨i, v, rest, rfl, follows⟩
    · exact Or.inl ⟨Or.inl ⟨rfl, rfl⟩, rfl⟩
    · exact joined_after [_] (next i v) _ f rest result (fun _ _ h => Or.inr ⟨i, v, _, rfl, h⟩)
        (ih i v rest follows)
  | list next ih =>
    rcases unfolds with ⟨rfl, rfl⟩ | ⟨x, rest, rfl, follows⟩
    · exact Or.inl ⟨Or.inl ⟨rfl, rfl⟩, rfl⟩
    · exact joined_after [_] (next x) _ f rest result (fun _ _ h => Or.inr ⟨x, _, rfl, h⟩)
        (ih x rest follows)

end ExtensionAdmin.Batch
