import ExtensionAdmin.Console.CommandLine
import ExtensionAdmin.Proofs.Fallible

/-! What is known of a command line that was read. The innermost level is checked when its last word
is read: who names all entities names none by an identifier. -/

namespace ExtensionAdmin.Console

open Fallible (bind_eq_ok)

def Given.Definite (g : Given) : Prop := g.all = true → g.ids = []

theorem finishLevel_definite {l : Level} {inner : Bool} {env : Option String} {g last : Given}
    (finished : finishLevel l inner env g = .ok last) : last.Definite := by
  obtain ⟨settled, -, checked⟩ := bind_eq_ok.mp finished
  simp only [bind, Except.bind, pure, Except.pure, throw, throwThe, MonadExceptOf.throw] at checked
  split at checked
  · cases checked
  split at checked
  · split at checked <;> cases checked
  split at checked
  · cases checked
  next definite =>
    have kept : settled = last := by
      split at checked
      · cases checked
      · split at checked
        · cases checked
        · exact Except.ok.inj checked
    rw [← kept]
    intro all
    simpa [all] using definite

theorem readLevel_definite {env : Option String} {l leaf : Level} {afterDashes : Bool} {g : Given}
    {words : List String} {levels : List Given}
    (read : readLevel env l afterDashes g words = .ok (leaf, levels)) :
    ∃ last, levels.getLast? = some last ∧ last.Definite := by
  -- Only the innermost level reads its last word as its own, and there it is checked.
  induction words generalizing l afterDashes g levels with
  | nil =>
    obtain ⟨last, finished, same⟩ := bind_eq_ok.mp read
    cases same
    exact ⟨last, rfl, finishLevel_definite finished⟩
  | cons word rest ih =>
    rw [readLevel] at read
    split at read
    · -- A positional word goes on at the same level.
      split at read
      · split at read
        · cases read
        · exact ih read
      · cases read
    split at read
    -- The word leads to an inner level, which has the innermost one among its own.
    · obtain ⟨⟨leaf, below⟩, inside, rest⟩ := bind_eq_ok.mp read
      obtain ⟨g, -, same⟩ := bind_eq_ok.mp rest
      cases same
      obtain ⟨last, found, definite⟩ := ih inside
      exact ⟨last, by simp [List.getLast?_cons, found], definite⟩
    -- A request for help is a fault; options, their values and targets stay at the level.
    split at read
    · cases read
    split at read
    · exact ih read
    · split at read
      · cases read
      · exact ih read
    · split at read
      · cases read
      · exact ih read
    split at read
    · exact ih read
    · split at read
      · split at read
        · cases read
        · exact ih read
      · cases read

def Invocation.Definite (command : Invocation) : Prop :=
  ∀ verb targets scopes, command.action = .change verb targets scopes →
    verb ≠ .list ∧ (targets.all = true → targets.ids = [])

theorem parseCommand_definite {words : List String} {env : Option String} {command : Invocation}
    (parsed : parseCommand words env = .ok command) : command.Definite := by
  intro verb targets scopes change
  obtain ⟨⟨leaf, levels⟩, read, made⟩ := bind_eq_ok.mp parsed
  obtain ⟨last, found, definite⟩ := readLevel_definite read
  have innermost : levels.getLastD .nothing = last := by
    rw [List.getLastD_eq_getLast?, found, Option.getD_some]
  cases leaf with
  | program | family => cases made
  | action kind wanted =>
    cases made
    simp only [innermost] at change
    by_cases lists : wanted = .list
    · simp [lists] at change
    · rw [if_neg lists] at change
      cases change
      exact ⟨lists, definite⟩

end ExtensionAdmin.Console
