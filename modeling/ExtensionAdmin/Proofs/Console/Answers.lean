import Mathlib.Tactic.SplitIfs
import ExtensionAdmin.Console.Terminal
import ExtensionAdmin.Proofs.Text.Trim

/-! Answers go to the questions that they were given for. Each question takes one line of the input,
so the question of some number is answered by the line of that number, whatever earlier lines held.
Notices are accepted and take no line, and neither does anything on a terminal that assumes yes.
What becomes of the output makes no difference. -/

namespace ExtensionAdmin.Console

open Batch (Modal)

variable {bytes line rest : List UInt8} {m : Modal} {ms : List Modal} {t u last : Terminal}
  {answers : List Bool}

/-- The lines of an input, without their line feeds. What follows the last line feed is a line if it
is anything at all. -/
def lines (bytes : List UInt8) : List (List UInt8) :=
  let parts := bytes.splitOn 10
  if parts.getLast? = some [] then parts.dropLast else parts

theorem lines_whole (unbroken : 10 ∉ bytes) (filled : bytes ≠ []) : lines bytes = [bytes] := by
  simp [lines, List.splitOn_eq_singleton unbroken, filled]

theorem lines_feed (unbroken : 10 ∉ line) : lines (line ++ 10 :: rest) = line :: lines rest := by
  have parts := List.splitOn_ne_nil 10 rest
  simp only [lines, List.splitOn_append_cons_self_of_not_mem unbroken,
    List.getLast?_cons_of_ne_nil parts, List.dropLast_cons_of_ne_nil parts]
  split <;> rfl

example : lines [0x79, 10, 10, 0xFF] = [[0x79], [], [0xFF]] := by decide

theorem splitLine_whole (unbroken : 10 ∉ bytes) : splitLine bytes = (bytes, []) := by
  induction bytes with
  | nil => rfl
  | cons b bytes ih =>
    obtain ⟨here, later⟩ := not_or.mp (mt List.mem_cons.mpr unbroken)
    rw [splitLine, if_neg (Ne.symm here), ih later]

theorem splitLine_feed (unbroken : 10 ∉ line) :
    splitLine (line ++ 10 :: rest) = (line ++ [10], rest) := by
  induction line with
  | nil => rfl
  | cons b line ih =>
    obtain ⟨here, later⟩ := not_or.mp (mt List.mem_cons.mpr unbroken)
    rw [List.cons_append, splitLine, if_neg (Ne.symm here), ih later]
    rfl

/-- An input without a line feed, or one that is cut at its first. -/
theorem unbroken_or_feed (bytes : List UInt8) :
    10 ∉ bytes ∨ ∃ line rest, 10 ∉ line ∧ bytes = line ++ 10 :: rest := by
  by_cases feed : 10 ∈ bytes
  · obtain ⟨line, rest, cut, unbroken⟩ := List.eq_append_cons_of_mem feed
    exact .inr ⟨line, rest, unbroken, cut⟩
  · exact .inl feed

theorem lines_rest (bytes : List UInt8) : lines (splitLine bytes).2 = (lines bytes).tail := by
  obtain unbroken | ⟨line, rest, unbroken, rfl⟩ := unbroken_or_feed bytes
  · rw [splitLine_whole unbroken]
    by_cases filled : bytes = []
    · subst filled
      rfl
    · rw [lines_whole unbroken filled]
      rfl
  · rw [splitLine_feed unbroken, lines_feed unbroken, List.tail_cons]

theorem decode?_eq_some {text : String} :
    decode? bytes = some text ↔ bytes = text.toList.flatMap String.utf8EncodeChar := by
  have whole : (⟨bytes.toArray⟩ : ByteArray) = text.toList.utf8Encode ↔
      bytes = text.toList.flatMap String.utf8EncodeChar := by
    rw [ByteArray.ext_iff, List.utf8Encode, List.data_toByteArray]
    exact ⟨List.toArray_inj, congrArg _⟩
  rw [← whole, String.utf8Encode_toList, decode?, String.fromUTF8?]
  constructor
  · intro found
    split at found
    · cases found
      rfl
    · cases found
  · intro same
    have valid := text.isValidUTF8
    rw [← same] at valid
    rw [dif_pos valid, Option.some.injEq]
    exact String.toByteArray_inj.mp same

/-- No other character's bytes end with a line feed, since a byte that goes on with a character is
128 at least. -/
theorem utf8EncodeChar_feed {c : Char} (ends : (String.utf8EncodeChar c).getLast? = some 10) :
    c = '\n' := by
  have above (n : Nat) : UInt8.ofNat (n % 64 + 128) ≠ 10 := by
    intro same
    have numbers := congrArg UInt8.toNat same
    simp only [UInt8.toNat_ofNat', UInt8.reduceToNat] at numbers
    omega
  unfold String.utf8EncodeChar at ends
  dsimp only at ends
  split at ends
  case isTrue ascii =>
    have numbers : c.val.toNat % 2 ^ 8 = 10 := congrArg UInt8.toNat (Option.some.inj ends)
    have number : c.val.toNat = 10 := by omega
    exact Char.ext (UInt32.toNat_inj.mp number)
  case isFalse =>
    split_ifs at ends <;> exact absurd (Option.some.inj ends) (above _)

theorem decode?_feed (line : List UInt8) :
    decode? (line ++ [10]) = (decode? line).map (· ++ "\n") := by
  apply Option.ext
  intro text
  rw [Option.map_eq_some_iff, decode?_eq_some]
  constructor
  · intro written
    obtain empty | ⟨cs, c, begins⟩ := List.eq_nil_or_concat' text.toList
    · simp [empty] at written
    -- The bytes of the last character end with a line feed, so they are no more than that.
    · rw [begins, List.flatMap_append, List.flatMap_singleton] at written
      have ends := congrArg List.getLast? written
      rw [List.getLast?_concat, List.getLast?_append_of_ne_nil _ String.utf8EncodeChar_ne_nil]
        at ends
      obtain rfl := utf8EncodeChar_feed ends.symm
      have front : line = cs.flatMap String.utf8EncodeChar := List.append_cancel_right written
      refine ⟨String.ofList cs, decode?_eq_some.mpr (by rw [front, String.toList_ofList]), ?_⟩
      apply String.toList_inj.mp
      rw [String.toList_append, String.toList_ofList, begins]
      rfl
  · rintro ⟨before, decoded, rfl⟩
    rw [decode?_eq_some.mp decoded, String.toList_append, List.flatMap_append]
    rfl

/-- A line that agrees to a question: what is left of its text without white space at its ends is
`y`, `yes` or the label, in any case of ASCII letters. -/
def Agrees (m : Modal) (line : List UInt8) : Prop :=
  ∃ text, decode? line = some text ∧
    ∃ word ∈ ["y", "yes", acceptLabel m], Text.sameIgnoringCase (Text.trimmed text) word = true

theorem accepts_iff : accepts m line = true ↔ line ≠ [] ∧ Agrees m line := by
  cases line with
  | nil => simp [accepts]
  | cons b line =>
    cases decoded : decode? (b :: line) <;>
      simp [accepts, Agrees, isAffirmative, decoded]

/-- The line feed that ends a line makes no difference to it. -/
theorem agrees_feed : Agrees m (line ++ [10]) ↔ Agrees m line := by
  have cut (text : String) : Text.trimmed (text ++ "\n") = Text.trimmed text := by
    have feed : (text ++ "\n").toList = text.toList ++ ['\n'] := String.toList_append
    rw [Text.trimmed, Text.trimmed, feed, Text.trim_concat_blank (by decide)]
  simp only [Agrees, decode?_feed, Option.map_eq_some_iff]
  constructor
  · rintro ⟨_, ⟨text, decoded, rfl⟩, agrees⟩
    exact ⟨text, decoded, by rwa [cut] at agrees⟩
  · rintro ⟨text, decoded, agrees⟩
    exact ⟨_, ⟨text, decoded, rfl⟩, by rwa [cut]⟩

theorem accepts_first_line (bytes : List UInt8) :
    accepts m (splitLine bytes).1 = true ↔
      ∃ line, (lines bytes).head? = some line ∧ Agrees m line := by
  rw [accepts_iff]
  obtain unbroken | ⟨line, rest, unbroken, rfl⟩ := unbroken_or_feed bytes
  · rw [splitLine_whole unbroken]
    by_cases filled : bytes = []
    · subst filled
      simp [lines]
    · simp [lines_whole unbroken filled, filled]
  · simp [splitLine_feed unbroken, lines_feed unbroken, agrees_feed]

/-- A line of nothing but white space agrees to no question with a label. -/
theorem not_agrees_blank {text : String} (labelled : acceptLabel m ≠ "")
    (decoded : decode? line = some text) (blank : Text.blank text = true) : ¬ Agrees m line := by
  rintro ⟨_, again, word, among, same⟩
  obtain rfl := Option.some.inj (decoded.symm.trans again)
  have nothing : Text.trimmed text = "" := by
    rw [Text.trimmed, Text.trim_blank blank]
  have empty : word = "" := by
    rw [nothing] at same
    simpa [Text.sameIgnoringCase, Text.lowered] using same
  subst empty
  simp [labelled.symm] at among

namespace Terminal

def respond (m : Modal) (t : Terminal) : Bool × Terminal :=
  if !m.isQuestion || t.assumeYes then (true, t)
  else
    let t := t.say (prompt m)
    let (line, rest) := splitLine t.input
    (accepts m line, { t with input := rest })

theorem ask_eq (m : Modal) (t : Terminal) : t.ask m = (t.say (announcement m)).respond m := rfl

end Terminal

structure SameInput (t u : Terminal) : Prop where
  assumeYes : u.assumeYes = t.assumeYes
  input : u.input = t.input

theorem SameInput.refl (t : Terminal) : SameInput t t := ⟨rfl, rfl⟩

theorem SameInput.symm (same : SameInput t u) : SameInput u t :=
  ⟨same.assumeYes.symm, same.input.symm⟩

theorem SameInput.trans {v : Terminal} (first : SameInput t u) (second : SameInput u v) :
    SameInput t v :=
  ⟨second.assumeYes.trans first.assumeYes, second.input.trans first.input⟩

theorem say_same (t : Terminal) (text : String) : SameInput t (t.say text) := by
  unfold Terminal.say
  split
  · exact .refl t
  · exact ⟨rfl, rfl⟩

theorem respond_same (m : Modal) (same : SameInput t u) :
    (u.respond m).1 = (t.respond m).1 ∧ SameInput (t.respond m).2 (u.respond m).2 := by
  have said : SameInput (t.say (prompt m)) (u.say (prompt m)) :=
    ((say_same t _).symm.trans same).trans (say_same u _)
  simp only [Terminal.respond, same.assumeYes]
  split
  · exact ⟨rfl, same⟩
  · rw [said.input]
    exact ⟨rfl, said.assumeYes, rfl⟩

def Accepted (t : Terminal) (earlier : Nat) (m : Modal) : Prop :=
  t.assumeYes = true ∨ m.isQuestion = false ∨
    ∃ line, (lines t.input)[earlier]? = some line ∧ Agrees m line

structure Responds (t : Terminal) (m : Modal) (answer : Bool) (next : Terminal) : Prop where
  assumeYes : next.assumeYes = t.assumeYes
  accepted : answer = true ↔ Accepted t 0 m
  read : t.assumeYes = false →
    lines next.input = (lines t.input).drop (if m.isQuestion then 1 else 0)
  unread : t.assumeYes = true ∨ m.isQuestion = false → next.input = t.input

theorem respond_responds (m : Modal) (t : Terminal) :
    Responds t m (t.respond m).1 (t.respond m).2 := by
  have said := say_same t (prompt m)
  unfold Terminal.respond
  split
  case isTrue skipped =>
    rw [Bool.or_eq_true, Bool.not_eq_true'] at skipped
    refine ⟨rfl, iff_of_true rfl ?_, fun asking => ?_, fun _ => rfl⟩
    · obtain notice | assumed := skipped
      · exact .inr (.inl notice)
      · exact .inl assumed
    · obtain notice | assumed := skipped
      · simp [notice]
      · simp [asking] at assumed
  case isFalse asked =>
    obtain ⟨question, asking⟩ : m.isQuestion = true ∧ t.assumeYes = false := by simpa using asked
    refine ⟨said.assumeYes, ?_, fun _ => ?_, ?_⟩
    · simp [said.input, Accepted, question, asking, accepts_first_line, List.head?_eq_getElem?]
    · simp [said.input, question, lines_rest]
    · simp [question, asking]

theorem Responds.of_same {answer : Bool} {next : Terminal} (same : SameInput t u)
    (taken : Responds u m answer next) : Responds t m answer next := by
  obtain ⟨assumes, accepted, read, unread⟩ := taken
  simp only [Accepted, same.assumeYes, same.input] at assumes accepted read unread
  exact ⟨assumes, accepted, read, unread⟩

/-- What is accepted later on. -/
theorem Responds.accepted_later {answer : Bool} {next : Terminal} {later : Modal}
    (taken : Responds t m answer next) (earlier : Nat) :
    Accepted next earlier later ↔ Accepted t (earlier + if m.isQuestion then 1 else 0) later := by
  cases asking : t.assumeYes with
  | true => simp [Accepted, taken.assumeYes, asking]
  | false =>
    rw [Accepted, Accepted, taken.assumeYes, taken.read asking, List.getElem?_drop, Nat.add_comm]

/-- Modals are put to a terminal one after the other. Before anything is written the output may
break or be mended, and others may have written to it. -/
inductive Asked : Terminal → List Modal → List Bool → Terminal → Prop
  | done {t last : Terminal} : SameInput t last → Asked t [] [] last
  | next {t u v last : Terminal} {m : Modal} {ms : List Modal} {answers : List Bool} :
      SameInput t u → SameInput (u.say (announcement m)) v →
      Asked (v.respond m).2 ms answers last →
      Asked t (m :: ms) ((v.respond m).1 :: answers) last

theorem askAll_asked (t : Terminal) (ms : List Modal) :
    Asked t ms (t.askAll ms).1 (t.askAll ms).2 := by
  induction ms generalizing t with
  | nil => exact .done (.refl t)
  | cons m ms ih =>
    have later := ih (t.ask m).2
    rw [Terminal.ask_eq] at later
    exact .next (.refl t) (.refl _) later

/-- Modals are taken in order: the question that comes after so many others is answered by the line
that comes after so many others. -/
structure Aligned (t : Terminal) (ms : List Modal) (answers : List Bool) (last : Terminal) :
    Prop where
  length : answers.length = ms.length
  /-- A notice is accepted, and a question if its line agrees to it. -/
  answered : ∀ before m after, ms = before ++ m :: after →
    ∃ answer, answers[before.length]? = some answer ∧
      (answer = true ↔ Accepted t (before.countP Modal.isQuestion) m)
  /-- Each question takes its line, whatever the line holds, and a notice takes none. -/
  read : t.assumeYes = false →
    lines last.input = (lines t.input).drop (ms.countP Modal.isQuestion)
  unread : t.assumeYes = true → last.input = t.input

theorem aligned_done (same : SameInput t last) : Aligned t [] [] last where
  length := rfl
  answered before m after cut := by simp at cut
  read _ := by simp [same.input]
  unread _ := same.input

theorem aligned_next {answer : Bool} {next : Terminal} (taken : Responds t m answer next)
    (later : Aligned next ms answers last) : Aligned t (m :: ms) (answer :: answers) last where
  length := by simp [later.length]
  answered before n after cut := by
    cases before with
    | nil =>
      obtain ⟨rfl, rfl⟩ := List.cons.inj cut
      exact ⟨answer, rfl, taken.accepted⟩
    | cons first before =>
      obtain ⟨rfl, rest⟩ := List.cons.inj cut
      obtain ⟨answer, given, accepted⟩ := later.answered before n after rest
      refine ⟨answer, by simpa using given, ?_⟩
      rw [accepted, taken.accepted_later, List.countP_cons]
  read asking := by
    have askingLater : next.assumeYes = false := taken.assumeYes.trans asking
    rw [later.read askingLater, taken.read asking, List.drop_drop, List.countP_cons, Nat.add_comm]
  unread assumed := by
    rw [later.unread (taken.assumeYes.trans assumed), taken.unread (.inl assumed)]

theorem asked_aligned (asked : Asked t ms answers last) : Aligned t ms answers last := by
  induction asked with
  | done same => exact aligned_done same
  | @next t u v last m ms answers before within _ ih =>
    -- What becomes of the output before and within a modal leaves its line where it was.
    have unchanged : SameInput t v := (before.trans (say_same u _)).trans within
    exact aligned_next ((respond_responds m v).of_same unchanged) ih

/-- Whatever becomes of the output, the answers are the same, and so is what is left to be read. -/
theorem asked_unaffected (same : SameInput t u) (asked : Asked u ms answers last) :
    answers = (t.askAll ms).1 ∧ SameInput (t.askAll ms).2 last := by
  induction asked generalizing t with
  | done kept => exact ⟨rfl, same.trans kept⟩
  | @next u w v last m ms answers before within _ ih =>
    have there : SameInput t v := ((same.trans before).trans (say_same w _)).trans within
    have reached : SameInput (t.say (announcement m)) v := (say_same t _).symm.trans there
    obtain ⟨answer, next⟩ := respond_same m reached
    obtain ⟨rfl, left⟩ := ih next
    exact ⟨congrArg (· :: _) answer, left⟩

def SaysNothing (line : Option (List UInt8)) : Prop :=
  ∀ bytes ∈ line, ∀ text ∈ decode? bytes, Text.blank text = true

theorem Aligned.declined (aligned : Aligned t ms answers last) {before after : List Modal}
    (cut : ms = before ++ m :: after) (asking : t.assumeYes = false)
    (question : m.isQuestion = true) (labelled : acceptLabel m ≠ "")
    (nothing : SaysNothing (lines t.input)[before.countP Modal.isQuestion]?) :
    answers[before.length]? = some false := by
  obtain ⟨answer, given, accepted⟩ := aligned.answered before m after cut
  have refused : ¬ Accepted t (before.countP Modal.isQuestion) m := by
    rintro (assumed | notice | ⟨line, found, agrees⟩)
    · simp [asking] at assumed
    · simp [question] at notice
    · have ⟨text, decoded, _⟩ := agrees
      exact not_agrees_blank labelled decoded (nothing line found text decoded) agrees
  rw [given, Bool.eq_false_iff.mpr (mt accepted.mp refused)]

structure AnsweredInOrder (t : Terminal) (ms : List Modal) : Prop where
  asked : Asked t ms (t.askAll ms).1 (t.askAll ms).2
  unaffected : ∀ answers last, Asked t ms answers last →
    answers = (t.askAll ms).1 ∧ SameInput (t.askAll ms).2 last
  aligned : ∀ answers last, Asked t ms answers last → Aligned t ms answers last
  declined : ∀ before m after, ms = before ++ m :: after → t.assumeYes = false →
    m.isQuestion = true → acceptLabel m ≠ "" →
    SaysNothing (lines t.input)[before.countP Modal.isQuestion]? →
    (t.askAll ms).1[before.length]? = some false

/-- The answers of a terminal go to the questions that they were given for. -/
theorem answers_in_order (t : Terminal) (ms : List Modal) : AnsweredInOrder t ms where
  asked := askAll_asked t ms
  unaffected _ _ := asked_unaffected (.refl t)
  aligned _ _ := asked_aligned
  declined _ _ _ cut asking question labelled nothing :=
    (asked_aligned (askAll_asked t ms)).declined cut asking question labelled nothing

end ExtensionAdmin.Console
