import ExtensionAdmin.Http.Message
import ExtensionAdmin.Proofs.Json.ObjectText
import ExtensionAdmin.Proofs.Xml.Content
import ExtensionAdmin.Proofs.Xml.Grouping
import ExtensionAdmin.Proofs.Xml.Literal

/-! What is made of the body of a failure. Whether a message is the attribute of an element or the
member of an object, and whatever else the body holds, the message is found and comes back as it
was, if it would not be taken for JSON itself. A failure without a message is told by the phrase for
its status. -/

namespace ExtensionAdmin.Http

open Json (Value Members MembersText)
open Xml (Attribute Content Node Padded Plain)

/-- An error body that reports a message in either format, with white space around it or not: as the
attribute of an element, beside other attributes and around children of other names, or as the last
member of its name in an object that does not nest too deep. -/
inductive Reports (m : String) (body : String) : Prop
  | element {attributes : List Attribute} {children : List Node} {cs : List Char}
      (padded : Padded cs body) (opens : cs.head? = some '<') (closes : cs.getLast? = some '>')
      (content : Content [.element errorName attributes children] cs)
      (told : (messageName, m) ∈ attributes) (others : ∀ c ∈ children, c.name ≠ messageName)
  | object {room : Nat} {before after : Members} {cs : List Char}
      (padded : Padded ('\x7b' :: cs ++ ['\x7d']) body)
      (members : MembersText room (before ++ (messageName, .string m) :: after) cs)
      (last : ∀ x ∈ after, x.1 ≠ messageName)
      (short : (Value.object (before ++ (messageName, .string m) :: after)).depth ≤ Json.maxDepth)

theorem solid_markup {cs : List Char} (opens : cs.head? = some '<')
    (closes : cs.getLast? = some '>') : Text.Solid cs := by
  constructor
  · intro c first
    obtain rfl : '<' = c := by simpa [opens] using first
    rfl
  · intro c last
    obtain rfl : '>' = c := by simpa [closes] using last
    rfl

theorem get?_document (name : String) (attributes : List Attribute) (children : List Node) :
    (Node.document [.element name attributes children]).toValue.get? name =
      some (Node.element name attributes children).toValue := by
  rw [Node.toValue, Node.mergeChildren, Node.mergeChildren]
  simp [Xml.merge, Members.alter, Value.get?, Members.get?, Node.name]

/-- An attribute that shares its name with no other attribute or child is alone under it. -/
theorem get?_element {k raw : String} {attributes : List Attribute} {children : List Node}
    (distinct : (attributes.map Prod.fst).Nodup) (member : (k, raw) ∈ attributes)
    (others : ∀ c ∈ children, c.name ≠ k) (name : String) :
    (Node.element name attributes children).toValue.get? k = some (Xml.literal raw) := by
  obtain ⟨ascending, -⟩ := Xml.get?_attributeMembers attributes
  obtain ⟨-, held⟩ := Node.get?_mergeChildren ascending children
  have none : children.filter (fun c => c.name = k) = [] := by
    simpa [List.filter_eq_nil_iff] using others
  rw [Node.toValue, Value.get?, held, none, List.foldl_nil, Xml.get?_attribute distinct member]

theorem errorMessage?_element {m body : String} (plain : Plain m) {attributes : List Attribute}
    {children : List Node} {cs : List Char} (padded : Padded cs body)
    (opens : cs.head? = some '<') (closes : cs.getLast? = some '>')
    (content : Content [.element errorName attributes children] cs)
    (told : (messageName, m) ∈ attributes) (others : ∀ c ∈ children, c.name ≠ messageName) :
    errorMessage? body = some m := by
  have document := content.parsed (by simp [opens])
  obtain ⟨-, distinct⟩ : Xml.ValidAttributes attributes :=
    content.admitted _ List.mem_cons_self
  have message := get?_element distinct told others errorName
  obtain ⟨rest, rfl⟩ := List.head?_eq_some_iff.mp opens
  rw [errorMessage?, padded.trim (solid_markup opens closes), messageValue?, if_pos rfl, document]
  simp only [Value.at?, get?_document, Option.bind_some, message, Xml.literal_unread plain]
  rfl

/-- In an object the message is looked for in what is read of the text between the white space. -/
theorem errorMessage?_eq {cs : List Char} {body : String}
    (padded : Padded ('\x7b' :: cs ++ ['\x7d']) body) :
    errorMessage? body = ((Json.read? ('\x7b' :: cs ++ ['\x7d'])).bind fun v =>
      v.get? messageName).bind messageText? := by
  have solid : Text.Solid ('\x7b' :: cs ++ ['\x7d']) := Text.solid_enclosed rfl rfl cs
  rw [errorMessage?, padded.trim solid, List.cons_append, messageValue?, if_neg (by decide)]

theorem errorMessage?_object {m body : String} {room : Nat} {before after : Members}
    {cs : List Char} (padded : Padded ('\x7b' :: cs ++ ['\x7d']) body)
    (members : MembersText room (before ++ (messageName, .string m) :: after) cs)
    (last : ∀ x ∈ after, x.1 ≠ messageName)
    (short : (Value.object (before ++ (messageName, .string m) :: after)).depth ≤ Json.maxDepth) :
    errorMessage? body = some m := by
  obtain ⟨v, read, held⟩ := members.read short
  have later : Members.get? messageName after.reverse = none :=
    Members.get?_eq_none fun x member => last x (List.mem_reverse.mp member)
  have message : v.get? messageName = some (.string m) := by
    rw [held, List.reverse_append, List.reverse_cons, Members.get?_append, Members.get?_append,
      later]
    simp [Members.get?, Value.canonical]
  rw [errorMessage?_eq padded, read, Option.bind_some, message]
  rfl

theorem errorMessage?_deep {body : String} {room : Nat} {ms : Members} {cs : List Char}
    (padded : Padded ('\x7b' :: cs ++ ['\x7d']) body) (members : MembersText room ms cs)
    (deep : Json.maxDepth < (Value.object ms).depth) : errorMessage? body = none := by
  rw [errorMessage?_eq padded, Json.read?_deep members.object deep]
  rfl

/-- Nothing is dropped from a text that begins with white space or with another text that has no
byte order mark. -/
theorem bodyText_padded {cs : List Char} {c : Char} {body : String} (padded : Padded cs body)
    (opens : cs.head? = some c) (other : c ≠ '\uFEFF') : bodyText body = body := by
  obtain ⟨before, after, blank, -, spelled⟩ := padded
  obtain ⟨rest, rfl⟩ := List.head?_eq_some_iff.mp opens
  have unmarked : body.toList.head? ≠ some '\uFEFF' := by
    cases before with
    | nil => simpa [spelled] using other
    | cons d before =>
      have space : Text.isBlank d = true := (List.all_eq_true.mp blank) d List.mem_cons_self
      rw [spelled]
      rintro mark
      obtain rfl : d = '\uFEFF' := by simpa using mark
      cases space
  rw [bodyText, Xml.withoutMark_eq unmarked, String.ofList_toList]

theorem Reports.errorMessage? {m body : String} (plain : Plain m) (reported : Reports m body) :
    Http.errorMessage? body = some m := by
  cases reported with
  | element padded opens closes content told others =>
    exact errorMessage?_element plain padded opens closes content told others
  | object padded members last short => exact errorMessage?_object padded members last short

theorem Reports.bodyText {m body : String} (reported : Reports m body) :
    Http.bodyText body = body := by
  cases reported with
  | element padded opens => exact bodyText_padded padded opens (by decide)
  | object padded => exact bodyText_padded padded (by simp) (c := '\x7b') (by decide)

/-- A message is found in either format and is the message of the failure, with the status that was
answered. An object that nests too deep has none. A failure without a message has the phrase for its
status. -/
theorem failure_message :
    (∀ m body, Plain m → Reports m body → errorMessage? body = some m) ∧
    (∀ room ms cs body, Padded ('\x7b' :: cs ++ ['\x7d']) body → MembersText room ms cs →
      Json.maxDepth < (Value.object ms).depth → errorMessage? body = none) ∧
    ∀ r : Response, isSuccess r.status = false →
      (∀ m, Plain m → Reports m r.body → check (.ok r) = .error (.api r.status m)) ∧
      (errorMessage? (bodyText r.body) = none →
        check (.ok r) = .error (.api r.status ((reason? r.status).getD "Request failed"))) := by
  refine ⟨fun m body plain reported => reported.errorMessage? plain,
    fun room ms cs body padded members deep => errorMessage?_deep padded members deep,
    fun r failed => ⟨fun m plain reported => ?_, fun silent => ?_⟩⟩
  · have found := reported.errorMessage? plain
    simp [check, failed, failureMessage, reported.bodyText, found]
  · simp [check, failed, failureMessage, silent]

def complaint : String := " \"R&D\":\n<off> "

def complaintElement : String :=
  "<?xml version='1.0'?>\n<!---->" ++
    "<Error code=\"7\" message=' \"R&amp;D\":&#10;&lt;off> '>see<a/></Error>"

def complaintObject : String :=
  "\x7b\"code\":7, \"message\" : \" \\\"R\\u0026D\\\":\\n<off> \",\"trace\":[null]\x7d\n"

theorem complaint_plain : Plain complaint := by
  rw [Plain]
  cbv

theorem complaintElement_reports : Reports complaint complaintElement := by
  have noGap : Xml.Gap [] := by decide
  have code : Xml.WrittenAttribute ("code", "7") " code=\"7\"".toList :=
    .quoted [' '] [] [] ['7'] '"' (by decide) (by decide) noGap noGap (by decide) (by decide) rfl
  have read : Xml.unescape " \"R&amp;D\":&#10;&lt;off> ".toList = .ok complaint.toList := rfl
  have message : Xml.WrittenAttribute (messageName, complaint)
      " message=' \"R&amp;D\":&#10;&lt;off> '".toList :=
    .quoted [' '] [] [] " \"R&amp;D\":&#10;&lt;off> ".toList '\'' (by decide) (by decide) noGap
      noGap (by decide) (by decide) read
  have tag : Xml.WrittenTag errorName [("code", "7"), (messageName, complaint)]
      "Error code=\"7\" message=' \"R&amp;D\":&#10;&lt;off> '".toList :=
    ⟨_, .cons code (.cons message (.nil noGap)), rfl⟩
  have link : Content [.element "a" [] []] "<a/>".toList :=
    .empty (by decide) (by decide) (Xml.tagContent_spelled "a" []).written .nil
  have inside : Content [.text "see", .element "a" [] []] ("see".toList ++ "<a/>".toList) :=
    .text (by decide) (by decide) (show Xml.unescape "see".toList = .ok "see".toList by rfl)
      (by simp) link
  have element := Content.element (by decide) (by decide) tag inside noGap .nil
  have declared : "xml version='1.0'".toList ≠ [] := by decide
  have content := Content.instruction declared (by decide) <|
    .text (by decide) (by decide) (show Xml.unescape ['\n'] = .ok ['\n'] by rfl) (by simp) <|
    .comment (show ¬['-', '-'] <:+: [] by decide) element
  exact .element ⟨[], [], rfl, rfl, by cbv⟩ (by decide) (by decide) content
    (by simp) (by decide)

theorem complaintObject_reports : Reports complaint complaintObject := by
  have trace : MembersText 1 [("trace", .array [.null])]
      ("\"trace\"".toList ++ ':' :: "[null]".toList) := .single (by cbv) (by cbv)
  have message : MembersText 1 [(messageName, .string complaint), ("trace", .array [.null])]
      (" \"message\" ".toList ++ ':' :: " \" \\\"R\\u0026D\\\":\\n<off> \"".toList ++ ',' :: _) :=
    .cons (by cbv) (by decide +kernel) trace
  have members : MembersText 1
      ([("code", .number (.int 7))] ++
        (messageName, .string complaint) :: [("trace", .array [.null])])
      ("\"code\"".toList ++ ':' :: "7".toList ++ ',' :: _) := .cons (by cbv) rfl message
  exact .object ⟨[], ['\n'], rfl, rfl, by cbv⟩ members (by decide) (by decide)

def nested : Nat → Value
  | 0 => .array []
  | n + 1 => .array [nested n]

theorem nested_whole (n : Nat) : (nested n).Whole := by
  induction n with
  | zero => exact .array (by simp)
  | succ n ih => exact .array (by simpa using ih)

theorem nested_depth (n : Nat) : (nested n).depth = n + 1 := by
  induction n with
  | zero => rfl
  | succ n ih => simp [nested, Value.depth, Value.depthItems, ih]

theorem nested_render (n : Nat) :
    (nested n).render = List.replicate (n + 1) '[' ++ List.replicate (n + 1) ']' := by
  induction n with
  | zero => rfl
  | succ n ih =>
    have opening : List.replicate (n + 1 + 1) '[' = '[' :: List.replicate (n + 1) '[' :=
      List.replicate_succ
    have closing : List.replicate (n + 1 + 1) ']' = List.replicate (n + 1) ']' ++ [']'] :=
      List.replicate_succ'
    rw [opening, closing, nested, Value.render, Value.renderItems, ih]
    simp

theorem nested_read (n : Nat) : Json.readWithin? (n + 1) (nested n).render = some (nested n) := by
  rw [(nested_whole n).readWithin?_render, nested_depth, if_pos (Nat.le_refl (n + 1))]

theorem string_read {cs : List Char} {s : String} (read : Json.readWithin? 0 cs = some (.string s))
    (room : Nat) : Json.readWithin? room cs = some (.string s) := by
  rw [Json.readWithin?_limits read, Value.depth_scalar rfl, if_pos (Nat.zero_le room)]

def deepMembers (n : Nat) : Members := [(messageName, .string "m"), ("trace", nested n)]

def deepBody (n : Nat) : String :=
  String.ofList ("\x7b\"message\":\"m\",\"trace\":".toList ++
    (List.replicate (n + 1) '[' ++ List.replicate (n + 1) ']') ++ ['\x7d'])

theorem deepBody_members (n : Nat) : ∃ cs, MembersText (n + 1) (deepMembers n) cs ∧
    (deepBody n).toList = '\x7b' :: cs ++ ['\x7d'] := by
  have trace : MembersText (n + 1) [("trace", nested n)]
      ("\"trace\"".toList ++ ':' :: (nested n).render) :=
    .single (string_read (by cbv) _) (nested_read n)
  have members : MembersText (n + 1) (deepMembers n)
      ("\"message\"".toList ++ ':' :: "\"m\"".toList ++ ',' :: _) :=
    .cons (string_read (by cbv) _) (string_read (by cbv) _) trace
  have front : "\x7b\"message\":\"m\",\"trace\":".toList = '\x7b' :: ("\"message\"".toList ++
      ':' :: "\"m\"".toList ++ ',' :: ("\"trace\"".toList ++ [':'])) := by decide
  refine ⟨_, members, ?_⟩
  unfold deepBody
  rw [String.toList_ofList, front, nested_render]
  simp only [List.append_assoc, List.cons_append, List.nil_append]

theorem deepBody_padded {n : Nat} {cs : List Char}
    (spelled : (deepBody n).toList = '\x7b' :: cs ++ ['\x7d']) :
    Padded ('\x7b' :: cs ++ ['\x7d']) (deepBody n) :=
  ⟨[], [], rfl, rfl, by rw [spelled, List.nil_append, List.append_nil]⟩

theorem deepMembers_depth (n : Nat) : (Value.object (deepMembers n)).depth = n + 2 := by
  simp [deepMembers, Value.depth, Value.depthMembers, nested_depth]

theorem deepMembers_deep : Json.maxDepth < (Value.object (deepMembers 126)).depth := by
  rw [deepMembers_depth]
  decide

/-- A message is not found when a member beside it nests too deep. -/
theorem deepBody_silent : Plain "m" ∧ (messageName, Value.string "m") ∈ deepMembers 126 ∧
    (∃ cs, MembersText 127 (deepMembers 126) cs ∧
      (deepBody 126).toList = '\x7b' :: cs ++ ['\x7d']) ∧ errorMessage? (deepBody 126) = none := by
  have plain : Plain "m" := by decide
  obtain ⟨cs, members, spelled⟩ := deepBody_members 126
  exact ⟨plain, List.mem_cons_self, ⟨cs, members, spelled⟩,
    errorMessage?_deep (deepBody_padded spelled) members deepMembers_deep⟩

/-- Both bodies are failures with the complaint as it is. A body that nests too deep has no message,
and a failure without one is told by its status. -/
theorem complaint_failures : Plain complaint ∧ Reports complaint complaintElement ∧
    Reports complaint complaintObject ∧ errorMessage? complaintElement = some complaint ∧
    errorMessage? complaintObject = some complaint ∧ errorMessage? (deepBody 126) = none ∧
    check (.ok ⟨409, complaintElement⟩) = .error (.api 409 complaint) ∧
    check (.ok ⟨400, complaintObject⟩) = .error (.api 400 complaint) ∧
    check (.ok ⟨404, "gone"⟩) = .error (.api 404 "Not Found") ∧
    check (.ok ⟨599, "gone"⟩) = .error (.api 599 "Request failed") := by
  obtain ⟨found, unfound, failures⟩ := failure_message
  obtain ⟨cs, members, spelled⟩ := deepBody_members 126
  have silent : errorMessage? (bodyText "gone") = none := by decide
  exact ⟨complaint_plain, complaintElement_reports, complaintObject_reports,
    found _ _ complaint_plain complaintElement_reports,
    found _ _ complaint_plain complaintObject_reports,
    unfound _ _ _ _ (deepBody_padded spelled) members deepMembers_deep,
    (failures ⟨409, complaintElement⟩ rfl).1 _ complaint_plain complaintElement_reports,
    (failures ⟨400, complaintObject⟩ rfl).1 _ complaint_plain complaintObject_reports,
    (failures ⟨404, "gone"⟩ rfl).2 silent, (failures ⟨599, "gone"⟩ rfl).2 silent⟩

end ExtensionAdmin.Http
