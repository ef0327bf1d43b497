import ExtensionAdmin.Proofs.Service.Listing
import ExtensionAdmin.Proofs.Xml.Distinct
import ExtensionAdmin.Proofs.Xml.Spelling

/-! What an update says of the service that it is for. An update is read as the fields of the record
that it was written for, whatever characters these are made of, and its text determines them. The
record has what the attributes of its row were taken for as values, made texts again; so the update
says what the row said exactly where that changes nothing. -/

namespace ExtensionAdmin.Service.ApiExtensions

open Json (Members Value)
open ServiceRecord (listName rowName)
open Xml (Attribute Filler Gap Node Spelled SpelledText ValidAttributes ValidName)
open Fallible (bind_eq_ok mapM_ok_mem mapError_eq_ok)

def shown (name text : String) : Node :=
  .element name [] (if Text.blank text then [] else [.text text])

def shownUpdate (name nameSpace routingKey exchange : String) (enabled : Bool) : Node :=
  .document [
    .element "vmext:Service"
      [("xmlns", apiNamespace), ("xmlns:vmext", extensionNamespace), ("name", name)]
      [shown "vmext:Namespace" nameSpace,
        shown "vmext:Enabled" (if enabled then "true" else "false"),
        shown "vmext:RoutingKey" routingKey,
        shown "vmext:Exchange" exchange]]

theorem field_spelled {name : String} (named : ValidName name) (text : String)
    {siblings : List Node} {rest : List Char} (others : Spelled siblings rest) :
    Spelled (shown name text :: siblings) ((field name text).render ++ rest) := by
  have tag := Xml.tagContent_spelled name []
  have none : Gap [] := by decide
  have admitted : ValidAttributes [] := by decide
  by_cases blank : Text.blank text = true
  · have inside : Spelled [] (Xml.escape text.toList ++ []) := by
      apply Spelled.nil
      exact .space (Xml.not_mem_escape (by decide) _) (Xml.unescape_escape _) blank .nil
    have spelled := Spelled.element .nil named admitted tag inside none others
    simpa [shown, blank, field, Node.render, Node.renderList, Xml.startTag, Xml.endTag]
      using spelled
  · have spelled := Spelled.text .nil named admitted tag (by simpa using blank)
      SpelledText.escaped none others
    simpa [shown, blank, field, Node.render, Node.renderList, Xml.startTag, Xml.endTag]
      using spelled

theorem declaration_filler : Filler Xml.declaration := by
  have spelled : Filler
      ('<' :: '?' :: "xml version=\"1.0\" encoding=\"UTF-8\"".toList ++ ['?', '>']) :=
    .instruction (by decide) (by decide) .nil
  exact spelled

theorem update_admitted (name : String) : ValidAttributes
    [("xmlns", apiNamespace), ("xmlns:vmext", extensionNamespace), ("name", name)] := by
  constructor
  · simp only [List.forall_mem_cons]
    exact ⟨by decide, by decide, by decide, by simp⟩
  · simp

theorem update_read (r : ServiceRecord) (enabled : Bool) : Node.parse (updateDocument r enabled) =
    .ok (shownUpdate r.name r.nameSpace r.routingKey r.exchange enabled) := by
  apply Spelled.parsed
  have named : ValidName "vmext:Service" := by decide
  have inside := field_spelled (show ValidName "vmext:Namespace" by decide) r.nameSpace <|
    field_spelled (show ValidName "vmext:Enabled" by decide) (if enabled then "true" else "false") <|
    field_spelled (show ValidName "vmext:RoutingKey" by decide) r.routingKey <|
    field_spelled (show ValidName "vmext:Exchange" by decide) r.exchange <| .nil .nil
  have spelled := Spelled.element declaration_filler named (update_admitted r.name)
    (Xml.tagContent_spelled _ _) inside (show Gap [] by decide) (.nil .nil)
  simpa [updateDocument, Node.toXml, Node.write, updateNode, Node.render, Node.renderList,
    Xml.startTag, Xml.endTag] using spelled

/-- What is left of an attribute in a text field of a record. -/
def taken (raw : String) : String :=
  (Xml.literal raw).toLenientText

theorem shown_taken_iff (name raw : String) :
    shown name (taken raw) = shown name raw ↔ Xml.survives raw = true := by
  rw [← Xml.literal_text_eq_iff]
  constructor
  · intro same
    by_cases blank : Text.blank raw = true
    · exact (Xml.literal_text_eq_iff raw).mpr (Xml.survives_of_blank blank)
    · by_cases gone : Text.blank (taken raw) = true
      · simp [shown, blank, gone] at same
      · have kept : taken raw = raw := by simpa [shown, blank, gone] using same
        exact kept
  · intro same
    rw [taken, same]

theorem required_text {ms : Members} {name field : String} {v : Value}
    (held : ms.get? name = some v) (read : ms.required name ServiceRecord.text = .ok field) :
    field = v.toLenientText := by
  rw [Members.required, held] at read
  exact (Except.ok.inj read).symm

theorem optional_text {ms : Members} {name default field : String} {v : Value}
    (held : ms.get? name = some v)
    (read : ms.optional name default ServiceRecord.text = .ok field) :
    field = v.toLenientText := by
  rw [Members.optional, held] at read
  exact (Except.ok.inj read).symm

/-- The text fields of a record that is read from a row are what its attributes are taken for. -/
theorem row_taken {fields : List Attribute} {r : ServiceRecord}
    {name nameSpace routingKey exchange : String}
    (distinct : (fields.map Prod.fst).Nodup)
    (read : recordOf (Node.element rowName fields []).toValue = .ok r)
    (named : ("name", name) ∈ fields) (spaced : ("namespace", nameSpace) ∈ fields)
    (routed : ("routingKey", routingKey) ∈ fields) (exchanged : ("exchange", exchange) ∈ fields) :
    r.name = taken name ∧ r.nameSpace = taken nameSpace ∧ r.routingKey = taken routingKey ∧
      r.exchange = taken exchange := by
  have held := fun {k raw} (member : (k, raw) ∈ fields) => Xml.get?_attribute distinct member
  have fromMembers : ServiceRecord.ofMembers (Xml.attributeMembers fields) = .ok r :=
    mapError_eq_ok.mp read
  simp only [ServiceRecord.ofMembers, bind_eq_ok] at fromMembers
  obtain ⟨-, -, _, -, _, readName, _, readSpace, _, -, _, readExchange, _, readKey, _, -, _, -,
    same⟩ := fromMembers
  cases same
  exact ⟨required_text (held named) readName, optional_text (held spaced) readSpace,
    optional_text (held routed) readKey, optional_text (held exchanged) readExchange⟩

theorem shownUpdate_taken_iff (name nameSpace routingKey exchange : String) (enabled : Bool) :
    shownUpdate (taken name) (taken nameSpace) (taken routingKey) (taken exchange) enabled =
      shownUpdate name nameSpace routingKey exchange enabled ↔
    Xml.survives name = true ∧ Xml.survives nameSpace = true ∧ Xml.survives routingKey = true ∧
      Xml.survives exchange = true := by
  have kept : taken name = name ↔ Xml.survives name = true := Xml.literal_text_eq_iff name
  simp [shownUpdate, kept, shown_taken_iff]

/-- The record of a row without children is read from it alone, and the update that is written for
that record shows what the attributes of the row were taken for. It shows the attributes as they
are exactly when each of them survives being taken for a value. -/
theorem update_shows_row {listing : String} {tops children : List Node}
    {attributes fields : List Attribute} {records : List ServiceRecord}
    {name nameSpace routingKey exchange : String}
    (parsed : Node.parse listing = .ok (.document tops))
    (only : tops.filter (fun n => n.name = listName) = [.element listName attributes children])
    (listed : readRecords listing = .ok records) (row : .element rowName fields [] ∈ children)
    (named : ("name", name) ∈ fields) (spaced : ("namespace", nameSpace) ∈ fields)
    (routed : ("routingKey", routingKey) ∈ fields) (exchanged : ("exchange", exchange) ∈ fields) :
    ∃ r ∈ records, recordOf (Node.element rowName fields []).toValue = .ok r ∧ ∀ enabled,
      Node.parse (updateDocument r enabled) = .ok (shownUpdate (taken name) (taken nameSpace)
        (taken routingKey) (taken exchange) enabled) ∧
      (Node.parse (updateDocument r enabled) =
          .ok (shownUpdate name nameSpace routingKey exchange enabled) ↔
        Xml.survives name = true ∧ Xml.survives nameSpace = true ∧
          Xml.survives routingKey = true ∧ Xml.survives exchange = true) := by
  have distinct : (fields.map Prod.fst).Nodup := by
    have list : .element listName attributes children ∈ tops :=
      (List.mem_filter.mp (only ▸ List.mem_singleton_self _)).1
    cases Node.read_distinct parsed with
    | document each =>
      cases each _ list with
      | element _ each =>
        cases each _ row with
        | element distinct _ => exact distinct
  have read : ofQuery (Node.document tops).toValue = .ok records := by
    rw [← listed, readRecords, Xml.readValue, parsed]
    rfl
  rw [ofQuery_document only] at read
  have listedRow : .element rowName fields [] ∈ children.filter fun n => n.name = rowName :=
    List.mem_filter.mpr ⟨row, by simp [Node.name]⟩
  obtain ⟨r, member, own⟩ := mapM_ok_mem read
    (List.mem_append_right _ (List.mem_map_of_mem listedRow))
  refine ⟨r, member, own, fun enabled => ?_⟩
  obtain ⟨sameName, sameSpace, sameKey, sameExchange⟩ :=
    row_taken distinct own named spaced routed exchanged
  have shows := update_read r enabled
  rw [sameName, sameSpace, sameKey, sameExchange] at shows
  constructor
  · exact shows
  · rw [shows, Except.ok.injEq]
    exact shownUpdate_taken_iff name nameSpace routingKey exchange enabled

def reports : List Attribute :=
  [("name", "2024"), ("namespace", "local.reports"), ("exchange", " "), ("routingKey", "[1]"),
    ("href", "/service/2")]

def reportsRecord : ServiceRecord :=
  ⟨"/service/2", "2024", "local.reports", false, " ", "[1]", 0, false⟩

def reportsListing : String :=
  "<QueryResultRecords><AdminServiceRecord name='2024' namespace='local.reports' exchange=' '" ++
    " routingKey='[1]' href='/service/2'/></QueryResultRecords>"

theorem reports_name : Xml.literal "2024" = .number (.int 2024) := by
  rw [Xml.literal_eq "2024" (.number (.int 2024)) rfl]
  simp [Value.canonical]

theorem reports_routingKey : Xml.literal "[1]" = .array [.number (.int 1)] := by
  rw [Xml.literal_eq "[1]" (.array [.number (.int 1)]) rfl]
  simp [Value.canonical, Value.canonicalItems]

theorem reports_members : Xml.attributeMembers reports =
    [("exchange", .string " "), ("href", .string "/service/2"), ("name", .number (.int 2024)),
      ("namespace", .string "local.reports"), ("routingKey", .array [.number (.int 1)])] := by
  simp only [reports, Xml.attributeMembers, List.foldl_cons, List.foldl_nil, reports_name,
    reports_routingKey]
  rfl

theorem reports_recordOf :
    recordOf (Node.element rowName reports []).toValue = .ok reportsRecord := by
  rw [Node.toValue, Node.mergeChildren, reports_members]
  rfl

theorem reports_shown : Node.parse reportsListing = .ok (alone (.element rowName reports [])) ∧
    readRecords reportsListing = .ok [reportsRecord] ∧
    ∃ r ∈ [reportsRecord], ∀ enabled, Node.parse (updateDocument r enabled) =
      .ok (shownUpdate "2024" "local.reports" "[1]" " " enabled) := by
  have parsed : Node.parse reportsListing = .ok (alone (.element rowName reports [])) := by
    decide +kernel
  have listed : readRecords reportsListing = .ok [reportsRecord] := by
    rw [readRecords_alone rfl parsed, reports_recordOf]
    rfl
  obtain ⟨r, member, -, shows⟩ := update_shows_row parsed rfl listed List.mem_cons_self
    (show ("name", "2024") ∈ reports by decide)
    (show ("namespace", "local.reports") ∈ reports by decide)
    (show ("routingKey", "[1]") ∈ reports by decide) (show ("exchange", " ") ∈ reports by decide)
  refine ⟨parsed, listed, r, member, fun enabled => (shows enabled).2.mpr ?_⟩
  simp only [← Xml.literal_text_eq_iff, reports_name, reports_routingKey]
  decide +kernel

def literals : List Attribute :=
  [("name", "null"), ("namespace", " 2024"), ("exchange", "[1, 2]"), ("routingKey", "\"ops\""),
    ("href", "/service/1")]

def literalsRecord : ServiceRecord :=
  ⟨"/service/1", "", "2024", false, "[1,2]", "ops", 0, false⟩

def literalsListing : String :=
  "<QueryResultRecords><AdminServiceRecord name='null' namespace=' 2024' exchange='[1, 2]'" ++
    " routingKey='&quot;ops&quot;' href='/service/1'/></QueryResultRecords>"

theorem literals_members : Xml.attributeMembers literals =
    [("exchange", .array [.number (.int 1), .number (.int 2)]), ("href", .string "/service/1"),
      ("name", .null), ("namespace", .number (.int 2024)), ("routingKey", .string "ops")] := by
  have name : Xml.literal "null" = .null := by
    rw [Xml.literal_eq "null" .null rfl]
    simp [Value.canonical]
  have nameSpace : Xml.literal " 2024" = .number (.int 2024) := by
    rw [Xml.literal_eq " 2024" (.number (.int 2024)) rfl]
    simp [Value.canonical]
  have exchange : Xml.literal "[1, 2]" = .array [.number (.int 1), .number (.int 2)] := by
    rw [Xml.literal_eq "[1, 2]" (.array [.number (.int 1), .number (.int 2)]) rfl]
    simp [Value.canonical, Value.canonicalItems]
  have routingKey : Xml.literal "\"ops\"" = .string "ops" := by
    rw [Xml.literal_eq "\"ops\"" (.string "ops") rfl]
    simp [Value.canonical]
  simp only [literals, Xml.attributeMembers, List.foldl_cons, List.foldl_nil, name, nameSpace,
    exchange, routingKey]
  rfl

/-- An update for that service shows no attribute as it was listed; its name is gone. -/
theorem literals_rewritten :
    Node.parse literalsListing = .ok (alone (.element rowName literals [])) ∧
    readRecords literalsListing = .ok [literalsRecord] ∧ ∀ enabled,
      Node.parse (updateDocument literalsRecord enabled) ≠
        .ok (shownUpdate "null" " 2024" "\"ops\"" "[1, 2]" enabled) := by
  have parsed : Node.parse literalsListing = .ok (alone (.element rowName literals [])) := by
    decide +kernel
  have decoded : recordOf (Node.element rowName literals []).toValue = .ok literalsRecord := by
    rw [Node.toValue, Node.mergeChildren, literals_members]
    rfl
  have listed : readRecords literalsListing = .ok [literalsRecord] := by
    rw [readRecords_alone rfl parsed, decoded]
    rfl
  refine ⟨parsed, listed, fun enabled same => ?_⟩
  rw [update_read] at same
  simp [shownUpdate, literalsRecord] at same

theorem field_inj {name s t : String} {left right : List Char}
    (same : (field name s).render ++ left = (field name t).render ++ right) :
    s = t ∧ left = right := by
  simp only [field, Node.render, Node.renderList, Xml.endTag, List.append_nil, List.append_assoc,
    List.cons_append, List.append_cancel_left_eq] at same
  obtain ⟨text, rest⟩ := Xml.escaped_inj (by decide) same
  refine ⟨text, ?_⟩
  simpa using rest

/-- An update that is written for other fields has another text. -/
theorem updateDocument_inj {r s : ServiceRecord} {enabled flag : Bool}
    (same : updateDocument r enabled = updateDocument s flag) :
    r.name = s.name ∧ r.nameSpace = s.nameSpace ∧ r.routingKey = s.routingKey ∧
      r.exchange = s.exchange ∧ enabled = flag := by
  have texts := String.ofList_injective same
  -- Both texts begin alike, up to the value of the name.
  simp only [updateNode, Node.write, Node.render, Node.renderList, Xml.startTag, Xml.tagContent,
    Xml.renderAttribute, List.flatMap_cons, List.flatMap_nil, List.append_assoc, List.cons_append,
    List.nil_append, List.append_cancel_left_eq, List.cons.injEq, true_and] at texts
  obtain ⟨name, texts⟩ := Xml.escaped_inj (by decide) texts
  obtain ⟨-, texts⟩ := List.cons.inj texts
  obtain ⟨nameSpace, texts⟩ := field_inj texts
  obtain ⟨switch, texts⟩ := field_inj texts
  obtain ⟨routingKey, texts⟩ := field_inj texts
  obtain ⟨exchange, -⟩ := field_inj texts
  refine ⟨name, nameSpace, routingKey, exchange, ?_⟩
  cases enabled <;> cases flag <;> simp_all

/-- Whatever its fields hold, an update for a record is read as one service element with the fields
in their places, a blank one as none. Its text is the same for another record exactly if the fields
are, so nothing else of a record is written. -/
theorem update_carries_fields (r : ServiceRecord) (enabled : Bool) :
    Node.parse (updateDocument r enabled) =
      .ok (shownUpdate r.name r.nameSpace r.routingKey r.exchange enabled) ∧
    ∀ (other : ServiceRecord) (flag : Bool),
      updateDocument other flag = updateDocument r enabled ↔
        other.name = r.name ∧ other.nameSpace = r.nameSpace ∧
          other.routingKey = r.routingKey ∧ other.exchange = r.exchange ∧ flag = enabled := by
  refine ⟨update_read r enabled, fun other flag => ⟨updateDocument_inj, ?_⟩⟩
  rintro ⟨name, nameSpace, routingKey, exchange, switch⟩
  rw [updateDocument, updateDocument, updateNode, updateNode, name, nameSpace, routingKey, exchange,
    switch]

end ExtensionAdmin.Service.ApiExtensions
