import ExtensionAdmin.Proofs.Xml.Conversion
import ExtensionAdmin.Proofs.Xml.Truncation
import ExtensionAdmin.Service.ApiExtensions

/-! What is read from a listing of services. The rows of a listing stand among other children, and
are merged one by one into what is under their name. That comes to nothing, to one value or to a
sequence; its items are the rows again, in their order. So each row is decoded as if it stood alone,
and the first one that cannot be is the fault of the listing. A listing that is cut off is never
read as a shorter one. -/

namespace ExtensionAdmin.Service.ApiExtensions

open Json (Value)
open ServiceRecord (QueryFault listName rowName)
open Xml (Attribute Node)
open Fallible (mapM_eq_error mapM_eq_ok mapM_mapError mapM_ok_iff)

/-- A document whose only result list holds these rows, among whatever else. -/
inductive Lists : Node → List Node → Prop
  | list {tops children rows : List Node} {attributes : List Attribute}
      (only : tops.filter (fun n => n.name = listName) = [.element listName attributes children])
      (free : ∀ a ∈ attributes, a.1 ≠ rowName)
      (held : children.filter (fun n => n.name = rowName) = rows) : Lists (.document tops) rows

def recordOf (row : Value) : Except Error ServiceRecord :=
  (ServiceRecord.ofValue row).mapError .serialization

def queryError : QueryFault → Error
  | .missingList => .payload s!"Missing {listName} element"
  | .row f => .serialization f

theorem ofQuery_eq (document : Value) :
    ofQuery document = (ServiceRecord.ofQuery document).mapError queryError := by
  rw [ofQuery]
  rcases ServiceRecord.ofQuery document with (_ | f) | records <;> rfl

theorem recordOf_eq (row : Value) :
    ((ServiceRecord.ofValue row).mapError QueryFault.row).mapError queryError = recordOf row := by
  rw [recordOf]
  cases ServiceRecord.ofValue row <;> rfl

def attributeItems (attributes : List Attribute) : List Value :=
  (((Xml.attributeMembers attributes).get? rowName).map Value.toList).getD []

theorem attributeItems_eq_nil {attributes : List Attribute}
    (free : ∀ a ∈ attributes, a.1 ≠ rowName) : attributeItems attributes = [] := by
  obtain ⟨-, held⟩ := Xml.get?_attributeMembers attributes
  rw [attributeItems, held, List.filter_eq_nil_iff.mpr (by simpa using free)]
  rfl

/-- What is under the name of the rows has the values of the rows as its items. -/
theorem rows_items (attributes : List Attribute) (children : List Node) :
    (((Node.element listName attributes children).toValue.get? rowName).map Value.toList).getD [] =
      attributeItems attributes ++ (children.filter fun n => n.name = rowName).map Node.toValue := by
  obtain ⟨ascending, -⟩ := Xml.get?_attributeMembers attributes
  obtain ⟨-, under⟩ := Node.get?_mergeChildren ascending children
  rw [Node.toValue, Value.get?, under, ← List.foldl_map (f := Node.toValue)
    (g := fun held v => some (Xml.merged v held))]
  apply Xml.merged_items
  intro v value items
  obtain ⟨row, member, rfl⟩ := List.mem_map.mp value
  have named : row.name = rowName := by simpa using (List.mem_filter.mp member).2
  -- A row is an element, as texts and documents have names of their own.
  cases row with
  | element => simp [Node.toValue]
  | document => simp [Node.name, Node.documentName, rowName] at named
  | text => simp [Node.name, Node.textName, rowName] at named

/-- A listing is read item by item. -/
theorem ofQuery_document {tops children : List Node} {attributes : List Attribute}
    (only : tops.filter (fun n => n.name = listName) = [.element listName attributes children]) :
    ofQuery (Node.document tops).toValue = (attributeItems attributes ++
      (children.filter fun n => n.name = rowName).map Node.toValue).mapM recordOf := by
  have found : (Node.document tops).toValue.get? listName =
      some (Node.element listName attributes children).toValue := by
    obtain ⟨-, under⟩ := Node.get?_mergeChildren .nil tops
    rw [Node.toValue, Value.get?, under, only]
    rfl
  rw [ofQuery_eq, ServiceRecord.ofQuery, ← rows_items]
  simp only [found]
  cases (Node.element listName attributes children).toValue.get? rowName with
  | none => rfl
  | some rows =>
    simp only [mapM_mapError, recordOf_eq]
    rfl

theorem Lists.ofQuery_eq {document : Node} {rows : List Node} (lists : Lists document rows) :
    ofQuery document.toValue = rows.mapM fun row => recordOf row.toValue := by
  cases lists with
  | list only free held =>
    rw [ofQuery_document only, attributeItems_eq_nil free, held, List.nil_append, List.mapM_map]
    rfl

theorem Lists.single {document row : Node} (lists : Lists document [row]) :
    ofQuery document.toValue = (fun r => [r]) <$> recordOf row.toValue := by
  rw [lists.ofQuery_eq, List.mapM_cons]
  cases recordOf row.toValue <;> rfl

theorem Lists.single_record {document row : Node} (lists : Lists document [row])
    {r : ServiceRecord} : ofQuery document.toValue = .ok [r] ↔ recordOf row.toValue = .ok r := by
  rw [lists.single]
  cases recordOf row.toValue <;> simp [Functor.map, Except.map]

theorem Lists.single_ok {document row : Node} (lists : Lists document [row]) :
    (∃ records, ofQuery document.toValue = .ok records) ↔ ∃ r, recordOf row.toValue = .ok r := by
  rw [lists.single]
  cases recordOf row.toValue <;> simp [Functor.map, Except.map]

theorem Lists.single_error {document row : Node} (lists : Lists document [row]) {e : Error} :
    ofQuery document.toValue = .error e ↔ recordOf row.toValue = .error e := by
  rw [lists.single]
  cases recordOf row.toValue <;> simp [Functor.map, Except.map]

/-- A listing is read when each of its rows is, taken alone; then its records are those of the rows,
one each and in order. Otherwise its error is the one of the first row that is not read. -/
theorem listing_by_rows {document : Node} {rows : List Node} (lists : Lists document rows)
    {alone : Node → Node} (apart : ∀ row ∈ rows, Lists (alone row) [row]) :
    ((∃ records, ofQuery document.toValue = .ok records) ↔
      ∀ row ∈ rows, ∃ records, ofQuery (alone row).toValue = .ok records) ∧
    (∀ records, ofQuery document.toValue = .ok records ↔
      List.Forall₂ (fun row r => ofQuery (alone row).toValue = .ok [r]) rows records) ∧
    ∀ e, ofQuery document.toValue = .error e ↔ ∃ before row after, rows = before ++ row :: after ∧
      (∀ passed ∈ before, ∃ records, ofQuery (alone passed).toValue = .ok records) ∧
      ofQuery (alone row).toValue = .error e := by
  rw [lists.ofQuery_eq]
  constructor
  · rw [mapM_ok_iff]
    exact forall₂_congr fun row member => (apart row member).single_ok.symm
  constructor
  · intro records
    rw [mapM_eq_ok]
    constructor
    · intro read
      have both := (List.forall₂_and_left _ _).mpr ⟨apart, read⟩
      exact both.imp fun row r ⟨single, read⟩ => single.single_record.mpr read
    · intro read
      have both := (List.forall₂_and_left _ _).mpr ⟨apart, read⟩
      exact both.imp fun row r ⟨single, read⟩ => single.single_record.mp read
  · intro e
    rw [mapM_eq_error]
    constructor
    · rintro ⟨before, row, after, rfl, passed, failed⟩
      refine ⟨before, row, after, rfl, fun z member => ?_, ?_⟩
      · exact (apart z (by simp [member])).single_ok.mpr (passed z member)
      · exact (apart row (by simp)).single_error.mpr failed
    · rintro ⟨before, row, after, rfl, passed, failed⟩
      refine ⟨before, row, after, rfl, fun z member => ?_, ?_⟩
      · exact (apart z (by simp [member])).single_ok.mp (passed z member)
      · exact (apart row (by simp)).single_error.mp failed

def alone (row : Node) : Node :=
  .document [.element listName [] [row]]

theorem alone_lists {row : Node} (named : row.name = rowName) : Lists (alone row) [row] :=
  .list rfl (by simp) (by simp [named])

theorem readRecords_alone {listing : String} {row : Node} (named : row.name = rowName)
    (parsed : Node.parse listing = .ok (alone row)) :
    readRecords listing = (fun r => [r]) <$> recordOf row.toValue := by
  rw [readRecords, Xml.readValue, parsed]
  exact (alone_lists named).single

def mailer : Node :=
  .element rowName [("name", "mailer"), ("href", "/service/1")] []

def nowhere : Node :=
  .element rowName [("name", "nowhere")] []

def faultyListing : Node :=
  .document [.element listName [("total", "two")]
    [.element "Link" [] [], mailer, .text "and", nowhere, mailer]]

theorem faultyListing_by_rows : Lists faultyListing [mailer, nowhere, mailer] ∧
    (∀ row ∈ [mailer, nowhere, mailer], Lists (alone row) [row]) ∧
    ofQuery faultyListing.toValue = .error (.serialization (.missingField "href")) := by
  have lists : Lists faultyListing [mailer, nowhere, mailer] := .list rfl (by decide) rfl
  have apart : ∀ row ∈ [mailer, nowhere, mailer], Lists (alone row) [row] := by
    intro row member
    exact alone_lists (by revert row; decide)
  have first : ofQuery (alone mailer).toValue =
      .ok [⟨"/service/1", "mailer", "", false, "", "", 0, false⟩] := by decide
  have second : ofQuery (alone nowhere).toValue =
      .error (.serialization (.missingField "href")) := by decide
  have passed : ∀ row ∈ [mailer], ∃ records, ofQuery (alone row).toValue = .ok records := by
    simpa using ⟨_, first⟩
  have failed := ((listing_by_rows lists apart).2.2 (.serialization (.missingField "href"))).mpr
    ⟨[mailer], nowhere, [mailer], rfl, passed, second⟩
  exact ⟨lists, apart, failed⟩

theorem readRecords_error {listing : String} {f : Xml.Fault}
    (failed : Node.parse listing = .error f) : readRecords listing = .error (.xml f) := by
  rw [readRecords, Xml.readValue, failed]
  rfl

/-- An empty document is no listing. -/
theorem readRecords_empty {listing : String} (empty : Node.parse listing = .ok (.document [])) :
    readRecords listing = .error (queryError .missingList) := by
  rw [readRecords, Xml.readValue, empty]
  rfl

/-- A text that is cut off is read as the one element that it holds, as no node, or not at all; so a
listing that is cut off has all its records, or none are read. -/
theorem listing_cut {whole cut : String} {name : String} {attributes : List Attribute}
    {children : List Node} (begins : cut.toList <+: whole.toList)
    (parsed : Node.parse whole = .ok (.document [.element name attributes children])) :
    ((∃ f, Node.parse cut = .error f) ∨ Node.parse cut = .ok (.document []) ∨
      Node.parse cut = .ok (.document [.element name attributes children])) ∧
    ∀ records, readRecords whole = .ok records →
      (∃ e, readRecords cut = .error e) ∨ readRecords cut = .ok records := by
  have left : (∃ f, Node.parse cut = .error f) ∨ Node.parse cut = .ok (.document []) ∨
      Node.parse cut = .ok (.document [.element name attributes children]) := by
    cases read : Node.parse cut with
    | error f => exact .inl ⟨f, rfl⟩
    | ok n =>
      obtain ⟨ns, rfl⟩ := Node.read_document read
      rcases (Node.read_beginning begins read parsed).alone with rfl | rfl
      · exact .inr (.inl rfl)
      · exact .inr (.inr rfl)
  constructor
  · exact left
  · intro records listed
    rcases left with ⟨f, failed⟩ | empty | same
    · exact .inl ⟨.xml f, readRecords_error failed⟩
    · exact .inl ⟨_, readRecords_empty empty⟩
    · apply Or.inr
      rw [← listed, readRecords, readRecords, Xml.readValue, Xml.readValue, same, parsed]

def shortListing : String :=
  "<QueryResultRecords><AdminServiceRecord name='only' href='h'/></QueryResultRecords>"

/-- The listing without its last character. The end of the input ends its end tag, too. -/
def cutListing : String :=
  "<QueryResultRecords><AdminServiceRecord name='only' href='h'/></QueryResultRecords"

theorem shortListing_cut : cutListing.toList <+: shortListing.toList ∧
    Node.parse shortListing = .ok (.document [.element listName []
      [.element rowName [("name", "only"), ("href", "h")] []]]) ∧
    ((∃ e, readRecords cutListing = .error e) ∨
      readRecords cutListing = .ok [⟨"h", "only", "", false, "", "", 0, false⟩]) := by
  have begins : cutListing.toList <+: shortListing.toList := by decide
  have parsed : Node.parse shortListing = .ok (.document [.element listName []
      [.element rowName [("name", "only"), ("href", "h")] []]]) := rfl
  have listed : readRecords shortListing = .ok [⟨"h", "only", "", false, "", "", 0, false⟩] := by
    rw [readRecords_alone rfl parsed]
    rfl
  exact ⟨begins, parsed, (listing_cut begins parsed).2 _ listed⟩

end ExtensionAdmin.Service.ApiExtensions
