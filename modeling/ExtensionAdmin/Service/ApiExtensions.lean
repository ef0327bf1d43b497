import ExtensionAdmin.Entity.ServiceRecord
import ExtensionAdmin.Service.Endpoint

/-! Extension services: listed by an admin query, changed by documents in XML. -/

namespace ExtensionAdmin.Service.ApiExtensions

open Batch (Transition)
open Http (Client Request Response)
open Xml (Node)

def queryPath : String := "/api/admin/extension/service/query"

def updateType : String := "application/vnd.vmware.admin.service+xml"

def apiNamespace : String := "http://www.vmware.com/vcloud/v1.5"

def extensionNamespace : String := "http://www.vmware.com/vcloud/extension/v1.5"

def field (name text : String) : Node := .element name [] [.text text]

def updateNode (r : ServiceRecord) (enabled : Bool) : Node :=
  .document [
    .element "vmext:Service"
      [("xmlns", apiNamespace), ("xmlns:vmext", extensionNamespace), ("name", r.name)]
      [field "vmext:Namespace" r.nameSpace,
        field "vmext:Enabled" (if enabled then "true" else "false"),
        field "vmext:RoutingKey" r.routingKey,
        field "vmext:Exchange" r.exchange]]

def updateDocument (r : ServiceRecord) (enabled : Bool) : String :=
  (updateNode r enabled).toXml

def ofQuery (document : Json.Value) : Except Error (List ServiceRecord) :=
  match ServiceRecord.ofQuery document with
  | .ok rs => .ok rs
  | .error .missingList => .error (.payload s!"Missing {ServiceRecord.listName} element")
  | .error (.row f) => .error (.serialization f)

def readRecords (listing : String) : Except Error (List ServiceRecord) :=
  match Xml.readValue listing with
  | .error f => .error (.xml f)
  | .ok document => ofQuery document

def readList (r : Response) : Except Error (List ServiceRecord) :=
  readRecords (Http.bodyText r.body)

def supports : Transition → Bool
  | .enable => true
  | .disable => true
  | .delete => true
  | _ => false

def setEnabled (c : Client) (r : ServiceRecord) (enabled : Bool) : Except Error Request :=
  c.request .put r.href .xml (some updateType) (updateDocument r enabled)

def delete (c : Client) (r : ServiceRecord) : Except Error Request :=
  c.bare .delete r.href .xml

def changeRequest (c : Client) (r : ServiceRecord) : Transition → Except Error Request
  | .enable => setEnabled c r true
  | .disable => setEnabled c r false
  | .delete => delete c r
  | t => .error (.unsupported s!"{t.display} is not available for {Kind.apiExtension.plural}")

def endpoint : Endpoint ServiceRecord where
  listRequest c := c.bare .get queryPath .xml
  readList := readList
  supports := supports
  changeRequest := changeRequest

end ExtensionAdmin.Service.ApiExtensions
