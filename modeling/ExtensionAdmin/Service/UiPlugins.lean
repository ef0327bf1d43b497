import ExtensionAdmin.Entity.UiPlugin
import ExtensionAdmin.Service.Endpoint

/-! Plugins of the user interface: listed and changed in JSON. -/

namespace ExtensionAdmin.Service.UiPlugins

open Batch (Transition)
open Http (Client Request Response)

def collectionPath : String := "/cloudapi/extensions/ui"

def pluginPath (p : UiPlugin) : String := collectionPath ++ "/" ++ p.id

def updateType : String := "application/json"

def ofListing? (body : String) : Option (List UiPlugin) :=
  match Json.readVerbatim? body.toList with
  | some (.array items) => (items.mapM UiPlugin.ofVerbatim).toOption
  | _ => none

def readList (r : Response) : Except Error (List UiPlugin) :=
  match ofListing? r.body with
  | some ps => .ok ps
  | none => .error (.transport .malformedBody)

def update (c : Client) (old new : UiPlugin) : Except Error Request :=
  c.request .put (pluginPath old) .json (some updateType) new.toValue.text

def setEnabled (c : Client) (p : UiPlugin) (enabled : Bool) : Except Error Request :=
  update c p (p.withEnabled enabled)

def changeScope (c : Client) (p : UiPlugin) (s : Scope) : Except Error Request :=
  update c p (p.withScope s)

def publishAll (c : Client) (p : UiPlugin) : Except Error Request :=
  c.bare .post (pluginPath p ++ "/tenants/publishAll") .json

def unpublishAll (c : Client) (p : UiPlugin) : Except Error Request :=
  c.bare .post (pluginPath p ++ "/tenants/unpublishAll") .json

def delete (c : Client) (p : UiPlugin) : Except Error Request :=
  c.bare .delete (pluginPath p) .json

def changeRequest (c : Client) (p : UiPlugin) : Transition → Except Error Request
  | .enable => setEnabled c p true
  | .disable => setEnabled c p false
  | .delete => delete c p
  | .changeScope s => changeScope c p s
  | .publishAll => publishAll c p
  | .unpublishAll => unpublishAll c p

def endpoint : Endpoint UiPlugin where
  listRequest c := c.bare .get collectionPath .json
  readList := readList
  supports _ := true
  changeRequest := changeRequest

end ExtensionAdmin.Service.UiPlugins
