import ActionGateway.Definition.Action
import ActionGateway.Definition.Application
import ActionGateway.Definition.Datasource
import ActionGateway.Document.Format

/-! # Manifests

A manifest is a file that defines applications, datasources and actions. It is accepted when each
action has an id of its own and refers only to what the manifest defines.
-/

namespace ActionGateway

/-- **Manifest.** -/
structure Manifest where
  applications : List Application
  datasources : List Datasource
  actions : List Action
  deriving DecidableEq, Repr, Inhabited

namespace Manifest

/-- A manifest as JSON. -/
def json (manifest : Manifest) : Json :=
  Json.object [
    ("applications", .arr (manifest.applications.map Application.json)),
    ("datasources", .arr (manifest.datasources.map Datasource.json)),
    ("actions", .arr (manifest.actions.map Action.json))]

/-- A manifest from JSON; each list is empty unless given. -/
def decoder : Json.Decoder Manifest := fun room raw => do
  let fields ← Json.Decoder.fields ["applications", "datasources", "actions"] room raw
  let applications ← fields.optional "applications" (.list Application.decoder) []
  let datasources ← fields.optional "datasources" (.list Datasource.decoder) []
  let actions ← fields.optional "actions" (.list Action.entryDecoder) []
  some ⟨applications, datasources, actions⟩

/-- The application with an id; the last one when several have it. -/
def application? (manifest : Manifest) (id : String) : Option Application :=
  manifest.applications.reverse.find? fun application => application.id == id

/-- A datasource with the id is defined. -/
def hasDatasource (manifest : Manifest) (id : String) : Bool :=
  manifest.datasources.any fun datasource => datasource.id == id

/-- An action with the id is defined. -/
def hasAction (manifest : Manifest) (id : String) : Bool :=
  manifest.actions.any fun action => action.id == id

/-- The application is missing that an action belongs to, or the branch that it is on. -/
def placeFault? (manifest : Manifest) (action : Action) : Option ManifestFault :=
  match manifest.application? action.applicationId with
  | none => some (.unknownApplication action.id action.applicationId)
  | some application =>
    match action.branchName with
    | none => none
    | some branch =>
      if application.hasBranch branch || application.isDefaultBranch branch then none
      else some (.unknownBranch action.id branch application.id)

/-- The first datasource that is missing for a side of an action. -/
def datasourceFault? (manifest : Manifest) (action : Action) : Option ManifestFault :=
  ((action.draft :: action.published.toList).find? fun definition =>
    !manifest.hasDatasource definition.datasourceId).map fun definition =>
      .unknownDatasource action.id definition.datasourceId

/-- The first fault of the actions, given the ids of those before them. -/
def actionFault? (manifest : Manifest) : List String → List Action → Option ManifestFault
  | _, [] => none
  | earlier, action :: rest =>
    if earlier.contains action.id then some (.duplicateAction action.id)
    else
      ((manifest.placeFault? action).or (manifest.datasourceFault? action)).or
        (actionFault? manifest (action.id :: earlier) rest)

/-- The first copy on a branch whose base action is missing. -/
def baseFault? (manifest : Manifest) : Option ManifestFault :=
  (manifest.actions.find? fun action =>
    !action.isDefaultLine && !manifest.hasAction action.baseId).map fun action =>
      .unknownBase action.id action.baseId

/-- The first fault of a manifest. -/
def fault? (manifest : Manifest) : Option ManifestFault :=
  (manifest.actionFault? [] manifest.actions).or manifest.baseFault?

/-- **Manifest of a document.** -/
def parse (known : Variables) (content : String) (format : DocumentFormat) :
    Except LoadError Manifest := do
  let manifest ← known.decode decoder (← format.read content)
  match manifest.fault? with
  | some fault => .error (.manifest fault)
  | none => .ok manifest

/-- The manifest of a file. -/
def load (known : Variables) (path : String) (content : Except FileError String) :
    Except LoadError Manifest :=
  loadFile (parse known) path content

end Manifest

end ActionGateway
