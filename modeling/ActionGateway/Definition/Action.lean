import ActionGateway.Json.Decoder

/-! # Actions

An action has a draft side, which editors run, and may have a published side, which viewers run.
Copies of an action on branches share its base id; on the default line the base id is the id.
-/

namespace ActionGateway

/-- Which side of an action a caller runs. -/
inductive ViewMode where
  /-- The draft, for editors. -/
  | edit
  /-- The published side, for viewers. -/
  | view
  deriving DecidableEq, Repr, Inhabited

namespace ViewMode

/-- The mode that a view flag asks for. -/
def ofFlag (view : Bool) : ViewMode := if view then .view else .edit

/-- The name of a mode. -/
def name : ViewMode → String
  | edit => "edit"
  | view => "view"

/-- A mode from JSON, by its name. -/
def decoder : Json.Decoder ViewMode :=
  .choice ([edit, view].map fun mode => (mode.name, mode))

end ViewMode

/-- One side of an action: the datasource it runs on and the configuration it runs with. -/
structure ActionDefinition where
  datasourceId : String
  configuration : Json
  timeoutMs : Option Nat
  deriving DecidableEq, Repr, Inhabited

namespace ActionDefinition

/-- A definition as JSON. A timeout is written only when there is one. -/
def json (definition : ActionDefinition) : Json :=
  Json.object ([
    ("datasourceId", .str definition.datasourceId),
    ("configuration", definition.configuration)] ++
    (definition.timeoutMs.map fun ms => ("timeoutMs", Json.ofNat ms)).toList)

/-- A definition from JSON; the configuration is null unless given. -/
def decoder : Json.Decoder ActionDefinition := fun room raw => do
  let fields ← Json.Decoder.fields ["datasourceId", "configuration", "timeoutMs"] room raw
  let datasourceId ← fields.required "datasourceId" .text
  let configuration ← fields.optional "configuration" .value .null
  let timeoutMs ← fields.optional "timeoutMs" (.nullable (.unsigned 64)) none
  some ⟨datasourceId, configuration, timeoutMs⟩

end ActionDefinition

/-- **Action.** -/
structure Action where
  id : String
  baseId : String
  applicationId : String
  branchName : Option String
  name : String
  plugin : String
  draft : ActionDefinition
  published : Option ActionDefinition
  deriving DecidableEq, Repr, Inhabited

namespace Action

/-- The side of the action for a mode, if the action has it. -/
def definition? (action : Action) : ViewMode → Option ActionDefinition
  | .edit => some action.draft
  | .view => action.published

/-- The action is the one that the copies on branches come from. -/
def isDefaultLine (action : Action) : Bool :=
  action.id == action.baseId

/-- An action as JSON. A branch name and a published side are written only when there are any. -/
def json (action : Action) : Json :=
  Json.object ([
    ("id", .str action.id),
    ("baseId", .str action.baseId),
    ("applicationId", .str action.applicationId),
    ("name", .str action.name),
    ("plugin", .str action.plugin),
    ("unpublished", action.draft.json)] ++
    (action.branchName.map fun branch => ("branchName", Json.str branch)).toList ++
    (action.published.map fun definition => ("published", definition.json)).toList)

/-- The fields of an action in their declared order. -/
def fieldNames : List String := [
  "id", "baseId", "applicationId", "branchName", "name", "plugin", "unpublished", "published"]

/-- An action from its fields; `baseId` reads the base id, given the id. -/
def ofFields (fields : Json.Decoder.Fields) (baseId : String → Option String) :
    Option Action := do
  let id ← fields.required "id" .text
  let baseId ← baseId id
  let applicationId ← fields.required "applicationId" .text
  let branchName ← fields.optional "branchName" (.nullable .text) none
  let name ← fields.required "name" .text
  let plugin ← fields.required "plugin" .text
  let draft ← fields.required "unpublished" ActionDefinition.decoder
  let published ← fields.optional "published" (.nullable ActionDefinition.decoder) none
  some ⟨id, baseId, applicationId, branchName, name, plugin, draft, published⟩

/-- An action from JSON. -/
def decoder : Json.Decoder Action := fun room raw => do
  let fields ← Json.Decoder.fields fieldNames room raw
  ofFields fields fun _ => fields.required "baseId" .text

/-- An action as definition files write it: the base id is the id unless given. -/
def entryDecoder : Json.Decoder Action := fun room raw => do
  let fields ← Json.Decoder.fields fieldNames room raw
  ofFields fields fun id =>
    (fields.optional "baseId" (.nullable .text) none).map fun baseId => baseId.getD id

end Action

end ActionGateway
