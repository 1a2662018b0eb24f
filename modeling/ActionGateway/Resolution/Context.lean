import ActionGateway.Resolution.Reading
import ActionGateway.Text.Blank

/-! # Contexts

The context of an invocation is the version of the action that is run, and the datasource that it
runs on as it is configured in one environment. An action id, a branch, an environment and a view
mode decide it.
-/

namespace ActionGateway

/-- **What decides a context.** Without a branch, the action itself is meant. -/
structure ContextKey where
  actionId : String
  branch : Option String
  environmentId : String
  viewMode : ViewMode
  deriving DecidableEq, Repr

namespace ContextKey

/-- The key for a call. Blank space around a branch does not count and a blank branch is none; a
blank environment stands for the default one. -/
def ofCall (defaultEnvironment actionId : String) (branch : Option String)
    (environmentId : String) (viewMode : ViewMode) : ContextKey where
  actionId := actionId
  branch := (branch.map Text.trimmed).filter fun branch => !branch.isEmpty
  environmentId :=
    if Text.isBlankText environmentId then defaultEnvironment else environmentId
  viewMode := viewMode

end ContextKey

/-- **Context of an invocation.** -/
structure ResolvedContext where
  action : Action
  /-- The side of the action that the view mode asks for. -/
  definition : ActionDefinition
  viewMode : ViewMode
  datasource : Datasource
  environmentId : String
  storage : Storage
  deriving DecidableEq, Repr

namespace ContextKey

/-- The copy of an action on a branch. The default branch of the application stands for the default
line of the action. -/
def onBranch (requested : Action) (branch : String) : Reading Action :=
  if requested.branchName = some branch then .done requested
  else
    .application requested.applicationId fun
      | none => .rejected (.actionNotFound (.noApplication requested.applicationId requested.id))
      | some application =>
        if application.isDefaultBranch branch then
          if requested.isDefaultLine then .done requested
          else
            .action requested.baseId fun base =>
              .orReject base (.actionNotFound (.noDefaultLine requested.baseId))
        else if application.hasBranch branch then
          .copyOnBranch requested.baseId branch fun copy =>
            .orReject copy (.actionNotFound (.notOnBranch requested.baseId branch))
        else .rejected (.branchNotFound application.id branch)

/-- The version of the action that a key asks for. -/
def selectAction (key : ContextKey) : Reading Action :=
  .action key.actionId fun
    | none => .rejected (.actionNotFound (.unknown key.actionId))
    | some requested =>
      match key.branch with
      | none => .done requested
      | some branch => onBranch requested branch

/-- The context for a version of an action. -/
def contextOf (key : ContextKey) (action : Action) : Reading ResolvedContext :=
  match action.definition? key.viewMode with
  | none => .rejected (.actionNotFound (.notPublished action.id))
  | some definition =>
    .datasource definition.datasourceId fun
      | none => .rejected (.datasourceNotFound definition.datasourceId)
      | some datasource =>
        match datasource.storage? key.environmentId with
        | none => .rejected (.environmentNotConfigured datasource.id key.environmentId)
        | some storage => .done {
            action := action
            definition := definition
            viewMode := key.viewMode
            datasource := datasource
            environmentId := key.environmentId
            storage := storage }

/-- How the context of a key is read from the definitions. -/
def reading (key : ContextKey) : Reading ResolvedContext := do
  let action ← key.selectAction
  key.contextOf action

/-- **The context of a key**, read from the definitions in one go. -/
def load (reader : DefinitionReader) (key : ContextKey) : Except Rejection ResolvedContext :=
  key.reading.run reader

end ContextKey

end ActionGateway
