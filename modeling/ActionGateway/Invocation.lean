import ActionGateway.Attachment
import ActionGateway.Definition.Action
import ActionGateway.Parameter
import ActionGateway.Substitution
import ActionGateway.Text.Blank

/-! # Invocations

One intent to run an action: which copy and side of it, with which bindings, and how.
-/

namespace ActionGateway

/-- **Invocation.** -/
structure Invocation where
  actionId : String
  /-- The branch as it was given. A blank one stands for the default line. -/
  branchName : Option String
  params : CallParameters
  /-- Bindings given beside the parameters. -/
  bindings : Bindings
  viewMode : ViewMode
  substitutionMode : SubstitutionMode
  /-- A deadline asked for, in milliseconds. -/
  timeoutMs : Option Nat
  attachments : List Attachment

namespace Invocation

/-- The draft of an action on its default line, without bindings, in strict mode. -/
def ofAction (actionId : String) : Invocation where
  actionId := actionId
  branchName := none
  params := .none
  bindings := OrderedMap.empty
  viewMode := .edit
  substitutionMode := .strict
  timeoutMs := none
  attachments := []

/-- The branch, unless it is blank. -/
def branch (invocation : Invocation) : Option String :=
  invocation.branchName.bind Text.nonBlank

/-- All bindings: header parameters, query parameters over them, the given bindings over both. -/
def mergedBindings (invocation : Invocation) : Bindings :=
  invocation.params.bindings.insertAll invocation.bindings.entries

end Invocation

/-- The name of a substitution mode. -/
def SubstitutionMode.name : SubstitutionMode → String
  | strict => "strict"
  | lenient => "lenient"

/-- A substitution mode from JSON, by its name. -/
def SubstitutionMode.decoder : Json.Decoder SubstitutionMode :=
  .choice ([strict, lenient].map fun mode => (mode.name, mode))

end ActionGateway
