import ActionGateway.Json.Decoder

/-! # Kinds of failure

What callers are told about a failure: its kind, with the HTTP status that a transport answers
with, a message, and the code of the backend if it gave one.
-/

namespace ActionGateway

/-- Kinds of failure that callers can tell apart. -/
inductive FailureKind where
  | malformedParameter
  | branchNotFound
  | environmentNotConfigured
  | actionNotFound
  | datasourceNotFound
  | unresolvedBinding
  | executionTimeout
  | pluginNotRegistered
  | executor
  | internal
  deriving DecidableEq, Repr, Inhabited

namespace FailureKind

/-- All kinds. -/
def all : List FailureKind := [
  malformedParameter, branchNotFound, environmentNotConfigured, actionNotFound,
  datasourceNotFound, unresolvedBinding, executionTimeout, pluginNotRegistered, executor, internal]

/-- The name of a kind. -/
def name : FailureKind → String
  | malformedParameter => "MALFORMED_PARAMETER"
  | branchNotFound => "BRANCH_NOT_FOUND"
  | environmentNotConfigured => "ENVIRONMENT_NOT_CONFIGURED"
  | actionNotFound => "ACTION_NOT_FOUND"
  | datasourceNotFound => "DATASOURCE_NOT_FOUND"
  | unresolvedBinding => "UNRESOLVED_BINDING"
  | executionTimeout => "EXECUTION_TIMEOUT"
  | pluginNotRegistered => "PLUGIN_NOT_REGISTERED"
  | executor => "EXECUTOR"
  | internal => "INTERNAL"

/-- The HTTP status of a kind. -/
def httpStatus : FailureKind → Nat
  | malformedParameter | unresolvedBinding => 400
  | branchNotFound | actionNotFound | datasourceNotFound => 404
  | environmentNotConfigured => 422
  | executionTimeout => 504
  | pluginNotRegistered | executor => 502
  | internal => 500

/-- A kind from JSON, by its name. -/
def decoder : Json.Decoder FailureKind :=
  .choice (all.map fun kind => (kind.name, kind))

end FailureKind

/-- What a failed execution reports. -/
structure FailureDetail where
  kind : FailureKind
  message : String
  /-- The code that the backend gave. -/
  pluginCode : Option String
  deriving DecidableEq, Repr, Inhabited

namespace FailureDetail

/-- A detail as JSON. A code is written only when there is one. -/
def json (detail : FailureDetail) : Json :=
  Json.object ([
    ("kind", .str detail.kind.name),
    ("message", .str detail.message)] ++
    (detail.pluginCode.map fun code => ("pluginErrorCode", Json.str code)).toList)

/-- A detail from JSON. -/
def decoder : Json.Decoder FailureDetail := fun room raw => do
  let fields ← Json.Decoder.fields ["kind", "message", "pluginErrorCode"] room raw
  let kind ← fields.required "kind" FailureKind.decoder
  let message ← fields.required "message" .text
  let pluginCode ← fields.optional "pluginErrorCode" (.nullable .text) none
  some ⟨kind, message, pluginCode⟩

end FailureDetail

end ActionGateway
