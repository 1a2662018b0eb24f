import ActionGateway.Invocation
import ActionGateway.Upload.Part

/-! # Descriptors

One part of an upload describes the invocation that the upload asks for.
-/

namespace ActionGateway

/-- **Descriptor.** Every field of it may be missing. -/
structure Descriptor where
  actionId : Option String
  /-- The published side is to be run. -/
  viewMode : Bool
  params : CallParameters
  bindings : Bindings
  timeoutMs : Option Nat
  substitutionMode : Option SubstitutionMode

/-- What can be told about an invocation as soon as its descriptor was read. -/
structure Hint where
  actionId : String
  viewMode : ViewMode
  deriving DecidableEq, Repr

namespace Descriptor

/-- A descriptor from JSON. -/
def decoder : Json.Decoder Descriptor := fun room raw => do
  let fields ← Json.Decoder.fields ["actionId", "viewMode", "queryParams", "headerParams",
    "params", "timeoutMs", "substitutionMode"] room raw
  let actionId ← fields.optional "actionId" (.nullable .text) none
  let viewMode ← fields.optional "viewMode" .flag false
  let query ← fields.optional "queryParams" (.list Parameter.decoder) []
  let header ← fields.optional "headerParams" (.list Parameter.decoder) []
  let bindings ← fields.optional "params" (.ordered .value) .empty
  let timeoutMs ← fields.optional "timeoutMs" (.nullable (.unsigned 64)) none
  let substitutionMode ←
    fields.optional "substitutionMode" (.nullable SubstitutionMode.decoder) none
  some ⟨actionId, viewMode, ⟨query, header⟩, bindings, timeoutMs, substitutionMode⟩

/-- The action that the descriptor names; a blank name is none. -/
def action? (descriptor : Descriptor) : Option String :=
  descriptor.actionId.bind Text.nonBlank

/-- What the descriptor tells, if it is accepted: it names an action, and its parameters have
names. -/
def hint (descriptor : Descriptor) : Except Rejection Hint :=
  match descriptor.action? with
  | none => .error (.malformed .descriptorWithoutAction)
  | some actionId =>
    if descriptor.params.hasUnnamed then .error (.malformed .unnamedParameter)
    else .ok ⟨actionId, .ofFlag descriptor.viewMode⟩

end Descriptor

/-- Refuse parameters without a name. -/
def CallParameters.checkNamed (parameters : CallParameters) : Except Rejection Unit :=
  if parameters.hasUnnamed then .error (.malformed .unnamedParameter) else .ok ()

end ActionGateway
