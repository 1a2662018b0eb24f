import ActionGateway.Binding
import ActionGateway.Json.Decoder

/-! # Call parameters

The query and header parameters of a call. Both kinds bind their names to texts: headers first and
query parameters over them, the last of a name over the ones before it. A parameter without a name
binds nothing; callers refuse such parameters up front.
-/

namespace ActionGateway

/-- A query or header parameter as it was given. -/
structure Parameter where
  name : String
  value : String
  deriving DecidableEq, Repr, Inhabited

namespace Parameter

/-- Without a name. -/
def isUnnamed (parameter : Parameter) : Bool :=
  parameter.name.isEmpty

/-- A parameter as JSON. -/
def json (parameter : Parameter) : Json :=
  Json.object [("name", .str parameter.name), ("value", .str parameter.value)]

/-- A parameter from JSON; the value is empty unless given. -/
def decoder : Json.Decoder Parameter := fun room raw => do
  let fields ← Json.Decoder.fields ["name", "value"] room raw
  let name ← fields.required "name" .text
  let value ← fields.optional "value" .text ""
  some ⟨name, value⟩

end Parameter

/-- The query and header parameters of a call. -/
structure CallParameters where
  query : List Parameter
  header : List Parameter
  deriving DecidableEq, Repr, Inhabited

namespace CallParameters

/-- No parameters. -/
def none : CallParameters := ⟨[], []⟩

/-- The parameters in the order in which they bind. -/
def inOrder (parameters : CallParameters) : List Parameter :=
  parameters.header ++ parameters.query

/-- No parameters of either kind. -/
def isEmpty (parameters : CallParameters) : Bool :=
  parameters.query.isEmpty && parameters.header.isEmpty

/-- Some parameter has no name. -/
def hasUnnamed (parameters : CallParameters) : Bool :=
  parameters.inOrder.any Parameter.isUnnamed

/-- Bind one parameter. -/
def bindOne (bindings : Bindings) (parameter : Parameter) : Bindings :=
  if parameter.isUnnamed then bindings
  else bindings.insert parameter.name (.str parameter.value)

/-- Bind all parameters over what is bound. -/
def bindOnto (parameters : CallParameters) (bindings : Bindings) : Bindings :=
  parameters.inOrder.foldl bindOne bindings

/-- The bindings that the parameters make. -/
def bindings (parameters : CallParameters) : Bindings :=
  parameters.bindOnto OrderedMap.empty

/-- Parameters as JSON. -/
def json (parameters : CallParameters) : Json :=
  Json.object [
    ("queryParams", .arr (parameters.query.map Parameter.json)),
    ("headerParams", .arr (parameters.header.map Parameter.json))]

/-- Parameters from JSON; either kind is empty unless given. -/
def decoder : Json.Decoder CallParameters := fun room raw => do
  let fields ← Json.Decoder.fields ["queryParams", "headerParams"] room raw
  let query ← fields.optional "queryParams" (.list Parameter.decoder) []
  let header ← fields.optional "headerParams" (.list Parameter.decoder) []
  some ⟨query, header⟩

end CallParameters

end ActionGateway
