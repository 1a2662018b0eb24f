import ActionGateway.Failure
import ActionGateway.Timestamp

/-! # Result envelopes

What a caller gets back once an action was dispatched, whether it succeeded or failed.
-/

namespace ActionGateway

/-- **Envelope.** The result of an execution. -/
structure Envelope where
  executionId : String
  actionId : String
  success : Bool
  statusCode : String
  body : Json
  headers : OrderedMap Json
  durationMs : Nat
  startedAt : Timestamp
  warnings : List String
  failure : Option FailureDetail
  deriving DecidableEq

namespace Envelope

/-- The HTTP status that a transport answers with. -/
def httpStatus (envelope : Envelope) : Nat :=
  match envelope.failure with
  | none => 200
  | some detail => detail.kind.httpStatus

/-- The fields of an envelope; warnings and a failure are written only when there are any. -/
def jsonFields (envelope : Envelope) : List (String × Json) := [
  ("executionId", .str envelope.executionId),
  ("actionId", .str envelope.actionId),
  ("success", .bool envelope.success),
  ("statusCode", .str envelope.statusCode),
  ("body", envelope.body),
  ("headers", Json.object envelope.headers.entries),
  ("durationMs", Json.ofNat envelope.durationMs),
  ("startedAt", .str envelope.startedAt.text)] ++
  (if envelope.warnings.isEmpty then [] else [("warnings", Json.ofTexts envelope.warnings)]) ++
  (envelope.failure.map fun detail => ("error", detail.json)).toList

/-- An envelope as JSON. -/
def json (envelope : Envelope) : Json :=
  Json.object envelope.jsonFields

/-- A point in time from JSON. -/
def timestampDecoder : Json.Decoder Timestamp := fun room raw =>
  (Json.Decoder.text room raw).bind Timestamp.ofText?

/-- The fields of an envelope in their declared order. -/
def fieldNames : List String := [
  "executionId", "actionId", "success", "statusCode", "body", "headers", "durationMs",
  "startedAt", "warnings", "error"]

/-- An envelope from JSON. -/
def decoder : Json.Decoder Envelope := fun room raw => do
  let fields ← Json.Decoder.fields fieldNames room raw
  let executionId ← fields.required "executionId" .text
  let actionId ← fields.required "actionId" .text
  let success ← fields.required "success" .flag
  let statusCode ← fields.required "statusCode" .text
  let body ← fields.required "body" .value
  let headers ← fields.required "headers" (.ordered .value)
  let durationMs ← fields.required "durationMs" (.unsigned 64)
  let startedAt ← fields.required "startedAt" timestampDecoder
  let warnings ← fields.optional "warnings" (.list .text) []
  let failure ← fields.optional "error" (.nullable FailureDetail.decoder) none
  some {
    executionId := executionId, actionId := actionId, success := success
    statusCode := statusCode, body := body, headers := headers, durationMs := durationMs
    startedAt := startedAt, warnings := warnings, failure := failure }

end Envelope

end ActionGateway
