import ActionGateway.Execution.Executor
import ActionGateway.Redaction

/-! # The echo executor

An executor without a backend: it answers with what it would have sent to one, with the secrets
hidden. A configuration can make it wait or fail.
-/

namespace ActionGateway.Echo

/-- The kind of the echo executor. -/
def kind : String := "echo"

/-- What is known about it. -/
def info : ExecutorInfo where
  kind := kind
  displayName := "Echo"
  description := "Returns the substituted configuration without calling a backend"
  version := "0.1.0"

/-- The time that a configuration makes it wait. -/
def waitMs (configuration : Json) : Nat :=
  ((configuration.field? "sleepMs").bind Json.nat?).getD 0

/-- The failure that a configuration asks for. -/
def failure? (configuration : Json) : Option String :=
  (configuration.field? "failWith").bind Json.text?

/-- What it answers. -/
def body (input : ExecutorInput) : Json :=
  Json.object [
    ("action", .str input.actionName),
    ("environment", .str input.environmentId),
    ("configuration", input.configuration),
    ("datasource", input.config.sanitized),
    ("credentials", input.credentials.redacted),
    ("attachments", .arr (input.attachments.map Attachment.json))]

/-- How a run ends. -/
def result (input : ExecutorInput) : Except ExecutorError ExecutorOutput :=
  match failure? input.configuration with
  | some message => .error (.failed message (some "ECHO_FAILURE"))
  | none => .ok {
      statusCode := some "200"
      body := body input
      headers := .ofList [("x-actuate-execution-id", .str input.executionId)] }

/-- **The echo executor.** -/
def executor : Executor where
  info := info
  run input := ⟨waitMs input.configuration, result input⟩

/-- The registry with the built-in executors. -/
def addTo (registry : ExecutorRegistry) : ExecutorRegistry :=
  registry.register executor

end ActionGateway.Echo
