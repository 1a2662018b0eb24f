import ActionGateway.Deadline
import ActionGateway.Envelope
import ActionGateway.Execution.Executor

/-! # Dispatch

A resolved action is given to the executor registered for the kind of its datasource, and gets an
envelope whatever happens. An executor that takes longer than the deadline is stopped.
-/

namespace ActionGateway

/-- What a dispatch needs to know of the world: when it begins, how long a wait of some milliseconds
is measured to be, and an id that was not used before. -/
structure Occasion where
  startedAt : Timestamp
  measuredMs : Nat → Nat
  freshId : String

/-- What is dispatched beside the context. -/
structure DispatchOrder where
  /-- The configuration with its bindings put in. -/
  configuration : Json
  /-- An id to be used instead of a new one. -/
  executionId : Option String
  timeoutMs : Option Nat
  attachments : List Attachment
  /-- Warnings from before the dispatch. -/
  warnings : List String

/-- The call of an executor in a dispatch. -/
structure ExecutorCall where
  executor : Executor
  input : ExecutorInput
  /-- The time that passes until the executor ends or is stopped. -/
  waitMs : Nat
  /-- It is stopped before it ends. -/
  stopped : Bool

/-- **Dispatched action**: its envelope, and the call that was made for it. -/
structure Dispatched where
  envelope : Envelope
  call : Option ExecutorCall

namespace Dispatched

/-- The time that the dispatch takes. -/
def waitMs (dispatched : Dispatched) : Nat :=
  (dispatched.call.map ExecutorCall.waitMs).getD 0

end Dispatched

/-- How a dispatch ends. -/
inductive DispatchEnd where
  | succeeded (output : ExecutorOutput)
  | failed (detail : FailureDetail)

namespace DispatchEnd

/-- The end when no executor is registered for a kind. -/
def notRegistered (kind : String) : DispatchEnd :=
  .failed ⟨.pluginNotRegistered, "No executor registered for plugin '" ++ kind ++ "'", none⟩

/-- The end when the deadline passes. -/
def timedOut (deadlineMs : Nat) : DispatchEnd :=
  .failed ⟨.executionTimeout, "Execution timed out after " ++ toString deadlineMs ++ "ms", none⟩

/-- The end of a run that is not stopped. -/
def ofResult : Except ExecutorError ExecutorOutput → DispatchEnd
  | .ok output => .succeeded output
  | .error error => .failed ⟨.executor, error.message, error.code⟩

/-- The envelope for an end. A failure shows its message as the body, and the code of the executor,
or else the name of its kind, as the status. -/
def envelope (ending : DispatchEnd) (occasion : Occasion) (executionId : String)
    (context : ResolvedContext) (order : DispatchOrder) (waitMs : Nat) : Envelope :=
  let blank : Envelope := {
    executionId := executionId
    actionId := context.action.id
    success := true
    statusCode := "200"
    body := .null
    headers := .empty
    durationMs := occasion.measuredMs waitMs
    startedAt := occasion.startedAt
    warnings := order.warnings
    failure := none }
  match ending with
  | succeeded output =>
    { blank with
      statusCode := output.statusCode.getD "200"
      body := output.body
      headers := output.headers }
  | failed detail =>
    { blank with
      success := false
      statusCode := detail.pluginCode.getD detail.kind.name
      body := .str detail.message
      failure := some detail }

end DispatchEnd

/-- A way to run executors, with effects of its own. -/
abbrev ExecutorRunner (m : Type → Type) := Executor → ExecutorInput → m ExecutorRun

/-- Run executors and nothing else. -/
def Executor.runner : ExecutorRunner Id := Executor.run

/-- **Dispatch** a resolved action. -/
def ExecutorRegistry.dispatchWith {m : Type → Type} [Monad m] (runner : ExecutorRunner m)
    (registry : ExecutorRegistry) (policy : TimeoutPolicy) (occasion : Occasion)
    (context : ResolvedContext) (order : DispatchOrder) : m Dispatched :=
  let executionId := order.executionId.getD occasion.freshId
  match registry.get? context.datasource.plugin with
  | none =>
    let ending := DispatchEnd.notRegistered context.datasource.plugin
    pure ⟨ending.envelope occasion executionId context order 0, none⟩
  | some executor => do
    let deadlineMs := policy.deadline order.timeoutMs context.definition.timeoutMs
    let input := context.executorInput executionId order.configuration order.attachments
    let run ← runner executor input
    let stopped := decide (deadlineMs < run.durationMs)
    let waitMs := min run.durationMs deadlineMs
    let ending :=
      if stopped then DispatchEnd.timedOut deadlineMs else DispatchEnd.ofResult run.result
    pure ⟨ending.envelope occasion executionId context order waitMs,
      some ⟨executor, input, waitMs, stopped⟩⟩

/-- Dispatch a resolved action, without other effects. -/
def ExecutorRegistry.dispatch (registry : ExecutorRegistry) (policy : TimeoutPolicy)
    (occasion : Occasion) (context : ResolvedContext) (order : DispatchOrder) : Dispatched :=
  Id.run (registry.dispatchWith Executor.runner policy occasion context order)

end ActionGateway
