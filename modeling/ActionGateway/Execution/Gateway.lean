import ActionGateway.Execution.Dispatch
import ActionGateway.Resolution.Cache
import ActionGateway.Upload.Normalization

/-! # The gateway

An invocation is resolved to a context, its bindings are put into the configuration, and the
result is dispatched. Every failure before the dispatch is a rejection, after which no executor is
called. An invocation comes structured or as an upload; the context of an upload is resolved as
soon as its descriptor was read.

Running an executor is the one thing here that may have effects, so how it is done is a parameter.
-/

namespace ActionGateway

/-- **Gateway**: settings, executors, and how its cache gives entries up. -/
structure Gateway where
  settings : Settings
  registry : ExecutorRegistry
  eviction : Eviction

/-- What an invocation finds when it arrives: definitions, the time in milliseconds, a place for
files. -/
structure Surroundings where
  reader : DefinitionReader
  nowMs : Nat
  occasion : Occasion
  spool : Spool

namespace Gateway

/-- The policy of the cache. -/
def policy (gateway : Gateway) : CachePolicy :=
  gateway.settings.cache.policy gateway.eviction

/-- Resolve a context. -/
def resolve (gateway : Gateway) (surroundings : Surroundings) (cache : ContextCache)
    (actionId : String) (branch : Option String) (environmentId : String) (viewMode : ViewMode) :
    Except Rejection ResolvedContext × ContextCache :=
  cache.resolve gateway.policy surroundings.reader surroundings.nowMs
    (.ofCall gateway.settings.defaultEnvironment actionId branch environmentId viewMode)

/-- Put the bindings into the configuration and dispatch it. -/
def runWith {m : Type → Type} [Monad m] (runner : ExecutorRunner m) (gateway : Gateway)
    (surroundings : Surroundings) (invocation : Invocation) (context : ResolvedContext) :
    m (Except Rejection Dispatched) :=
  match context.definition.configuration.substitute invocation.mergedBindings
      invocation.substitutionMode with
  | .error unresolved => pure (.error (.unresolvedBinding unresolved))
  | .ok substituted => do
    let dispatched ← gateway.registry.dispatchWith runner gateway.settings.execution
      surroundings.occasion context {
        configuration := substituted.value
        executionId := none
        timeoutMs := invocation.timeoutMs
        attachments := invocation.attachments
        warnings := substituted.warnings.map Unresolved.warning }
    pure (.ok dispatched)

/-- **Execute a structured invocation.** -/
def executeWith {m : Type → Type} [Monad m] (runner : ExecutorRunner m) (gateway : Gateway)
    (surroundings : Surroundings) (cache : ContextCache) (invocation : Invocation)
    (environmentId : String) : m (Except Rejection Dispatched × ContextCache) :=
  match invocation.params.checkNamed with
  | .error reason => pure (.error reason, cache)
  | .ok () =>
    match gateway.resolve surroundings cache invocation.actionId invocation.branch environmentId
        invocation.viewMode with
    | (.error reason, cache) => pure (.error reason, cache)
    | (.ok context, cache) => do
      let result ← gateway.runWith runner surroundings invocation context
      pure (result, cache)

/-- The context of an upload, resolved from the hint of its descriptor. Without a hint nothing is
resolved. -/
def resolveHint (gateway : Gateway) (surroundings : Surroundings) (cache : ContextCache)
    (hint : Option Hint) (branch : Option String) (environmentId : String) :
    Option (Except Rejection ResolvedContext) × ContextCache :=
  match hint with
  | none => (none, cache)
  | some hint =>
    let (context, cache) :=
      gateway.resolve surroundings cache hint.actionId branch environmentId hint.viewMode
    (some context, cache)

/-- **Execute an upload.** What is wrong with the upload is reported before what is wrong with its
context. -/
def executeUploadWith {m : Type → Type} [Monad m] (runner : ExecutorRunner m) (gateway : Gateway)
    (surroundings : Surroundings) (cache : ContextCache) (arrivals : List Arrival)
    (branch : Option String) (environmentId : String) : m (Outcome Dispatched × ContextCache) :=
  let uploaded := invocationOfUpload gateway.settings.upload surroundings.spool arrivals
  let (early, cache) :=
    gateway.resolveHint surroundings cache uploaded.hint branch environmentId
  match uploaded.invocation with
  | .stalled => pure (.stalled, cache)
  | .rejected reason => pure (.rejected reason, cache)
  | .done invocation =>
    let invocation := { invocation with branchName := branch.or invocation.branchName }
    let resolved := match early with
      | some context => (context, cache)
      | none =>
        gateway.resolve surroundings cache invocation.actionId invocation.branch environmentId
          invocation.viewMode
    match resolved with
    | (.error reason, cache) => pure (.rejected reason, cache)
    | (.ok context, cache) => do
      let result ← gateway.runWith runner surroundings invocation context
      pure (.ofExcept result, cache)

/-- Execute a structured invocation, without other effects. -/
def execute (gateway : Gateway) (surroundings : Surroundings) (cache : ContextCache)
    (invocation : Invocation) (environmentId : String) :
    Except Rejection Dispatched × ContextCache :=
  Id.run (gateway.executeWith Executor.runner surroundings cache invocation environmentId)

/-- Execute an upload, without other effects. -/
def executeUpload (gateway : Gateway) (surroundings : Surroundings) (cache : ContextCache)
    (arrivals : List Arrival) (branch : Option String) (environmentId : String) :
    Outcome Dispatched × ContextCache :=
  Id.run
    (gateway.executeUploadWith Executor.runner surroundings cache arrivals branch environmentId)

/-- Put bindings into a value of any shape; every marker has to resolve. -/
def substituteVariables (shape : Shape) (value : shape.Value) (bindings : Bindings) :
    Except Rejection shape.Value :=
  match shape.substitute value bindings .strict with
  | .ok substituted => .ok substituted.value
  | .error unresolved => .error (.unresolvedBinding unresolved)

end Gateway

end ActionGateway
