import ActionGateway.Invocation
import ActionGateway.Json.Decoder
import ActionGateway.Resolution.Context
import ActionGateway.Text.Quoted

/-! # Executors

An executor runs actions on datasources of one kind. What it does takes some time and ends in an
answer of the backend or in an error.
-/

namespace ActionGateway

/-- What is known about an executor. -/
structure ExecutorInfo where
  kind : String
  displayName : String
  description : String
  version : String
  deriving DecidableEq, Repr

namespace ExecutorInfo

/-- What is known about an executor that says nothing but its kind. -/
def ofKind (kind : String) : ExecutorInfo := ⟨kind, kind, "", "1.0"⟩

/-- Information as JSON. -/
def json (info : ExecutorInfo) : Json :=
  Json.object [
    ("kind", .str info.kind),
    ("displayName", .str info.displayName),
    ("description", .str info.description),
    ("version", .str info.version)]

end ExecutorInfo

/-- **What an executor is given.** -/
structure ExecutorInput where
  executionId : String
  actionId : String
  actionName : String
  environmentId : String
  /-- The connection of the datasource in the environment. -/
  config : Json
  credentials : Json
  /-- The configuration of the action with its bindings put in. -/
  configuration : Json
  attachments : List Attachment
  deriving DecidableEq, Repr

/-- The input for a context. -/
def ResolvedContext.executorInput (context : ResolvedContext) (executionId : String)
    (configuration : Json) (attachments : List Attachment) : ExecutorInput where
  executionId := executionId
  actionId := context.action.id
  actionName := context.action.name
  environmentId := context.environmentId
  config := context.storage.config
  credentials := context.storage.credentials
  configuration := configuration
  attachments := attachments

/-- **What a backend answered.** -/
structure ExecutorOutput where
  /-- The status of the backend, if it gave one. -/
  statusCode : Option String
  body : Json
  headers : OrderedMap Json
  deriving DecidableEq

/-- **Why an executor failed.** -/
inductive ExecutorError where
  | failed (message : String) (code : Option String)
  | invalidConfiguration (message : String)
  | connection (message : String)
  | authentication (message : String)
  | serialization (message : String)
  | inputOutput (message : String)
  deriving DecidableEq, Repr

namespace ExecutorError

/-- The text of an error. -/
def message : ExecutorError → String
  | failed message _ => "Execution failed: " ++ message
  | invalidConfiguration message => "Invalid configuration: " ++ message
  | connection message => "Connection error: " ++ message
  | authentication message => "Authentication failed: " ++ message
  | serialization message => "Serialization error: " ++ message
  | inputOutput message => "IO error: " ++ message

/-- The code that callers see. -/
def code : ExecutorError → Option String
  | failed _ code => code
  | invalidConfiguration _ => some "INVALID_CONFIG"
  | connection _ => some "CONNECTION"
  | authentication _ => some "AUTHENTICATION"
  | serialization _ | inputOutput _ => none

end ExecutorError

/-- A run of an executor: how long it takes, in milliseconds, and how it ends. -/
structure ExecutorRun where
  durationMs : Nat
  result : Except ExecutorError ExecutorOutput

/-- **Executor.** -/
structure Executor where
  info : ExecutorInfo
  run : ExecutorInput → ExecutorRun

/-- The kind of datasources that an executor runs on. -/
def Executor.kind (executor : Executor) : String := executor.info.kind

/-! ## Registry -/

/-- **Registry of executors**, in the order of their kinds. -/
structure ExecutorRegistry where
  executors : List (String × Executor)

namespace ExecutorRegistry

/-- No executors. -/
def empty : ExecutorRegistry := ⟨[]⟩

/-- Register an executor under its kind. It takes the place of one that was registered before. -/
def register (registry : ExecutorRegistry) (executor : Executor) : ExecutorRegistry :=
  ⟨Json.putField executor.kind executor registry.executors⟩

/-- The executor of a kind. -/
def get? (registry : ExecutorRegistry) (kind : String) : Option Executor :=
  registry.executors.lookup kind

/-- An executor of the kind is registered. -/
def contains (registry : ExecutorRegistry) (kind : String) : Bool :=
  (registry.get? kind).isSome

/-- The kinds in their order. -/
def kinds (registry : ExecutorRegistry) : List String :=
  registry.executors.map Prod.fst

/-- What is known about the executors, in the order of their kinds. -/
def infos (registry : ExecutorRegistry) : List ExecutorInfo :=
  registry.executors.map fun entry => entry.2.info

/-- The number of executors. -/
def size (registry : ExecutorRegistry) : Nat :=
  registry.executors.length

/-- A description for diagnostics. -/
def describe (registry : ExecutorRegistry) : String :=
  "ExecutorRegistry \x7b plugins: [" ++
    ", ".intercalate (registry.kinds.map fun kind => "PluginKind(" ++ Text.quoted kind ++ ")") ++
    "] \x7d"

end ExecutorRegistry

end ActionGateway
