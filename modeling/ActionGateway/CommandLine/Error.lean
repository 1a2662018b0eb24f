import ActionGateway.Rejection

/-! # Errors of commands

Why a command that was understood does not succeed, cause by cause, and how each is told.
-/

namespace ActionGateway

/-- What is wrong with an argument that fits its place on the command line. -/
inductive ArgumentFault where
  /-- There is no name, or no equals sign after it. -/
  | notNamed (argument : String)
  | noFileName (path : String)
  | unreadableDocument (path : String)
  deriving DecidableEq, Repr

/-- The text of a fault. Where the text of a document came to a stop is not reported. -/
def ArgumentFault.message : ArgumentFault → String
  | notNamed argument => "Expected NAME=VALUE, got '" ++ argument ++ "'"
  | noFileName path => "'" ++ path ++ "' has no file name"
  | unreadableDocument path => "Invalid JSON/YAML file '" ++ path ++ "': <detail>"

/-- **Command error.** -/
inductive CommandError where
  | configuration (cause : LoadError)
  | rejected (reason : Rejection)
  | unresolved (cause : Unresolved)
  | fileFailed (cause : FileError)
  | invalidArgument (fault : ArgumentFault)
  | fileNotFound (path : String)
  /-- The action was run and did not succeed. -/
  | executionFailed (detail : FailureDetail)
  /-- The parts of an upload do not come to an end. -/
  | endlessUpload
  deriving DecidableEq, Repr

namespace CommandError

/-- The text of an error. -/
def message : CommandError → String
  | configuration cause => "Configuration error: " ++ cause.message
  | rejected reason => reason.message
  | unresolved cause => "Binding error: " ++ cause.message
  | fileFailed cause => "IO error: " ++ cause.message
  | invalidArgument fault => "Invalid argument: " ++ fault.message
  | fileNotFound path => "File not found: " ++ path
  | executionFailed detail =>
    "Execution failed: " ++ detail.kind.name ++ ": " ++ detail.message
  | endlessUpload => "General error: The upload does not end"

end CommandError

end ActionGateway
