/-! # Usage

What stops a command line before any command runs: it asks for help or for the version, or its
arguments do not fit together.
-/

namespace ActionGateway

/-- **Usage error.** -/
inductive UsageError where
  | helpWanted
  | versionWanted
  /-- There is nothing on the command line. -/
  | nothingGiven
  | missingSubcommand
  | unknownSubcommand (name : String)
  | unknownArgument (argument : String)
  | missingOperand (name : String)
  | missingValue (option : String)
  /-- The value is none of those that the option allows. -/
  | unknownChoice (option value : String)
  /-- The value is not of the kind that the option takes. -/
  | malformedValue (option value : String)
  | repeatedOption (option : String)
  /-- A value is attached to an option that takes none. -/
  | unwantedValue (option value : String)
  deriving DecidableEq, Repr

namespace UsageError

/-- The text of an error. -/
def message : UsageError → String
  | helpWanted =>
    "usage: action-gateway [--settings FILE] [--verbose] [--no-color] COMMAND\n" ++
      "commands: exec, upload, render, help"
  | versionWanted => "action-gateway 0.1.0"
  | nothingGiven | missingSubcommand => "a subcommand is needed: exec, upload or render"
  | unknownSubcommand name => "unknown subcommand '" ++ name ++ "'"
  | unknownArgument argument => "unexpected argument '" ++ argument ++ "'"
  | missingOperand name => "missing argument " ++ name
  | missingValue option => "a value is needed for '--" ++ option ++ "'"
  | unknownChoice option value | malformedValue option value =>
    "invalid value '" ++ value ++ "' for '--" ++ option ++ "'"
  | repeatedOption option => "'--" ++ option ++ "' can be given once only"
  | unwantedValue option value => "unexpected value '" ++ value ++ "' for '--" ++ option ++ "'"

/-- The exit code: what was asked for is no failure. -/
def exitCode : UsageError → Nat
  | helpWanted | versionWanted => 0
  | _ => 2

end UsageError

end ActionGateway
