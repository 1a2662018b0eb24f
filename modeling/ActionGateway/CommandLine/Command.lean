import ActionGateway.CommandLine.Arguments
import ActionGateway.Definition.Action
import ActionGateway.Invocation
import ActionGateway.OutputFormat

/-! # Commands

The program executes an action, executes it as an upload, or renders a file with bindings put in.
-/

namespace ActionGateway

/-- Which action is run, and where. -/
structure CommandTarget where
  /-- The file with the definitions. -/
  definitions : String
  actionId : String
  branch : Option String
  /-- Empty for the default one. -/
  environmentId : String
  viewMode : ViewMode
  deriving DecidableEq, Repr

/-- How an action is run, and what becomes of its result. -/
structure RunOptions where
  substitutionMode : SubstitutionMode
  timeoutMs : Option Nat
  format : OutputFormat
  /-- A file for the output. -/
  output : Option String
  deriving DecidableEq, Repr

/-- **Command.** Pairs are written with an equals sign between name and value. -/
inductive Command where
  | exec (target : CommandTarget) (query header bindings : List String) (options : RunOptions)
  | upload (target : CommandTarget) (fields files parameterMap : List String)
    (options : RunOptions)
  | render (file : String) (bindings : List String) (mode : SubstitutionMode)
    (format : OutputFormat)
  deriving DecidableEq, Repr

/-- **Command line**: a command and what holds for every command. -/
structure CommandLine where
  settings : Option String
  verbose : Bool
  noColor : Bool
  command : Command
  deriving DecidableEq, Repr

namespace Command

/-- An option that asks for help. -/
def helpOption : OptionSpec := ⟨"help", some 'h', .help⟩

/-- An option that chooses the format of the output. -/
def formatOption : OptionSpec :=
  ⟨"format", none, .single (.choice (OutputFormat.all.map OutputFormat.name))⟩

/-- An option that lets markers stay unresolved. -/
def lenientOption : OptionSpec := ⟨"lenient", none, .switch⟩

/-- An option that gives a binding. -/
def bindOption : OptionSpec := ⟨"bind", some 'b', .repeated⟩

/-- Options that say which action is run and how. -/
def runOptions : List OptionSpec := [
  ⟨"branch", none, .single .text⟩,
  ⟨"env", none, .single .text⟩,
  ⟨"view", none, .switch⟩,
  lenientOption,
  ⟨"timeout-ms", none, .single .unsigned⟩,
  formatOption,
  ⟨"output", none, .single .text⟩,
  helpOption]

/-- What executing an action takes. -/
def execSpec : ArgumentSpec where
  options :=
    [⟨"query", some 'q', .repeated⟩, ⟨"header", some 'H', .repeated⟩, bindOption] ++ runOptions
  operands := ["DEFINITIONS", "ACTION_ID"]
  subcommands := []

/-- What executing an action as an upload takes. -/
def uploadSpec : ArgumentSpec where
  options :=
    [⟨"field", some 'f', .repeated⟩, ⟨"file", none, .repeated⟩, ⟨"map", none, .repeated⟩] ++
      runOptions
  operands := ["DEFINITIONS", "ACTION_ID"]
  subcommands := []

/-- What rendering a file takes. -/
def renderSpec : ArgumentSpec where
  options := [bindOption, lenientOption, formatOption, helpOption]
  operands := ["FILE"]
  subcommands := []

/-- The substitution mode that the arguments ask for. -/
def substitutionMode (given : GivenArguments) : SubstitutionMode :=
  if given.has "lenient" then .lenient else .strict

/-- The format that the arguments ask for. -/
def format (given : GivenArguments) : OutputFormat :=
  ((given.value? "format").bind OutputFormat.ofName?).getD .pretty

/-- The action that the arguments name. -/
def target (given : GivenArguments) : CommandTarget where
  definitions := given.operands.head?.getD ""
  actionId := given.operands.tail.head?.getD ""
  branch := given.value? "branch"
  environmentId := (given.value? "env").getD ""
  viewMode := .ofFlag (given.has "view")

/-- How the arguments ask for the action to be run. -/
def options (given : GivenArguments) : RunOptions where
  substitutionMode := substitutionMode given
  timeoutMs := (given.value? "timeout-ms").bind fun text => Literal.unsigned? 64 10 text.toList
  format := format given
  output := given.value? "output"

/-- The error that answers a call for help on a subcommand. -/
def helpOn : List String → UsageError
  | [] => .helpWanted
  | [name] =>
    if ["exec", "upload", "render", "help"].contains name then .helpWanted
    else .unknownSubcommand name
  | name :: second :: _ =>
    if ["exec", "upload", "render", "help"].contains name then .unknownSubcommand second
    else .unknownSubcommand name

/-- A command from its name and arguments. -/
def parse (name : String) (arguments : List String) : Except UsageError Command :=
  match name with
  | "exec" => do
    let given ← execSpec.read arguments
    .ok (.exec (target given) (given.values "query") (given.values "header")
      (given.values "bind") (options given))
  | "upload" => do
    let given ← uploadSpec.read arguments
    .ok (.upload (target given) (given.values "field") (given.values "file")
      (given.values "map") (options given))
  | "render" => do
    let given ← renderSpec.read arguments
    .ok (.render (given.operands.head?.getD "") (given.values "bind") (substitutionMode given)
      (format given))
  | "help" => .error (helpOn arguments)
  | _ => .error (.unknownSubcommand name)

end Command

namespace CommandLine

/-- What the program itself takes. -/
def spec : ArgumentSpec where
  options := [
    ⟨"settings", none, .single .text⟩,
    ⟨"verbose", some 'v', .switch⟩,
    ⟨"no-color", none, .switch⟩,
    Command.helpOption,
    ⟨"version", some 'V', .version⟩]
  operands := []
  subcommands := ["exec", "upload", "render", "help"]

/-- The error when there is no subcommand. -/
def withoutSubcommand (given : GivenArguments) (settingsVariable : Option String) : UsageError :=
  if given.options.isEmpty && settingsVariable.isNone then .nothingGiven else .missingSubcommand

/-- **Command line from its arguments.** A variable of the environment may name the settings. What
is wrong with the arguments of a subcommand is reported before what is wrong with a pending option
before it. -/
def parse (settingsVariable : Option String) (arguments : List String) :
    Except UsageError CommandLine := do
  let scanned ← spec.scan .none false arguments
  match scanned.subcommand with
  | some (name, rest) =>
    let command ← Command.parse name rest
    let given ← scanned.given.settle
    .ok {
      settings := (given.value? "settings").or settingsVariable
      verbose := given.has "verbose"
      noColor := given.has "no-color"
      command := command }
  | none =>
    let given ← scanned.given.settle
    .error (withoutSubcommand given settingsVariable)

end CommandLine

end ActionGateway
