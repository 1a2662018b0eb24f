import ActionGateway.CommandLine.Files
import ActionGateway.CommandLine.NamedValue
import ActionGateway.CommandLine.Report
import ActionGateway.Execution.Echo
import ActionGateway.Execution.Gateway

/-! # Running commands

An action is run by a gateway over the definitions of one file, with the built-in executors. Its
arguments become an invocation, or the parts of an upload. What is wrong with the definitions is
reported before what is wrong with the arguments.
-/

namespace ActionGateway

/-- What a command finds where it runs, and the order in which its store holds the definitions. -/
structure Workplace where
  files : Files
  knownVariables : Variables
  occasion : Occasion
  spool : Spool
  arrangement : Arrangement

namespace Workplace

/-- The settings in a file; the standard ones when none is named. -/
def settings (workplace : Workplace) : Option String → Except CommandError Settings
  | none => .ok .standard
  | some path =>
    let content := (workplace.files path).text
    (Settings.load workplace.knownVariables path content).mapError .configuration

/-- The manifest in a file. -/
def manifest (workplace : Workplace) (path : String) : Except CommandError Manifest := do
  workplace.files.checkPresent path
  let content := (workplace.files path).text
  (Manifest.load workplace.knownVariables path content).mapError .configuration

/-- The definitions in a file, as the store of the command holds them. -/
def definitions (workplace : Workplace) (path : String) : Except CommandError Definitions := do
  let manifest ← workplace.manifest path
  .ok (workplace.arrangement.arrange (.ofManifest manifest))

/-- What an invocation finds, given the definitions. -/
def surroundings (workplace : Workplace) (definitions : Definitions) : Surroundings where
  reader := definitions.reader
  nowMs := 0
  occasion := workplace.occasion
  spool := workplace.spool

end Workplace

/-- The gateway of the command line, which serves one invocation. -/
def Gateway.ofSettings (settings : Settings) : Gateway :=
  ⟨settings, Echo.addTo .empty, .first⟩

namespace Command

/-- Parameters from arguments. -/
def parameters (arguments : List String) : Except CommandError (List Parameter) := do
  let pairs ← NamedValue.parseAll NamedValue.parse arguments
  .ok (pairs.map fun pair => ⟨pair.1, pair.2⟩)

/-- Bindings from arguments. -/
def bindings (arguments : List String) : Except CommandError Bindings := do
  let pairs ← NamedValue.parseAll NamedValue.parseBinding arguments
  .ok (.ofList pairs)

/-- The invocation that arguments ask for. -/
def invocation (target : CommandTarget) (query header bindings : List String)
    (options : RunOptions) : Except CommandError Invocation := do
  let query ← parameters query
  let header ← parameters header
  let bindings ← Command.bindings bindings
  .ok {
    actionId := target.actionId
    branchName := target.branch
    params := ⟨query, header⟩
    bindings := bindings
    viewMode := target.viewMode
    substitutionMode := options.substitutionMode
    timeoutMs := options.timeoutMs
    attachments := [] }

/-- The descriptor of the upload that arguments ask for. -/
def descriptorPart (target : CommandTarget) (options : RunOptions) : UploadPart :=
  .json descriptorName <| Json.object <|
    [("actionId", .str target.actionId), ("viewMode", .bool (target.viewMode == .view))] ++
    (if options.substitutionMode = .lenient then
      [("substitutionMode", .str options.substitutionMode.name)] else []) ++
    (options.timeoutMs.map fun timeoutMs => ("timeoutMs", Json.ofNat timeoutMs)).toList

/-- The map from bindings to parts, if there is any. -/
def parameterMapParts (arguments : List String) : Except CommandError (List UploadPart) := do
  let pairs ← NamedValue.parseAll NamedValue.parse arguments
  if pairs.isEmpty then .ok []
  else
    .ok [.json parameterMapName (Json.object (pairs.map fun pair => (pair.1, .str pair.2)))]

/-- A part with the file that an argument names. -/
def filePart (files : Files) (argument : String) : Except CommandError UploadPart := do
  let (name, path) ← NamedValue.parse argument
  files.part name path

/-- The parts of the upload that arguments ask for. -/
def uploadParts (files : Files) (target : CommandTarget)
    (fields fileArguments parameterMap : List String) (options : RunOptions) :
    Except CommandError (List UploadPart) := do
  let mapParts ← parameterMapParts parameterMap
  let fields ← NamedValue.parseAll NamedValue.parse fields
  let fileParts ← NamedValue.parseAll (filePart files) fileArguments
  .ok (descriptorPart target options :: mapParts ++
    fields.map (fun field => UploadPart.text field.1 field.2) ++ fileParts)

/-- The report of a dispatch that came about. -/
def reportOf (options : RunOptions) : Outcome Dispatched → Except CommandError CommandReport
  | .done dispatched => .ok (dispatched.envelope.report dispatched.waitMs options)
  | .rejected reason => .error (.rejected reason)
  | .stalled => .error .endlessUpload

/-- Execute an action. -/
def runExec (workplace : Workplace) (settings : Settings) (target : CommandTarget)
    (query header bindings : List String) (options : RunOptions) :
    Except CommandError CommandReport := do
  let definitions ← workplace.definitions target.definitions
  let invocation ← invocation target query header bindings options
  let (dispatched, _) := (Gateway.ofSettings settings).execute
    (workplace.surroundings definitions) .empty invocation target.environmentId
  reportOf options (.ofExcept dispatched)

/-- Execute an action as an upload. -/
def runUpload (workplace : Workplace) (settings : Settings) (target : CommandTarget)
    (fields files parameterMap : List String) (options : RunOptions) :
    Except CommandError CommandReport := do
  let definitions ← workplace.definitions target.definitions
  let parts ← uploadParts workplace.files target fields files parameterMap options
  let (dispatched, _) := (Gateway.ofSettings settings).executeUpload
    (workplace.surroundings definitions) .empty (parts.map Arrival.part) target.branch
    target.environmentId
  reportOf options dispatched

/-- Render a file. -/
def runRender (workplace : Workplace) (file : String) (bindings : List String)
    (mode : SubstitutionMode) (format : OutputFormat) : Except CommandError CommandReport := do
  let document ← workplace.files.document file
  let bindings ← Command.bindings bindings
  match document.substitute bindings mode with
  | .error cause => .error (.unresolved cause)
  | .ok rendered => .ok {
      warnings := rendered.warnings.map Unresolved.warning
      text := format.text rendered.value
      destination := none
      closing := none
      failure := none
      waitMs := 0 }

/-- Run a command. -/
def run (workplace : Workplace) (settings : Settings) :
    Command → Except CommandError CommandReport
  | exec target query header bindings options =>
    runExec workplace settings target query header bindings options
  | upload target fields files parameterMap options =>
    runUpload workplace settings target fields files parameterMap options
  | render file bindings mode format => runRender workplace file bindings mode format

/-- The paths that a command reads. -/
def readPaths : Command → List String
  | exec target _ _ _ _ => [target.definitions]
  | upload target _ files _ _ =>
    target.definitions :: files.filterMap fun argument =>
      (NamedValue.parse argument).toOption.map Prod.snd
  | render file _ _ _ => [file]

end Command

/-- The paths that a command line reads. -/
def CommandLine.readPaths (line : CommandLine) : List String :=
  line.settings.toList ++ line.command.readPaths

/-- The names of the variables that a document refers to; none when it cannot be read. -/
def Files.variableNames (files : Files) (path : String) : List String :=
  match (files path).text, DocumentFormat.ofPath path with
  | .ok content, .ok format =>
    match format.read content with
    | .ok value => (Variables.references value).map VariableReference.name
    | .error _ => []
  | _, _ => []

/-- **Run a command line**: load the settings, then run the command. -/
def CommandLine.run (line : CommandLine) (workplace : Workplace) :
    Except CommandError CommandReport := do
  let settings ← workplace.settings line.settings
  line.command.run workplace settings

end ActionGateway
