import ActionGateway.CommandLine.Run
import ActionGateway.Execution.Identifier
import Std.Time.DateTime.Timestamp

/-! # The program

Reads the files and variables that a command line names, runs it, and writes what it has to show.
-/

namespace ActionGateway.Program

/-- Why a file operation failed. -/
def fileError : IO.Error → FileError
  | .inappropriateType _ 21 _ => .isDirectory
  | .inappropriateType _ _ _ => .notDirectory
  | .alreadyExists _ _ _ => .alreadyExists
  | .invalidArgument _ 36 _ => .nameTooLong
  | _ => .missing

/-- What is at a path. -/
def stateAt (path : String) : IO FileState := do
  if PathName.holdsNul path then return .absent .nulInName
  try
    let content ← IO.FS.readBinFile path
    return .file content.toList
  catch error =>
    match fileError error with
    | .isDirectory => return .directory
    | cause => return .absent cause

/-- What is at each of some paths. -/
def filesAt (paths : List String) : IO Files := do
  let states ← paths.mapM fun path => do return (path, ← stateAt path)
  return fun path => (states.lookup path).getD (.absent .missing)

/-- The variables with the given names. -/
def variablesOf (names : List String) : IO Variables := do
  let values ← names.mapM fun name => do return (name, ← IO.getEnv name)
  return ⟨Variables.defaultPrefixes, fun name => (values.lookup name).join⟩

/-- Random bytes. -/
def randomBytes (count : USize) : IO (List Nat) := do
  let bytes ← IO.getRandomBytes count
  return bytes.toList.map UInt8.toNat

/-- The present, with a new id. -/
def occasion : IO Occasion := do
  let now ← Std.Time.Timestamp.now
  let nanoseconds := now.toNanosecondsSinceUnixEpoch.val
  return {
    startedAt := ⟨nanoseconds / 1000000000, (nanoseconds % 1000000000).toNat⟩
    measuredMs := fun waitMs => waitMs
    freshId := Identifier.ofRandom (← randomBytes 16) }

/-- A directory without a name is the one that the program runs in. -/
def directoryPath (path : String) : String :=
  if path.isEmpty then "." else path

/-- The place where files of an upload are kept. -/
def spoolAt (files : Files) (fresh : String) : Spool := fun directory =>
  let directory := directory.map directoryPath
  let path := directory.getD "/tmp" ++ "/" ++ fresh
  match directory.map files with
  | none | some .directory => .ok path
  | some (.absent cause) => .error (cause, path)
  | some (.file _) => .error (.notDirectory, path)

/-- What the command line finds. The settings say which directory may be needed. -/
def workplace (line : CommandLine) : IO Workplace := do
  let files ← filesAt line.readPaths
  let known ← variablesOf (line.readPaths.flatMap files.variableNames)
  let fresh := "upload-" ++ String.ofList (Identifier.digits (← randomBytes 6))
  let found : Workplace := ⟨files, known, ← occasion, spoolAt files fresh, .asWritten⟩
  match found.settings line.settings with
  | .error _ => return found
  | .ok settings =>
    let spoolFiles ← filesAt (settings.upload.spoolDirectory.map directoryPath).toList
    return { found with spool := spoolAt spoolFiles fresh }

/-- Write the text of a report to its file, if it names one. -/
def save (report : CommandReport) : IO (Except FileError Unit) := do
  match report.destination with
  | none => return .ok ()
  | some path =>
    if PathName.holdsNul path then return .error .nulInName
    try
      match PathName.directory? path with
      | some directory => IO.FS.createDirAll directory
      | none => pure ()
      IO.FS.writeFile path report.text
      return .ok ()
    catch error => return .error (fileError error)

/-- Write a transcript; the answer is the exit code. -/
def finish (transcript : Transcript) : IO UInt32 := do
  IO.print transcript.output
  IO.eprint transcript.messages
  match transcript.error with
  | none => return 0
  | some error =>
    IO.eprintln ("Error: " ++ error.message)
    return 1

/-- Run a command line. -/
def run (line : CommandLine) : IO UInt32 := do
  match line.run (← workplace line) with
  | .error error => finish (.ofError error)
  | .ok report =>
    IO.sleep report.waitMs.toUInt32
    finish (report.transcript (← save report))

end ActionGateway.Program

/-- Run the program. -/
def main (arguments : List String) : IO UInt32 := do
  let settingsVariable ← IO.getEnv "ACTUATE_SETTINGS"
  match ActionGateway.CommandLine.parse settingsVariable arguments with
  | .error error =>
    if error.exitCode = 0 then IO.println error.message else IO.eprintln error.message
    return error.exitCode.toUInt32
  | .ok line => ActionGateway.Program.run line
