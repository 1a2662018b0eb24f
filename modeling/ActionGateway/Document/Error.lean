import ActionGateway.StoreError
import ActionGateway.Variables.Resolution

/-! # Errors of loading

Why a file of settings or definitions was not accepted, cause by cause, and how each is told.
-/

namespace ActionGateway

/-- Why a file could not be read or written. -/
inductive FileError where
  | missing
  | isDirectory
  | notDirectory
  | alreadyExists
  /-- A part of the path, or the path as a whole, is longer than a name may be. -/
  | nameTooLong
  /-- The path holds a NUL, which no name does. -/
  | nulInName
  | notText
  deriving DecidableEq, Repr

/-- The text of an error. -/
def FileError.message : FileError → String
  | missing => "No such file or directory (os error 2)"
  | isDirectory => "Is a directory (os error 21)"
  | notDirectory => "Not a directory (os error 20)"
  | alreadyExists => "File exists (os error 17)"
  | nameTooLong => "File name too long (os error 36)"
  | nulInName => "file name contained an unexpected NUL byte"
  | notText => "stream did not contain valid UTF-8"

/-- What is wrong with settings that are well formed. -/
inductive SettingsFault where
  | noDefaultTimeout
  | defaultOverMaximum
  | noCacheEntries
  | blankEnvironment
  deriving DecidableEq, Repr

/-- The text of a fault. -/
def SettingsFault.message : SettingsFault → String
  | noDefaultTimeout => "execution.default_timeout_ms must be greater than 0"
  | defaultOverMaximum =>
    "execution.default_timeout_ms cannot exceed execution.max_timeout_ms"
  | noCacheEntries => "cache.max_entries must be greater than 0"
  | blankEnvironment => "default_environment cannot be empty"

/-- What is wrong with definitions that are well formed. -/
inductive ManifestFault where
  | duplicateAction (action : String)
  | unknownApplication (action application : String)
  | unknownBranch (action branch application : String)
  | unknownDatasource (action datasource : String)
  | unknownBase (action base : String)
  deriving DecidableEq, Repr

/-- The text of a fault. -/
def ManifestFault.message : ManifestFault → String
  | duplicateAction action => "Duplicate action id '" ++ action ++ "'"
  | unknownApplication action application =>
    "Action '" ++ action ++ "' references non-existent application '" ++ application ++ "'"
  | unknownBranch action branch application =>
    "Action '" ++ action ++ "' is on branch '" ++ branch ++ "' which application '" ++
      application ++ "' does not have"
  | unknownDatasource action datasource =>
    "Action '" ++ action ++ "' references non-existent datasource '" ++ datasource ++ "'"
  | unknownBase action base =>
    "Branch action '" ++ action ++ "' references non-existent base action '" ++ base ++ "'"

/-- **Load error.** -/
inductive LoadError where
  | unreadable (cause : FileError)
  | malformedYaml
  | malformedJson
  /-- The document is well formed and does not hold what it should. -/
  | unexpectedContent
  | reference (cause : VariableError)
  | settings (fault : SettingsFault)
  | manifest (fault : ManifestFault)
  /-- The extension of the file stands for no format; there may be none. -/
  | unsupportedFormat (extension : Option String)
  deriving DecidableEq, Repr

namespace LoadError

/-- What an error says about its cause. Where the text came to a stop is not reported. -/
def reason : LoadError → String
  | unreadable cause => cause.message
  | malformedYaml => "<detail>"
  | malformedJson => "<syntax>"
  | unexpectedContent => "<data>"
  | reference cause => cause.message
  | settings fault => fault.message
  | manifest fault => fault.message
  | unsupportedFormat extension => extension.getD "no extension"

/-- The text of an error. -/
def message (error : LoadError) : String :=
  let place := match error with
    | unreadable _ => "IO error: "
    | malformedYaml => "YAML parsing error: "
    | malformedJson | unexpectedContent => "JSON parsing error: "
    | reference _ => "Environment reference error: "
    | settings _ | manifest _ => "Validation error: "
    | unsupportedFormat _ => "Unsupported file format: "
  place ++ error.reason

/-- The error as a store of definitions that reads files reports it. -/
def asStoreError (error : LoadError) : StoreError :=
  match error with
  | unreadable _ => .unreadable error.reason
  | malformedYaml | malformedJson | unexpectedContent => .undecodable error.reason
  | _ => .invalid error.reason

end LoadError

end ActionGateway
