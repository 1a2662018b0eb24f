import ActionGateway.CommandLine.Error
import ActionGateway.Json.Reader
import ActionGateway.PathName
import ActionGateway.Upload.Part
import ActionGateway.Yaml.Value

/-! # Files of a command

A command is given what is at each path, and makes documents and parts of uploads from it.
-/

namespace ActionGateway

/-- **What is at a path.** -/
inductive FileState where
  | absent (cause : FileError)
  | directory
  | file (content : Bytes)
  deriving DecidableEq, Repr

namespace FileState

/-- There is something. -/
def isPresent : FileState → Bool
  | absent _ => false
  | _ => true

/-- The text of a file. -/
def text : FileState → Except FileError String
  | absent cause => .error cause
  | directory => .error .isDirectory
  | file content => (Bytes.text? content).elim (.error .notText) .ok

/-- The content of a file as the body of a part. A directory fails when it is read. -/
def body : FileState → List BodyItem
  | absent cause => [.failed (.fileFailed cause none)]
  | directory => [.failed (.fileFailed .isDirectory none)]
  | file content => [.chunk content]

end FileState

/-- **Files**: what is at which path. -/
abbrev Files := String → FileState

namespace Files

/-- Refuse a path where nothing is. -/
def checkPresent (files : Files) (path : String) : Except CommandError Unit :=
  if (files path).isPresent then .ok () else .error (.fileNotFound path)

/-- The value of a document, in JSON if it can be read so, or else in YAML. -/
def document (files : Files) (path : String) : Except CommandError Json := do
  files.checkPresent path
  match (files path).text with
  | .error cause => .error (.fileFailed cause)
  | .ok content =>
    match (Json.ofText? content).or (Yaml.ofText? content) with
    | some value => .ok value
    | none => .error (.invalidArgument (.unreadableDocument path))

/-- The content type that the extension of a path stands for. -/
def contentType (path : String) : String :=
  match PathName.extension? path with
  | some "json" => "application/json"
  | some "csv" => "text/csv"
  | some "txt" => "text/plain"
  | some "png" => "image/png"
  | some "jpg" | some "jpeg" => "image/jpeg"
  | some "pdf" => "application/pdf"
  | _ => "application/octet-stream"

/-- A part that carries the file at a path. -/
def part (files : Files) (name path : String) : Except CommandError UploadPart := do
  files.checkPresent path
  match PathName.fileName? path with
  | none => .error (.invalidArgument (.noFileName path))
  | some filename =>
    .ok (.ofBody name (some filename) (some (contentType path)) (files path).body)

end Files

end ActionGateway
