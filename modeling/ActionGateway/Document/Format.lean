import ActionGateway.Document.Error
import ActionGateway.Json.Decoder
import ActionGateway.PathName
import ActionGateway.Yaml.Value

/-! # Documents

Settings and definitions are documents in one of two formats, told by the extension of the file.
Whatever the format, a document is a JSON value whose strings may refer to variables.
-/

namespace ActionGateway

/-- **Document format.** -/
inductive DocumentFormat where
  | yaml
  | json
  deriving DecidableEq, Repr

namespace DocumentFormat

/-- The format that an extension stands for. -/
def ofExtension? : String → Option DocumentFormat
  | "yaml" | "yml" => some yaml
  | "json" => some json
  | _ => none

/-- The format of the file that a path leads to. -/
def ofPath (path : String) : Except LoadError DocumentFormat :=
  let extension := PathName.extension? path
  match extension.bind ofExtension? with
  | some format => .ok format
  | none => .error (.unsupportedFormat extension)

/-- The value of a document. -/
def read (format : DocumentFormat) (content : String) : Except LoadError Json :=
  match format with
  | yaml => (Yaml.ofText? content).elim (.error .malformedYaml) .ok
  | json => (Json.ofText? content).elim (.error .malformedJson) .ok

end DocumentFormat

/-- Resolve the variables of a document and decode it. -/
def Variables.decode {α : Type} (known : Variables) (decoder : Json.Decoder α)
    (document : Json) : Except LoadError α :=
  match known.resolve document with
  | .error cause => .error (.reference cause)
  | .ok resolved =>
    match decoder.ofValue? resolved with
    | some value => .ok value
    | none => .error .unexpectedContent

/-- Load a file that was read: find its format, then parse its content. -/
def loadFile {α : Type} (parse : String → DocumentFormat → Except LoadError α) (path : String) :
    Except FileError String → Except LoadError α
  | .error cause => .error (.unreadable cause)
  | .ok content => (DocumentFormat.ofPath path).bind (parse content)

end ActionGateway
