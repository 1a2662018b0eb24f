import ActionGateway.Json.Reader
import ActionGateway.Upload.Part

/-! # Kinds of content

What the content type of a part says about its content, for which a lenient reading is enough:
blank space counts nowhere, and neither does the case of ASCII letters.
-/

namespace ActionGateway

/-- **Kind of content.** -/
structure ContentKind where
  /-- Type and subtype. -/
  essence : String
  /-- The first charset that is given. -/
  charset : Option String
  deriving DecidableEq, Repr

namespace ContentKind

/-- Characters with ASCII letters in lower case. -/
def lower (text : List Char) : List Char := text.map Char.toLower

/-- A value without the double quotes around it. -/
def unquoted (value : List Char) : List Char :=
  ((value.dropWhile (· == '"')).reverse.dropWhile (· == '"')).reverse

/-- The charset that a parameter gives. -/
def charset? (parameter : List Char) : Option String :=
  match parameter.span (· != '=') with
  | (name, _ :: value) =>
    if lower (Text.trim name) = "charset".toList then
      some (String.ofList (lower (unquoted (Text.trim value))))
    else none
  | _ => none

/-- The kind of content that a content type stands for. -/
def ofContentType : Option String → ContentKind
  | none => ⟨"", none⟩
  | some contentType =>
    match contentType.toList.splitOn ';' with
    | [] => ⟨"", none⟩
    | essence :: parameters =>
      ⟨String.ofList (lower (Text.trim essence)), parameters.findSome? charset?⟩

/-- The content is a JSON text. -/
def isJson (kind : ContentKind) : Bool :=
  kind.essence == "application/json" || "+json".toList.isSuffixOf kind.essence.toList

/-- The content is of no known kind. -/
def isBinary (kind : ContentKind) : Bool :=
  kind.essence == "application/octet-stream"

/-- The charsets that text may be in. -/
def supportedCharsets : List String := ["utf-8", "utf8", "us-ascii"]

/-- The charset that is given and that text may not be in. -/
def unsupportedCharset? (kind : ContentKind) : Option String :=
  kind.charset.filter fun charset => !supportedCharsets.contains charset

/-- The value of content that is not kept as a file. -/
def value (kind : ContentKind) (part : String) (content : Bytes) : Outcome Json :=
  if kind.isJson then .ofOption (Json.ofBytes? content) (.malformed (.notJson part))
  else .ofOption ((Bytes.text? content).map .str) (.malformed (.notText part))

end ContentKind

/-- The kind of content of a part. -/
def UploadPart.kind (part : UploadPart) : ContentKind :=
  .ofContentType part.contentType

/-- The part is kept as a file: it has the name of one, or is of no known kind. -/
def UploadPart.isAttachment (part : UploadPart) : Bool :=
  part.isFile || part.kind.isBinary

end ActionGateway
