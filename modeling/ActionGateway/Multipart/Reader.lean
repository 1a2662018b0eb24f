import ActionGateway.Multipart.Header
import ActionGateway.Multipart.Stream

/-! # A decoder of multipart bodies

Streams of parts work with any decoder of forms, and how a decoder is built is its own affair. This
one is used to run uploads here. A delimiter is two hyphens and the boundary. What comes before the
first delimiter does not count; after a delimiter two hyphens end the body, otherwise the headers of
a field follow on the next line, and after an empty line its content up to a line break and the next
delimiter.
-/

namespace ActionGateway.Multipart

/-- Two hyphens. -/
def hyphens : Bytes := Bytes.ofText "--"

/-- Carriage return and line feed. -/
def lineBreak : Bytes := Bytes.ofText "\r\n"

/-- The delimiter for a boundary. -/
def delimiter (boundary : String) : Bytes := hyphens ++ Bytes.ofText boundary

/-- The bytes before the first occurrence of a mark and those after it. `before` holds the bytes
passed, last one first. -/
def splitAtMark (mark before : Bytes) : Bytes → Option (Bytes × Bytes)
  | [] => none
  | byte :: rest =>
    if mark.isPrefixOf (byte :: rest) then some (before.reverse, (byte :: rest).drop mark.length)
    else splitAtMark mark (byte :: before) rest

/-- The rest after something that stands at the start. -/
def after? (expected bytes : Bytes) : Option Bytes :=
  if expected.isPrefixOf bytes then some (bytes.drop expected.length) else none

/-- Why a multipart body cannot be taken apart. -/
inductive Fault where
  /-- The body ends too early, or there is something else than a delimiter. -/
  | incomplete
  | unreadableHeaders
  /-- The transport broke off. -/
  | interrupted
  deriving DecidableEq, Repr

/-- The text of a fault. -/
def Fault.message : Fault → String
  | incomplete => "incomplete multipart stream"
  | unreadableHeaders => "failed to read headers"
  | interrupted => "failed to read stream"

/-- The field with the given headers and content, which is missing when no delimiter closes it.
`valueOf` reads an attribute of a content disposition. -/
def field (valueOf : Bytes → String → Option String) (headers : List PartHeader)
    (content : Option Bytes) : FormField :=
  let disposition := PartHeader.value? headers "content-disposition"
  let name := disposition.bind fun value => valueOf value "name"
  let contentType := (PartHeader.value? headers "content-type").bind fun value =>
    if value.all fun byte => byte == 0x09 || (0x20 ≤ byte && byte < 0x7F) then
      ((Bytes.text? value).bind MediaType.ofText?).map MediaType.text
    else none
  { name := name
    filename := disposition.bind fun value => valueOf value "filename"
    contentType := contentType
    body := [match content with
      | some bytes => .ok bytes
      | none => .error ("field " ++ Text.quoted (name.getD "<unknown>") ++
        " received with incomplete data")] }

/-- What follows a delimiter. -/
inductive Continuation where
  | finished
  | broken (fault : Fault)
  /-- Headers, a content, and what follows the delimiter behind it. -/
  | field (headers : List PartHeader) (content rest : Bytes)
  /-- Headers and a content that no delimiter closes. -/
  | openField (headers : List PartHeader)

/-- What follows a delimiter: the end, or a field. -/
def continuation (boundary : String) (bytes : Bytes) : Continuation :=
  if (bytes.drop 1).isEmpty then .broken .incomplete
  else
    match after? hyphens bytes with
    | some _ => .finished
    | none =>
      match after? lineBreak (bytes.dropWhile PartHeader.isBlankByte) with
      | none => .broken .incomplete
      | some bytes =>
        match splitAtMark (lineBreak ++ lineBreak) [] bytes with
        | none => .broken .incomplete
        | some (block, content) =>
          match PartHeader.ofBlock? (block ++ lineBreak ++ lineBreak) with
          | none => .broken .unreadableHeaders
          | some headers =>
            match splitAtMark (lineBreak ++ delimiter boundary) [] content with
            | some (content, rest) => .field headers content rest
            | none => .openField headers

/-- How far a body has been taken apart. -/
inductive Progress where
  /-- No delimiter has been looked for. -/
  | unread (boundary : String) (body : Bytes)
  /-- The bytes follow a delimiter. -/
  | delimited (boundary : String) (bytes : Bytes)
  | stuck (fault : Fault)
  | finished

/-- What is given for what follows a delimiter. -/
def Continuation.decoded (valueOf : Bytes → String → Option String) (boundary : String) :
    Continuation → Option (Except String FormField) × Progress
  | finished => (none, .finished)
  | broken fault => (some (.error fault.message), .stuck fault)
  | field headers content rest =>
    (some (.ok (Multipart.field valueOf headers (some content))), .delimited boundary rest)
  | openField headers => (some (.ok (Multipart.field valueOf headers none)), .finished)

/-- **A decoder of forms**, given how attributes of content dispositions are read. It looks at
nothing before the whole body is there, so when the transport breaks off there are no fields. Once
it cannot go on, it says so at every request. -/
def reader (valueOf : Bytes → String → Option String) : FormDecoder Progress where
  start boundary chunks interrupted :=
    if interrupted then .stuck .interrupted else .unread boundary chunks.flatten
  fields := {
    ask
      | .unread boundary body =>
        match splitAtMark (delimiter boundary) [] body with
        | none => (some (.error Fault.incomplete.message), .stuck .incomplete)
        | some (_, rest) => (continuation boundary rest).decoded valueOf boundary
      | .delimited boundary bytes => (continuation boundary bytes).decoded valueOf boundary
      | .stuck fault => (some (.error fault.message), .stuck fault)
      | .finished => (none, .finished) }

/-- The stream of the parts of a body that arrives in chunks. -/
def streamChunks (boundary : String) (chunks : List Bytes) (interrupted : Bool)
    (late : Nat → Option Arrival) : Nat → Option Arrival :=
  (reader Disposition.attribute?).stream boundary chunks interrupted late

/-! ## All at once -/

/-- A body that cannot be taken apart any further. -/
def broken (fault : Fault) : Arrival :=
  .failed (.malformed (.multipart fault.message))

/-- A part with the given headers and content. -/
def part (headers : List PartHeader) (content : Option Bytes) : Arrival :=
  .part (field Disposition.attribute? headers content).part

/-- The parts after a delimiter. Each takes at least one byte, so there are no more of them than
bytes. -/
def arrivals (boundary : String) : Nat → Bytes → List Arrival
  | 0, _ => []
  | fuel + 1, bytes =>
    match continuation boundary bytes with
    | .finished => []
    | .broken fault => [broken fault]
    | .field headers content rest =>
      part headers (some content) :: arrivals boundary fuel rest
    | .openField headers => [part headers none]

/-- **The parts of a multipart body.** -/
def read (boundary : String) (body : Bytes) : List Arrival :=
  match splitAtMark (delimiter boundary) [] body with
  | none => [broken .incomplete]
  | some (_, rest) => arrivals boundary (rest.length + 1) rest

/-- The parts of a body that arrives in chunks, all at once. -/
def readChunks (boundary : String) (chunks : List Bytes) (interrupted : Bool) : List Arrival :=
  if interrupted then [broken .interrupted]
  else read boundary chunks.flatten

/-- The boundary that a content type gives. -/
def boundary (contentType : String) : Except Rejection String :=
  let fault? := fun fault => Except.error (Rejection.malformed (.boundary fault))
  match MediaType.ofText? contentType with
  | none => fault? .notMediaType
  | some mediaType =>
    if mediaType.main = "multipart".toList ∧ mediaType.baseSubtype = "form-data".toList then
      match mediaType.parameter? "boundary" with
      | some boundary => .ok boundary
      | none => fault? .noBoundary
    else fault? .notFormData

end ActionGateway.Multipart
