import ActionGateway.Bytes
import ActionGateway.Json.Printer
import ActionGateway.Rejection

/-! # Parts of uploads

An upload is a stream of named parts, each with a body that arrives in chunks. A body may fail, and
it may stop without an end. After its first failure a body gives nothing more.
-/

namespace ActionGateway

/-- What a body gives when it is asked for more. -/
inductive BodyItem where
  | chunk (bytes : Bytes)
  | failed (reason : Rejection)
  /-- Nothing ever comes. -/
  | stall
  deriving DecidableEq, Repr

/-- The items of a body up to its first failure. -/
def upToFailure : List BodyItem → List BodyItem
  | [] => []
  | .failed reason :: _ => [.failed reason]
  | item :: rest => item :: upToFailure rest

/-- **Part of an upload.** -/
structure UploadPart where
  name : String
  filename : Option String
  contentType : Option String
  body : List BodyItem
  deriving DecidableEq, Repr

namespace UploadPart

/-- A part whose body is the given stream up to its first failure. -/
def ofBody (name : String) (filename contentType : Option String) (body : List BodyItem) :
    UploadPart :=
  ⟨name, filename, contentType, upToFailure body⟩

/-- A part whose content is at hand. -/
def ofBytes (name : String) (filename contentType : Option String) (content : Bytes) :
    UploadPart :=
  ofBody name filename contentType [.chunk content]

/-- A plain text part. -/
def text (name value : String) : UploadPart :=
  ofBytes name none none (Bytes.ofText value)

/-- A part that carries a JSON value. -/
def json (name : String) (value : Json) : UploadPart :=
  ofBytes name none (some "application/json") (Bytes.ofText value.compact)

/-- A part that carries a file. -/
def file (name filename : String) (contentType : Option String) (content : Bytes) : UploadPart :=
  ofBytes name (some filename) contentType content

/-- The part has the name of a file. -/
def isFile (part : UploadPart) : Bool :=
  part.filename.any fun filename => !filename.isEmpty

end UploadPart

/-- What a stream of parts gives. It ends after its first failure. -/
inductive Arrival where
  | part (part : UploadPart)
  | failed (reason : Rejection)
  deriving DecidableEq, Repr

/-- **Outcome** of something that waits for input: it is done, it is rejected, or it waits for
ever. -/
inductive Outcome (α : Type) where
  | done (value : α)
  | rejected (reason : Rejection)
  | stalled
  deriving DecidableEq, Repr

namespace Outcome

variable {α β : Type}

/-- Go on with the value once there is one. -/
def andThen (outcome : Outcome α) (next : α → Outcome β) : Outcome β :=
  match outcome with
  | done value => next value
  | rejected reason => rejected reason
  | stalled => stalled

instance : Monad Outcome where
  pure := done
  bind := andThen

/-- What is there, or a rejection. -/
def ofOption (value : Option α) (reason : Rejection) : Outcome α :=
  match value with
  | some value => done value
  | none => rejected reason

/-- What a computation that does not wait gives. -/
def ofExcept : Except Rejection α → Outcome α
  | .ok value => done value
  | .error reason => rejected reason

end Outcome

/-- The content of a body of at most `limit` bytes, after `total` bytes before it. As soon as there
are more bytes, reading ends with the given reason, whatever would come next. -/
def readBody (limit : Nat) (tooLarge : Rejection) (total : Nat) : List BodyItem → Outcome Bytes
  | [] => .done []
  | .stall :: _ => .stalled
  | .failed reason :: _ => .rejected reason
  | .chunk bytes :: rest =>
    if limit < total + bytes.length then .rejected tooLarge
    else do
      let after ← readBody limit tooLarge (total + bytes.length) rest
      pure (bytes ++ after)

/-- What is written of a body to a file of at most `limit` bytes, and the size of the file, which is
counted chunk by chunk; `size` bytes are in it already. -/
def spoolBody (limit : Nat) (tooLarge : Rejection) (size : Nat) :
    List BodyItem → Outcome (Bytes × Nat)
  | [] => .done ([], size)
  | .stall :: _ => .stalled
  | .failed reason :: _ => .rejected reason
  | .chunk bytes :: rest =>
    let size := size + bytes.length
    if limit < size then .rejected tooLarge
    else do
      let (after, whole) ← spoolBody limit tooLarge size rest
      pure (bytes ++ after, whole)

end ActionGateway
