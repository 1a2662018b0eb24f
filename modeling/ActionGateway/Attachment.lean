import ActionGateway.Bytes
import ActionGateway.Json.Basic

/-! # Attachments -/

namespace ActionGateway

/-- **Attachment.** An uploaded file with the place where its content is kept. -/
structure Attachment where
  partName : String
  filename : String
  contentType : Option String
  /-- The number of bytes that were counted when the content was kept. -/
  size : Nat
  path : String
  content : Bytes
  deriving DecidableEq, Repr, Inhabited

namespace Attachment

/-- What stands for the file in bindings: everything but its content. -/
def json (attachment : Attachment) : Json :=
  Json.object [
    ("name", .str attachment.partName),
    ("filename", .str attachment.filename),
    ("contentType", Json.textOrNull attachment.contentType),
    ("size", Json.ofNat attachment.size),
    ("path", .str attachment.path)]

end Attachment

end ActionGateway
