import ActionGateway.Upload.Part

/-! # Fields of forms

A decoder of multipart bodies gives the fields of a form. Each becomes a part of an upload: without
a name its name is empty, and when its body cannot be read any further, that is told with the name
of the part.
-/

namespace ActionGateway

/-- **Field of a form**, with what its body gives when it is read. Failures come as their texts. -/
structure FormField where
  name : Option String
  filename : Option String
  /-- The text of its media type. -/
  contentType : Option String
  body : List (Except String Bytes)

namespace FormField

/-- What is read of a body, for the part of the given name. -/
def bodyItem (part : String) : Except String Bytes → BodyItem
  | .ok bytes => .chunk bytes
  | .error reason => .failed (.malformed (.unreadablePart part reason))

/-- **The part that a field becomes.** -/
def part (field : FormField) : UploadPart :=
  let name := field.name.getD ""
  .ofBody name field.filename field.contentType (field.body.map (bodyItem name))

end FormField

end ActionGateway
