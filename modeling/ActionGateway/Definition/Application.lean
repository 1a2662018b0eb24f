import ActionGateway.Json.Decoder

/-! # Applications -/

namespace ActionGateway

/-- **Application.** Its default branch stands for the default line of its actions; an application
without version control has none. -/
structure Application where
  id : String
  name : String
  defaultBranch : Option String
  branches : List String
  deriving DecidableEq, Repr, Inhabited

namespace Application

/-- The branch is listed. -/
def hasBranch (application : Application) (branch : String) : Bool :=
  application.branches.contains branch

/-- The branch is the default one. -/
def isDefaultBranch (application : Application) (branch : String) : Bool :=
  application.defaultBranch == some branch

/-- An application as JSON. -/
def json (application : Application) : Json :=
  Json.object [
    ("id", .str application.id),
    ("name", .str application.name),
    ("defaultBranch", Json.textOrNull application.defaultBranch),
    ("branches", Json.ofTexts application.branches)]

/-- An application from JSON; without default branch and without branches unless given. -/
def decoder : Json.Decoder Application := fun room raw => do
  let fields ← Json.Decoder.fields ["id", "name", "defaultBranch", "branches"] room raw
  let id ← fields.required "id" .text
  let name ← fields.required "name" .text
  let defaultBranch ← fields.optional "defaultBranch" (.nullable .text) none
  let branches ← fields.optional "branches" (.list .text) []
  some ⟨id, name, defaultBranch, branches⟩

end Application

end ActionGateway
