import ActionGateway.Json.Basic

/-! # Hiding credentials

A field is sensitive when its name is one of a list of names or holds one of a list of parts,
whatever the case of its letters. `Json.sanitized` hides the scalars that stand directly in
sensitive fields; `Json.redacted` hides all scalars. Null is kept by both: there is nothing to
hide.
-/

namespace ActionGateway

namespace Redaction

/-- Names that are sensitive as they are. -/
def sensitiveNames : List String := [
  "password", "passwd", "pwd", "token", "access_token", "refresh_token", "authorization",
  "secret", "client_secret", "api_key", "private_key", "credential", "credentials"]

/-- Parts that make a name sensitive. -/
def sensitiveParts : List String := ["_key", "_token", "_secret", "_password"]

/-- The lower-case letter that the comparison of names takes for a character. Beyond ASCII only
the Kelvin sign has an ASCII letter as its lower-case form, so other characters can stay as they
are: none of them occurs in a sensitive name. -/
def foldCase (c : Char) : Char :=
  if c.toNat = 0x212A then 'k' else c.toLower

/-- Whether `part` occurs in `text`. -/
def occursIn (part : List Char) : List Char → Bool
  | [] => part.isEmpty
  | c :: rest => part.isPrefixOf (c :: rest) || occursIn part rest

/-- **Sensitive name.** -/
def isSensitive (name : String) : Bool :=
  let folded := name.toList.map foldCase
  sensitiveNames.any (fun sensitive => folded == sensitive.toList) ||
    sensitiveParts.any (fun part => occursIn part.toList folded)

/-- What stands in place of a hidden scalar. -/
def mask : Json := .str "***REDACTED***"

end Redaction

namespace Json

mutual

/-- The value with the scalars of its sensitive fields hidden. -/
def sanitized : Json → Json
  | .arr items => .arr (sanitizedItems items)
  | .obj fields => .obj (sanitizedFields fields)
  | scalar => scalar

/-- `sanitized` for each item. -/
def sanitizedItems : List Json → List Json
  | [] => []
  | item :: rest => item.sanitized :: sanitizedItems rest

/-- `sanitized` for the value of each field, with a scalar hidden where the name is sensitive. -/
def sanitizedFields : List (String × Json) → List (String × Json)
  | [] => []
  | (name, value) :: rest =>
    let shown :=
      if value.isScalar && value != .null && Redaction.isSensitive name then Redaction.mask
      else value.sanitized
    (name, shown) :: sanitizedFields rest

end

mutual

/-- The value with all scalars hidden. -/
def redacted : Json → Json
  | .null => .null
  | .arr items => .arr (redactedItems items)
  | .obj fields => .obj (redactedFields fields)
  | _ => Redaction.mask

/-- `redacted` for each item. -/
def redactedItems : List Json → List Json
  | [] => []
  | item :: rest => item.redacted :: redactedItems rest

/-- `redacted` for the value of each field. -/
def redactedFields : List (String × Json) → List (String × Json)
  | [] => []
  | (name, value) :: rest => (name, value.redacted) :: redactedFields rest

end

end Json

end ActionGateway
