import ActionGateway.Json.Reader
import ActionGateway.Text.Quoted
import ActionGateway.Variables.Reference

/-! # Resolution of variable references

The strings of a file may refer to variables. Only variables with an allowed prefix can be read.
A string that is exactly one reference takes the value that the text of the variable spells, such
as a number; in any other string each reference is replaced by that text. Text that comes from a
variable or a fallback is never looked at again.

`Variables.check` looks at the names only and reads no variable.
-/

namespace ActionGateway

/-- **Variables of an environment** and the prefixes of the names that files may refer to. Without
prefixes every name is allowed. -/
structure Variables where
  allowedPrefixes : List String
  lookup : String → Option String

/-- Why a reference has no value. -/
inductive VariableError where
  | notFound (name : String)
  | notAllowed (name : String) (allowedPrefixes : List String)
  deriving DecidableEq, Repr

/-- The text of an error. -/
def VariableError.message : VariableError → String
  | notFound name => "Environment variable '" ++ name ++ "' not found and no default provided"
  | notAllowed name allowedPrefixes =>
    "Environment variable '" ++ name ++ "' is not in whitelist. Allowed prefixes: " ++
      Text.quotedList allowedPrefixes

namespace Variables

/-- The prefixes that files may use unless told otherwise. -/
def defaultPrefixes : List String := ["ACTUATE_", "APP_"]

/-- Files may refer to the name. -/
def allows (known : Variables) (name : String) : Bool :=
  known.allowedPrefixes.isEmpty ||
    known.allowedPrefixes.any fun allowed => allowed.toList.isPrefixOf name.toList

/-- Refuse a name that is not allowed. -/
def checkName (known : Variables) (name : String) : Except VariableError Unit :=
  if known.allows name then .ok ()
  else .error (.notAllowed name known.allowedPrefixes)

/-- The text that a reference stands for. -/
def textOf (known : Variables) (reference : VariableReference) :
    Except VariableError String := do
  known.checkName reference.name
  match known.lookup reference.name with
  | some text => .ok text
  | none =>
    match reference.fallback with
    | some fallback => .ok fallback
    | none => .error (.notFound reference.name)

/-- An array or object that a text spells out. -/
def container? (text : String) : Option Json :=
  match text.toList with
  | '\x7b' :: _ | '[' :: _ => Json.ofText? text
  | _ => none

/-- The truth value, the integer of 64 bits or the finite double that a text spells. -/
def scalar? (text : String) : Option Json :=
  match text with
  | "true" => some (.bool true)
  | "false" => some (.bool false)
  | _ =>
    match Literal.signed? 64 10 text.toList with
    | some value => some (.num (.int value))
    | none => (Literal.real? text.toList).map fun value => .num (.real value)

/-- The value that a text spells; the text itself when it spells no other. -/
def coerce (text : String) : Json :=
  ((container? text).or (scalar? text)).getD (.str text)

/-- The text of references, each followed by literal text. -/
def renderPieces (known : Variables) :
    List (VariableReference × List Char) → Except VariableError (List Char)
  | [] => .ok []
  | (reference, literal) :: rest => do
    let text ← known.textOf reference
    let after ← renderPieces known rest
    .ok (text.toList ++ literal ++ after)

/-- The value of a string. -/
def resolveText (known : Variables) (text : String) : Except VariableError Json :=
  match Text.wholeMarker? VariableReference.recognise text.toList with
  | some reference => (known.textOf reference).map coerce
  | none => do
    let pieces := Text.cut VariableReference.recognise text.toList
    let after ← known.renderPieces pieces.tail
    .ok (.str (String.ofList (pieces.head ++ after)))

mutual

/-- **Resolution.** A value with the references in its strings resolved. -/
def resolve (known : Variables) : Json → Except VariableError Json
  | .str text => known.resolveText text
  | .arr items => do
    let items ← resolveItems known items
    .ok (.arr items)
  | .obj fields => do
    let fields ← resolveFields known fields
    .ok (.obj fields)
  | scalar => .ok scalar

/-- `resolve` for each item. -/
def resolveItems (known : Variables) : List Json → Except VariableError (List Json)
  | [] => .ok []
  | item :: rest => do
    let item ← resolve known item
    let rest ← resolveItems known rest
    .ok (item :: rest)

/-- `resolve` for the value of each field. -/
def resolveFields (known : Variables) :
    List (String × Json) → Except VariableError (List (String × Json))
  | [] => .ok []
  | (name, value) :: rest => do
    let value ← resolve known value
    let rest ← resolveFields known rest
    .ok ((name, value) :: rest)

end

/-- The references in a string. -/
def referencesOfText (text : String) : List VariableReference :=
  (Text.cut VariableReference.recognise text.toList).markers

mutual

/-- The references in the strings of a value, in their order. -/
def references : Json → List VariableReference
  | .str text => referencesOfText text
  | .arr items => itemReferences items
  | .obj fields => fieldReferences fields
  | _ => []

/-- `references` for all items. -/
def itemReferences : List Json → List VariableReference
  | [] => []
  | item :: rest => references item ++ itemReferences rest

/-- `references` for the values of all fields. -/
def fieldReferences : List (String × Json) → List VariableReference
  | [] => []
  | (_, value) :: rest => references value ++ fieldReferences rest

end

/-- Check the names of references in their order. -/
def checkReferences (known : Variables) :
    List VariableReference → Except VariableError Unit
  | [] => .ok ()
  | reference :: rest => do
    known.checkName reference.name
    checkReferences known rest

/-- Check the names of all references in a value. -/
def check (known : Variables) (value : Json) : Except VariableError Unit :=
  known.checkReferences (references value)

end Variables

end ActionGateway
