import ActionGateway.Text.Pieces

/-! # References to variables

A file may refer to a variable of the environment by `${name}`, or by `${name:fallback}` with a
text that stands in when the variable is not set. A name has at least one character and holds
neither a closing brace nor a colon; a fallback may be empty and holds no closing brace.
-/

namespace ActionGateway

/-- **Reference to a variable.** -/
structure VariableReference where
  name : String
  fallback : Option String
  deriving DecidableEq, Repr

namespace VariableReference

/-- A character that may stand in the name of a variable. -/
def isNameChar (c : Char) : Bool :=
  c != '\x7d' && c != ':'

/-- A character that may stand in a fallback. -/
def isFallbackChar (c : Char) : Bool :=
  c != '\x7d'

/-- What follows a name: the end of the reference, or a fallback and the end. The length counts
everything after the name. -/
def afterName? : List Char → Option (Option String × Nat)
  | '\x7d' :: _ => some (none, 1)
  | ':' :: rest =>
    let fallback := rest.takeWhile isFallbackChar
    match rest.drop fallback.length with
    | '\x7d' :: _ => some (some (String.ofList fallback), fallback.length + 2)
    | _ => none
  | _ => none

/-- A reference at the start of the text. One that begins and does not end shows that no closing
brace is left, and so no reference. -/
def recognise : Text.Recogniser VariableReference
  | '$' :: '\x7b' :: rest =>
    let name := rest.takeWhile isNameChar
    if name.isEmpty then .literal
    else
      match afterName? (rest.drop name.length) with
      | some (fallback, size) => .marker ⟨String.ofList name, fallback⟩ (name.length + size + 2)
      | none => .exhausted
  | _ => .literal

end VariableReference

end ActionGateway
