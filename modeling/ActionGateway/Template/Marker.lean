import ActionGateway.Text.Blank
import ActionGateway.Text.Pieces

/-! # Markers in templates

A placeholder is a name between double braces, with blank characters around the name; the name
itself holds no brace and may be empty. Any other text from double opening braces up to the next
double closing braces is a stray marker: it looks like a placeholder and can never be resolved.
-/

namespace ActionGateway.Template

/-- A character that is not a brace. -/
def isNameChar (c : Char) : Bool :=
  c != '\x7b' && c != '\x7d'

/-- A placeholder at the start of the text, as its name. -/
def placeholder : Text.Recogniser String
  | '\x7b' :: '\x7b' :: rest =>
    let name := rest.takeWhile isNameChar
    match rest.drop name.length with
    | '\x7d' :: '\x7d' :: _ => .marker (String.ofList (Text.trim name)) (name.length + 4)
    | _ => .literal
  | _ => .literal

/-- The characters before the first double closing braces. -/
def beforeClosing? : List Char → Option (List Char)
  | [] => none
  | c :: rest =>
    if c = '\x7d' ∧ rest.head? = some '\x7d' then some []
    else (beforeClosing? rest).map (c :: ·)

/-- A marker of any kind at the start of the text, as what stands in its place of a name. Where
double closing braces do not follow, they do not follow farther on either. -/
def strayMarker : Text.Recogniser String
  | '\x7b' :: '\x7b' :: rest =>
    match beforeClosing? rest with
    | some inner => .marker (String.ofList (Text.trim inner)) (inner.length + 4)
    | none => .exhausted
  | _ => .literal

/-- The names of the placeholders in a text, in order of appearance. -/
def placeholders (text : String) : List String :=
  (Text.cut placeholder text.toList).markers

end ActionGateway.Template
