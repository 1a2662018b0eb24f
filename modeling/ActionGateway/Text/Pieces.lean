/-! # Text cut at markers

A recogniser finds a marker at the start of a text and says how long it is. Cutting a text at the
markers takes the leftmost one first, goes on after its end, and leaves the literal text between
them. A recogniser that looks in vain for the end of a marker can say that no marker follows at
all, so that the rest of the text is not searched once more from each of its characters.
-/

namespace ActionGateway.Text

/-- What is at the start of a text. -/
inductive Recognition (α : Type) where
  /-- A marker, with its meaning and its length. -/
  | marker (meaning : α) (size : Nat)
  /-- No marker. -/
  | literal
  /-- No marker, and none farther on. -/
  | exhausted
  deriving DecidableEq, Repr

/-- A recogniser of markers. -/
abbrev Recogniser (α : Type) := List Char → Recognition α

/-- A text as literal text with markers in it; each marker is followed by literal text. -/
structure Pieces (α : Type) where
  head : List Char
  tail : List (α × List Char)
  deriving Repr

/-- Cut the rest of a text. `literal` holds the literal text since the last marker, last character
first, and the next `skip` characters belong to that marker. -/
def cutFrom {α : Type} (recognise : Recogniser α) (literal : List Char) :
    Nat → List Char → Pieces α
  | _, [] => ⟨literal.reverse, []⟩
  | skip + 1, _ :: rest => cutFrom recognise literal skip rest
  | 0, c :: rest =>
    match recognise (c :: rest) with
    | .marker meaning size =>
      let after := cutFrom recognise [] (size - 1) rest
      ⟨literal.reverse, (meaning, after.head) :: after.tail⟩
    | .literal => cutFrom recognise (c :: literal) 0 rest
    | .exhausted => ⟨literal.reverse ++ c :: rest, []⟩

/-- Cut a text at its markers. -/
def cut {α : Type} (recognise : Recogniser α) (text : List Char) : Pieces α :=
  cutFrom recognise [] 0 text

/-- The markers in order of appearance. -/
def Pieces.markers {α : Type} (pieces : Pieces α) : List α :=
  pieces.tail.map Prod.fst

/-- The meaning of a text that is one marker and nothing else. -/
def wholeMarker? {α : Type} (recognise : Recogniser α) (text : List Char) : Option α :=
  match recognise text with
  | .marker meaning size => if size = text.length then some meaning else none
  | .literal | .exhausted => none

end ActionGateway.Text
