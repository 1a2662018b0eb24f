import ActionGateway.Json.Basic
import ActionGateway.OrderedMap

/-! # Bindings

The values that names stand for. A name is looked up as it is first. When it is not bound, it is
read as a path: the part before the first dot is a bound name, and each further part leads into a
field of an object or to an item of an array.
-/

namespace ActionGateway

/-- Values by name, in order of first appearance. -/
abbrev Bindings := OrderedMap Json

namespace Bindings

/-- The parts of a name between its dots. -/
def segments (name : String) : List String :=
  (name.toList.splitOn '.').map String.ofList

/-- Follow a path into a value. -/
def descend : List String → Json → Option Json
  | [], value => some value
  | segment :: rest, value => (value.step? segment).bind (descend rest)

/-- The value that a name stands for. -/
def resolve? (bindings : Bindings) (name : String) : Option Json :=
  match bindings.get? name with
  | some value => some value
  | none =>
    match segments name with
    | first :: rest => (bindings.get? first).bind (descend rest)
    | [] => none

end Bindings

end ActionGateway
