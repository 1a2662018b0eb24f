import ActionGateway.Json.Reader
import ActionGateway.OrderedMap

/-! # Typed values from JSON

A decoder turns JSON text as read into a typed value. It asks only for the parts that the type
has, so fields of other names need only be grammatical. A record may be written as an object, with
each of its fields at most once, or as an array of its fields in their declared order, where fields
at the end that have a default may be missing.
-/

namespace ActionGateway.Json

/-- **Decoder.** A typed value from JSON text with at most the given number of nested levels. -/
abbrev Decoder (α : Type) := Nat → Raw → Option α

namespace Decoder

/-- Any value. -/
def value : Decoder Json := fun room raw => raw.value? room

/-- A string. -/
def text : Decoder String
  | _, .str content => content
  | _, _ => none

/-- A truth value. -/
def flag : Decoder Bool
  | _, .bool value => some value
  | _, _ => none

/-- A natural number below `2 ^ bits`, written as an integer. -/
def unsigned (bits : Nat) : Decoder Nat
  | _, .num (some (.int value)) =>
    if 0 ≤ value ∧ value < (Nat.pow 2 bits : Int) then some value.toNat else none
  | _, _ => none

/-- Null for nothing, anything else by the given decoder. -/
def nullable {α : Type} (decode : Decoder α) : Decoder (Option α)
  | _, .null => some none
  | room, raw => (decode room raw).map some

/-- Decode each of a list. -/
def each {α : Type} (decode : Raw → Option α) : List Raw → Option (List α)
  | [] => some []
  | raw :: rest => do
    let value ← decode raw
    let values ← each decode rest
    some (value :: values)

/-- Decode each field of an object. -/
def eachField {α : Type} (decode : Raw → Option α) :
    List (Option String × Raw) → Option (List (String × α))
  | [] => some []
  | (name, raw) :: rest => do
    let name ← name
    let value ← decode raw
    let values ← eachField decode rest
    some ((name, value) :: values)

/-- An array of values of one type. -/
def list {α : Type} (decode : Decoder α) : Decoder (List α)
  | room + 1, .arr items => each (decode room) items
  | _, _ => none

/-- The fields of an object in their order in the text. -/
def pairs {α : Type} (decode : Decoder α) : Decoder (List (String × α))
  | room + 1, .obj fields => eachField (decode room) fields
  | _, _ => none

/-- An object as a map in the order of first appearance. -/
def ordered {α : Type} (decode : Decoder α) : Decoder (OrderedMap α) := fun room raw =>
  (pairs decode room raw).map OrderedMap.ofList

/-- An object as fields in the order of their names. -/
def sorted {α : Type} (decode : Decoder α) : Decoder (List (String × α)) := fun room raw =>
  (pairs decode room raw).map sortFields

/-- One of a list of named alternatives: the name, or an object that holds null under it. -/
def choice {α : Type} (alternatives : List (String × α)) : Decoder α
  | _, .str content => content.bind fun name => alternatives.lookup name
  | _ + 1, .obj [(name, .null)] => name.bind fun name => alternatives.lookup name
  | _, _ => none

/-- The fields of a record that a text holds, each name once. -/
structure Fields where
  room : Nat
  present : List (String × Raw)

/-- Collect the fields of the given names. A repeated one is refused. -/
def collect (names : List String) (present : List (String × Raw)) :
    List (Option String × Raw) → Option (List (String × Raw))
  | [] => some present
  | (name, raw) :: rest => do
    let name ← name
    if names.contains name then
      if (present.lookup name).isSome then none
      else collect names ((name, raw) :: present) rest
    else collect names present rest

/-- The fields of a record with the given names, from an object or from an array. -/
def fields (names : List String) : Decoder Fields
  | room + 1, .obj entries => (collect names [] entries).map fun present => ⟨room, present⟩
  | room + 1, .arr items =>
    if items.length ≤ names.length then some ⟨room, names.zip items⟩ else none
  | _, _ => none

/-- A field that has to be there. -/
def Fields.required {α : Type} (fields : Fields) (name : String) (decode : Decoder α) :
    Option α :=
  (fields.present.lookup name).bind (decode fields.room)

/-- A field that has a default. -/
def Fields.optional {α : Type} (fields : Fields) (name : String) (decode : Decoder α)
    (default : α) : Option α :=
  match fields.present.lookup name with
  | some raw => decode fields.room raw
  | none => some default

/-- Decode a JSON text given as bytes. -/
def ofBytes? {α : Type} (decode : Decoder α) (bytes : Bytes) : Option α :=
  (Raw.ofBytes? bytes).bind (decode maxDepth)

/-- Decode a JSON text. -/
def ofText? {α : Type} (decode : Decoder α) (content : String) : Option α :=
  ofBytes? decode (Bytes.ofText content)

/-- Decode a value. -/
def ofValue? {α : Type} (decode : Decoder α) (json : Json) : Option α :=
  decode json.depth (Raw.ofValue json)

end Decoder

end ActionGateway.Json
