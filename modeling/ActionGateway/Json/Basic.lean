import ActionGateway.Number.Binary64
import ActionGateway.Number.Literal

/-! # JSON values

Values of JSON documents. An object is the list of its fields in the order of their names, by code
point, with one field for each name; `Json.object` brings any list of fields into that form and
`Json.WellFormed` says that a value has it throughout.
-/

namespace ActionGateway

/-- A number: an integer that fits 64 bits, signed or unsigned, or a finite double. -/
inductive Json.Number where
  | int (value : Int)
  | real (value : Binary64)
  deriving DecidableEq, Repr, Inhabited

/-- **JSON value.** -/
inductive Json where
  | null
  | bool (value : Bool)
  | num (value : Json.Number)
  | str (value : String)
  | arr (items : List Json)
  | obj (fields : List (String × Json))
  deriving Repr, Inhabited

namespace Json

mutual

/-- Equality of values is decidable. -/
def decEq : (left right : Json) → Decidable (left = right)
  | .null, .null => isTrue rfl
  | .bool a, .bool b =>
    if h : a = b then isTrue (by rw [h]) else isFalse (by intro e; cases e; exact h rfl)
  | .num a, .num b =>
    if h : a = b then isTrue (by rw [h]) else isFalse (by intro e; cases e; exact h rfl)
  | .str a, .str b =>
    if h : a = b then isTrue (by rw [h]) else isFalse (by intro e; cases e; exact h rfl)
  | .arr a, .arr b =>
    match decEqItems a b with
    | isTrue h => isTrue (by rw [h])
    | isFalse h => isFalse (by intro e; cases e; exact h rfl)
  | .obj a, .obj b =>
    match decEqFields a b with
    | isTrue h => isTrue (by rw [h])
    | isFalse h => isFalse (by intro e; cases e; exact h rfl)
  | .null, .bool _ | .null, .num _ | .null, .str _ | .null, .arr _ | .null, .obj _
  | .bool _, .null | .bool _, .num _ | .bool _, .str _ | .bool _, .arr _ | .bool _, .obj _
  | .num _, .null | .num _, .bool _ | .num _, .str _ | .num _, .arr _ | .num _, .obj _
  | .str _, .null | .str _, .bool _ | .str _, .num _ | .str _, .arr _ | .str _, .obj _
  | .arr _, .null | .arr _, .bool _ | .arr _, .num _ | .arr _, .str _ | .arr _, .obj _
  | .obj _, .null | .obj _, .bool _ | .obj _, .num _ | .obj _, .str _ | .obj _, .arr _ =>
    isFalse (by intro e; cases e)

/-- Equality of lists of values is decidable. -/
def decEqItems : (left right : List Json) → Decidable (left = right)
  | [], [] => isTrue rfl
  | [], _ :: _ => isFalse (by intro e; cases e)
  | _ :: _, [] => isFalse (by intro e; cases e)
  | a :: as, b :: bs =>
    match decEq a b, decEqItems as bs with
    | isTrue h, isTrue hs => isTrue (by rw [h, hs])
    | isFalse h, _ => isFalse (by intro e; cases e; exact h rfl)
    | _, isFalse hs => isFalse (by intro e; cases e; exact hs rfl)

/-- Equality of lists of fields is decidable. -/
def decEqFields : (left right : List (String × Json)) → Decidable (left = right)
  | [], [] => isTrue rfl
  | [], _ :: _ => isFalse (by intro e; cases e)
  | _ :: _, [] => isFalse (by intro e; cases e)
  | (name, a) :: as, (other, b) :: bs =>
    if same : name = other then
      match decEq a b, decEqFields as bs with
      | isTrue h, isTrue hs => isTrue (by rw [same, h, hs])
      | isFalse h, _ => isFalse (by intro e; cases e; exact h rfl)
      | _, isFalse hs => isFalse (by intro e; cases e; exact hs rfl)
    else isFalse (by intro e; cases e; exact same rfl)

end

instance : DecidableEq Json := decEq

/-- An integer value. -/
def ofInt (value : Int) : Json := .num (.int value)

/-- A natural number as a value. -/
def ofNat (value : Nat) : Json := ofInt value

/-- A text, or null for none. -/
def textOrNull : Option String → Json
  | some text => .str text
  | none => .null

/-- A natural number, or null for none. -/
def natOrNull : Option Nat → Json
  | some value => ofNat value
  | none => .null

/-- A list of texts. -/
def ofTexts (texts : List String) : Json := .arr (texts.map .str)

/-- Put a field into its place by name; a field of that name is replaced. -/
def putField {α : Type} (name : String) (value : α) : List (String × α) → List (String × α)
  | [] => [(name, value)]
  | field :: rest =>
    if name < field.1 then (name, value) :: field :: rest
    else if name = field.1 then (name, value) :: rest
    else field :: putField name value rest

/-- Fields in the order of their names; of fields with one name the last is kept. -/
def sortFields {α : Type} (fields : List (String × α)) : List (String × α) :=
  fields.foldl (fun sorted field => putField field.1 field.2 sorted) []

/-- The object with the given fields. -/
def object (fields : List (String × Json)) : Json :=
  .obj (sortFields fields)

mutual

/-- Every object in the value has its fields strictly in the order of their names. -/
def WellFormed : Json → Prop
  | .arr items => WellFormedItems items
  | .obj fields => (fields.map Prod.fst).Pairwise (· < ·) ∧ WellFormedFields fields
  | _ => True

/-- `WellFormed` for each item. -/
def WellFormedItems : List Json → Prop
  | [] => True
  | item :: rest => item.WellFormed ∧ WellFormedItems rest

/-- `WellFormed` for the value of each field. -/
def WellFormedFields : List (String × Json) → Prop
  | [] => True
  | (_, value) :: rest => value.WellFormed ∧ WellFormedFields rest

end

/-- The text of a string value. -/
def text? : Json → Option String
  | .str text => some text
  | _ => none

/-- A whole number that is not negative. -/
def nat? : Json → Option Nat
  | .num (.int value) => if 0 ≤ value then some value.toNat else none
  | _ => none

/-- The field of an object with the given name. -/
def field? (name : String) : Json → Option Json
  | .obj fields => fields.lookup name
  | _ => none

/-- One step along a path: into a field of an object by its name, into an item of an array by its
index. An index is a natural number of 64 bits, with an optional plus sign. -/
def step? (segment : String) : Json → Option Json
  | .obj fields => fields.lookup segment
  | .arr items => (Literal.unsigned? 64 10 segment.toList).bind fun index => items[index]?
  | _ => none

/-- Neither an array nor an object. -/
def isScalar : Json → Bool
  | .arr _ | .obj _ => false
  | _ => true

mutual

/-- How deep arrays and objects are nested in the value; a scalar has depth zero. -/
def depth : Json → Nat
  | .arr items => depthItems items + 1
  | .obj fields => depthFields fields + 1
  | _ => 0

/-- The greatest depth among items. -/
def depthItems : List Json → Nat
  | [] => 0
  | item :: rest => max item.depth (depthItems rest)

/-- The greatest depth among the values of fields. -/
def depthFields : List (String × Json) → Nat
  | [] => 0
  | (_, value) :: rest => max value.depth (depthFields rest)

end

end Json

end ActionGateway
