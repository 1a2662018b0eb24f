import ActionGateway.Json.Basic
import ActionGateway.Yaml.Node

/-! # Values of YAML documents

What a YAML document says as a JSON value. Plain scalars spell null, truth values and numbers in
the notation of the core schema; a number with superfluous zeros in front is text. Tags of the core
schema ask for one kind of value, and the types of an application have no value here. Keys are
text, however they are written. A number that is not finite has no JSON value and counts as null.
-/

namespace ActionGateway.Yaml

/-! ## Plain scalars -/

/-- **What a plain scalar spells.** -/
inductive Plain where
  | null
  | bool (value : Bool)
  | int (value : Int)
  | real (value : Binary64)
  /-- An infinite or undefined number. -/
  | notFinite
  | text
  deriving DecidableEq, Repr

/-- The spellings of null other than nothing at all. -/
def nullWords : List String := ["null", "Null", "NULL", "~"]

/-- A truth value. -/
def bool? (text : String) : Option Bool :=
  if ["true", "True", "TRUE"].contains text then some true
  else if ["false", "False", "FALSE"].contains text then some false
  else none

/-- More than one digit, the first of them zero, perhaps after a sign. -/
def hasSpareZero (text : List Char) : Bool :=
  let digits := match text with
    | '+' :: rest | '-' :: rest => rest
    | unsignedText => unsignedText
  match digits with
  | '0' :: second :: rest => (second :: rest).all Literal.isDigit
  | _ => false

/-- The radix that a digit sequence announces, and its digits. -/
def radix? : List Char → Option (Nat × List Char)
  | '0' :: 'x' :: rest => some (16, rest)
  | '0' :: 'o' :: rest => some (8, rest)
  | '0' :: 'b' :: rest => some (2, rest)
  | _ => none

/-- Digits after a radix mark. -/
def radixDigits? (text : List Char) : Option Nat :=
  (radix? text).bind fun found => Literal.digits? found.1 found.2

/-- An integer that is not negative, without its sign. -/
def magnitude? (text : List Char) : Option Nat :=
  (radixDigits? text).or (if hasSpareZero text then none else Literal.digits? 10 text)

/-- An integer of at most 128 bits. -/
def int? (text : List Char) : Option Int :=
  match text with
  | '-' :: digits =>
    ((magnitude? digits).filter (· ≤ Nat.pow 2 127)).map fun value => -(value : Int)
  | '+' :: digits => ((magnitude? digits).filter (· < Nat.pow 2 128)).map Int.ofNat
  | digits => ((magnitude? digits).filter (· < Nat.pow 2 128)).map Int.ofNat

/-- A number that is not finite. -/
def isNotFinite (text : String) : Bool :=
  [".inf", ".Inf", ".INF", "+.inf", "+.Inf", "+.INF", "-.inf", "-.Inf", "-.INF",
    ".nan", ".NaN", ".NAN"].contains text

/-- A number with a point or an exponent, or beyond the integers. -/
def real? : List Char → Option Binary64
  | '+' :: rest =>
    match rest with
    | '+' :: _ | '-' :: _ => none
    | unsignedText => Literal.real? unsignedText
  | text => Literal.real? text

/-- A number that is no integer. -/
def float? (text : String) : Option Plain :=
  if isNotFinite text then some .notFinite else (real? text.toList).map .real

/-- What a plain scalar spells. -/
def Plain.ofText (text : String) : Plain :=
  if text.isEmpty || nullWords.contains text then .null
  else
    match bool? text with
    | some value => .bool value
    | none =>
      match int? text.toList with
      | some value => .int value
      | none =>
        if hasSpareZero text.toList then .text
        else (float? text).getD .text

/-- The JSON value of a plain scalar. An integer beyond 64 bits has none. -/
def Plain.json? (text : String) : Plain → Option Json
  | null => some .null
  | bool value => some (.bool value)
  | int value =>
    if -(Nat.pow 2 63 : Int) ≤ value ∧ value < (Nat.pow 2 64 : Int) then
      some (Json.ofInt value)
    else none
  | real value => some (.num (.real value))
  | notFinite => some .null
  | Plain.text => some (.str text)

/-- The value of a scalar without a tag. -/
def untagged? (plain : Bool) (text : String) : Option Json :=
  if plain then (Plain.ofText text).json? text else some (.str text)

/-- The value of a scalar with a tag. -/
def tagged? (tag : Tag) (plain : Bool) (text : String) : Option Json :=
  if tag = Tag.core "null" then if nullWords.contains text then some .null else none
  else if tag = Tag.core "bool" then (bool? text).map .bool
  else if tag = Tag.core "int" then
    (int? text.toList).bind fun value => (Plain.int value).json? text
  else if tag = Tag.core "float" then (float? text).bind (Plain.json? text)
  else if tag.namesType then none
  else if tag.isLocal then untagged? plain text
  else some (.str text)

/-- The value of a scalar. -/
def scalar? (tag : Option Tag) (plain : Bool) (text : String) : Option Json :=
  match tag with
  | none => untagged? plain text
  | some tag => tagged? tag plain text

/-! ## Documents -/

/-- A computation that may fail and that follows a limited number of aliases. -/
abbrev Following := StateT Nat Option

/-- The node that a node stands for. -/
def follow (anchored : List (Nat × Node Nat)) : Node Nat → Following (Node Nat)
  | .alias number => do
    let left ← get
    if left = 0 then failure
    else
      set (left - 1)
      match anchored.lookup number with
      | some node => pure node
      | none => failure
  | node => pure node

/-- A tag that a collection may have: any but the type of an application. -/
def allowsCollection (tag : Option Tag) : Bool :=
  !tag.any Tag.namesType

/-- The text of a key, which is a scalar. -/
def keyText (anchored : List (Nat × Node Nat)) (node : Node Nat) : Following String := do
  match ← follow anchored node with
  | .scalar _ _ text => pure text
  | _ => failure

/-- The value of a node with at most the given number of nested levels. -/
def valueOf (anchored : List (Nat × Node Nat)) : Nat → Node Nat → Following Json
  | room, node => do
    match ← follow anchored node with
    | .alias _ => failure
    | .scalar properties plain text => scalar? properties.tag plain text
    | .sequence properties items =>
      match room with
      | 0 => failure
      | room + 1 =>
        if allowsCollection properties.tag then do
          let items ← items.mapM (valueOf anchored room)
          pure (.arr items)
        else failure
    | .mapping properties entries =>
      match room with
      | 0 => failure
      | room + 1 =>
        if allowsCollection properties.tag then do
          let fields ← entries.mapM fun entry => do
            let name ← keyText anchored entry.1
            let value ← valueOf anchored room entry.2
            pure (name, value)
          pure (Json.object fields)
        else failure

/-- How deep values may be nested. -/
def maxDepth : Nat := 128

/-- The value of a document. For each of its parts a hundred aliases may be followed. -/
def Node.json? (node : Node Nat) : Option Json :=
  ((valueOf node.anchored.reverse maxDepth node).run (100 * node.weight)).map Prod.fst

/-- **The value of a YAML text** with at most one document; an empty one is null. -/
def ofText? (content : String) : Option Json := do
  let tokens ← Token.ofText? content
  match ← Node.ofTokens? tokens with
  | none => some .null
  | some node =>
    let node ← node.resolved?
    node.json?

end ActionGateway.Yaml
