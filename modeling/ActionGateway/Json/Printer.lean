import ActionGateway.Json.Basic
import ActionGateway.Number.Shortest
import ActionGateway.Text.Quoted

/-! # JSON text of a value

The compact form has no blank characters outside strings; the pretty form puts every item and
every field on a line of its own, two spaces deeper than what holds it. Both write strings and
numbers alike, and both write fields in the order in which the object has them.
-/

namespace ActionGateway.Json

/-- Doubles in JSON text are positional from `0.00001` up to below `1e+16`. -/
def numberStyle : Binary64.Style := ⟨-5, 16, "+"⟩

/-- The text of a number. -/
def Number.text : Number → String
  | .int value => toString value
  | .real value => value.text numberStyle

/-- One character inside a string. -/
def escapeChar (c : Char) : List Char :=
  if c = '"' then ['\\', '"']
  else if c = '\\' then ['\\', '\\']
  else if c.toNat = 8 then ['\\', 'b']
  else if c.toNat = 9 then ['\\', 't']
  else if c.toNat = 10 then ['\\', 'n']
  else if c.toNat = 12 then ['\\', 'f']
  else if c.toNat = 13 then ['\\', 'r']
  else if c.toNat < 0x20 then
    ['\\', 'u', '0', '0', Text.hexDigit (c.toNat / 16), Text.hexDigit (c.toNat % 16)]
  else [c]

/-- A string in double quotes. -/
def stringChars (text : String) : List Char :=
  '"' :: text.toList.flatMap escapeChar ++ ['"']

/-- The text of a scalar value. -/
def scalarChars : Json → List Char
  | .bool true => ['t', 'r', 'u', 'e']
  | .bool false => ['f', 'a', 'l', 's', 'e']
  | .num value => value.text.toList
  | .str text => stringChars text
  | _ => ['n', 'u', 'l', 'l']

mutual

/-- The compact form. -/
def compactChars : Json → List Char
  | .arr items => '[' :: compactItems items ++ [']']
  | .obj fields => '\x7b' :: compactFields fields ++ ['\x7d']
  | scalar => scalarChars scalar

/-- Items separated by commas. -/
def compactItems : List Json → List Char
  | [] => []
  | [item] => item.compactChars
  | item :: next :: rest => item.compactChars ++ ',' :: compactItems (next :: rest)

/-- Fields separated by commas. -/
def compactFields : List (String × Json) → List Char
  | [] => []
  | [(name, value)] => stringChars name ++ ':' :: value.compactChars
  | (name, value) :: next :: rest =>
    stringChars name ++ ':' :: value.compactChars ++ ',' :: compactFields (next :: rest)

end

/-- The compact text of a value. -/
def compact (value : Json) : String :=
  String.ofList value.compactChars

/-- A line break followed by the indentation of the given level. -/
def lineBreak (level : Nat) : List Char :=
  '\n' :: List.replicate (2 * level) ' '

mutual

/-- The pretty form of a value that starts at the given level. -/
def prettyChars (level : Nat) : Json → List Char
  | .arr [] => ['[', ']']
  | .arr items => '[' :: prettyItems (level + 1) items ++ lineBreak level ++ [']']
  | .obj [] => ['\x7b', '\x7d']
  | .obj fields => '\x7b' :: prettyFields (level + 1) fields ++ lineBreak level ++ ['\x7d']
  | scalar => scalarChars scalar

/-- Items, each on a line of its own, separated by commas. -/
def prettyItems (level : Nat) : List Json → List Char
  | [] => []
  | [item] => lineBreak level ++ prettyChars level item
  | item :: next :: rest =>
    lineBreak level ++ prettyChars level item ++ ',' :: prettyItems level (next :: rest)

/-- Fields, each on a line of its own, separated by commas. -/
def prettyFields (level : Nat) : List (String × Json) → List Char
  | [] => []
  | [(name, value)] =>
    lineBreak level ++ stringChars name ++ ':' :: ' ' :: prettyChars level value
  | (name, value) :: next :: rest =>
    lineBreak level ++ stringChars name ++ ':' :: ' ' :: prettyChars level value ++
      ',' :: prettyFields level (next :: rest)

end

/-- The pretty text of a value. -/
def pretty (value : Json) : String :=
  String.ofList (prettyChars 0 value)

/-- A value as it appears inside other text: a string as it is, anything else in compact form. -/
def stringify : Json → String
  | .str text => text
  | other => other.compact

end ActionGateway.Json
