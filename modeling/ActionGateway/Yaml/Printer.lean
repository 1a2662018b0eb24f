import ActionGateway.Json.Printer
import ActionGateway.Yaml.Value

/-! # YAML text of a value

Collections are written as blocks, two columns deeper than what holds them; only a sequence that is
the value of a key stands in the column of the key. A string is plain where that reads back as the
same string, a literal block when it has line breaks, and quoted otherwise. Lines are never broken
to save width.
-/

namespace ActionGateway.Yaml

/-! ## Strings -/

/-- A character that may stand in text without an escape. -/
def isPrintable (c : Char) : Bool :=
  c == '\n' || (0x20 ≤ c.toNat && c.toNat ≤ 0x7E) ||
    (0xA0 ≤ c.toNat && c.toNat ≤ 0xFFFD && c != byteOrderMark) || 0x10000 ≤ c.toNat

/-- A break of any form. -/
def breaksLine (c : Char) : Bool :=
  isBreak c || c == '\r' || c.toNat == 0x85

/-- A blank, a break or nothing comes next. -/
def blankFollows : List Char → Bool
  | [] => true
  | c :: _ => isBlank c || breaksLine c || c.toNat == 0

/-- The start of a string would be read as something else than a plain scalar. -/
def misleadsAtStart : List Char → Bool
  | [] => false
  | c :: rest =>
    List.isPrefixOf ['-', '-', '-'] (c :: rest) || List.isPrefixOf ['.', '.', '.'] (c :: rest) ||
    ['#', ',', '[', ']', '\x7b', '\x7d', '&', '*', '!', '|', '>', '\x27', '"', '%', '@',
      '\x60'].contains c ||
    (['?', ':', '-'].contains c && blankFollows rest)

/-- A colon before a blank, or a number sign after one, ends a plain scalar; `afterBlank` says
whether a blank came before. -/
def misleadsInside (afterBlank : Bool) : List Char → Bool
  | [] => false
  | c :: rest =>
    (c == ':' && blankFollows rest) || (c == '#' && afterBlank) ||
      misleadsInside (isBlank c || breaksLine c) rest

/-- A character for which `first` holds, right before one for which `second` holds. -/
def hasPair (first second : Char → Bool) : List Char → Bool
  | a :: b :: rest => (first a && second b) || hasPair first second (b :: rest)
  | _ => false

/-- How a string is written. -/
inductive StringStyle where
  | plain
  | singleQuoted
  | doubleQuoted
  | literal
  deriving DecidableEq, Repr

/-- A space. -/
def isSpace (c : Char) : Bool := c == ' '

/-- The characters of a string need escapes: some are not printable, or a line ends in a space. -/
def needsEscapes (text : List Char) : Bool :=
  !text.all isPrintable || hasPair isSpace breaksLine text

/-- A string may be plain. -/
def allowsPlain (text : List Char) : Bool :=
  !needsEscapes text && !text.any breaksLine && !text.head?.any isSpace &&
    !text.getLast?.any isSpace && !misleadsAtStart text && !misleadsInside false (text.drop 1)

/-- A string may be single-quoted. -/
def allowsSingleQuotes (text : List Char) : Bool :=
  !needsEscapes text && !hasPair breaksLine isSpace text

/-- A string may be a literal block. -/
def allowsLiteral (text : List Char) : Bool :=
  !needsEscapes text && !text.getLast?.any isSpace

/-- A plain scalar with these characters would not be a string. -/
def spellsOtherThanText (text : String) : Bool :=
  Plain.ofText text != .text || hasSpareZero text.toList

/-- The style for a string. -/
def StringStyle.of (text : String) : StringStyle :=
  let characters := text.toList
  if characters.contains '\n' then
    if allowsLiteral characters then literal else doubleQuoted
  else if !spellsOtherThanText text && allowsPlain characters then plain
  else if allowsSingleQuotes characters then singleQuoted
  else doubleQuoted

/-- Blanks up to a column. -/
def padding (column : Nat) : List Char :=
  List.replicate column ' '

/-- Lines whose content is indented; `fresh` says that a line starts here. -/
def indentLines (column : Nat) (fresh : Bool) : List Char → List Char
  | [] => []
  | c :: rest =>
    if isBreak c then c :: indentLines column true rest
    else if fresh then padding column ++ c :: indentLines column false rest
    else c :: indentLines column false rest

/-- What stands between single quotes; a quote is written twice. -/
def singleQuotedBody (text : List Char) : List Char :=
  text.flatMap fun c => if c = '\x27' then ['\x27', '\x27'] else [c]

/-- A string in single quotes. A line break within it is followed by indentation. -/
def singleQuotedChars (column : Nat) (text : List Char) : List Char :=
  let closing := if text.getLast?.any isBreak then padding column else []
  '\x27' :: indentLines column false (singleQuotedBody text) ++ closing ++ ['\x27']

/-- An upper-case hexadecimal number of the given width. -/
def hexChars : Nat → Nat → List Char
  | 0, _ => []
  | width + 1, value => hexChars width (value / 16) ++ [(Text.hexDigit (value % 16)).toUpper]

/-- The letter of a short escape. -/
def escapeLetter? (c : Char) : Option Char :=
  match c.toNat with
  | 0x00 => some '0'
  | 0x07 => some 'a'
  | 0x08 => some 'b'
  | 0x09 => some 't'
  | 0x0A => some 'n'
  | 0x0B => some 'v'
  | 0x0C => some 'f'
  | 0x0D => some 'r'
  | 0x1B => some 'e'
  | 0x22 => some '"'
  | 0x5C => some '\\'
  | 0x85 => some 'N'
  | 0x2028 => some 'L'
  | 0x2029 => some 'P'
  | _ => none

/-- A character between double quotes. -/
def doubleQuotedChar (c : Char) : List Char :=
  match escapeLetter? c with
  | some letter => ['\\', letter]
  | none =>
    if isPrintable c then [c]
    else if c.toNat ≤ 0xFF then '\\' :: 'x' :: hexChars 2 c.toNat
    else if c.toNat ≤ 0xFFFF then '\\' :: 'u' :: hexChars 4 c.toNat
    else '\\' :: 'U' :: hexChars 8 c.toNat

/-- A string in double quotes. -/
def doubleQuotedChars (text : List Char) : List Char :=
  '"' :: text.flatMap doubleQuotedChar ++ ['"']

/-- What follows the mark of a literal block: how far it is indented, when its first line does not
show that, and what becomes of the breaks at its end. -/
def literalHints (text : List Char) : List Char :=
  let indentation := if text.head?.any fun c => isSpace c || isBreak c then ['2'] else []
  let chomping := match text.reverse with
    | last :: before =>
      if !isBreak last then ['-'] else if before.head?.all isBreak then ['+'] else []
    | [] => ['-']
  indentation ++ chomping

/-- A literal block. -/
def literalChars (column : Nat) (text : List Char) : List Char :=
  '|' :: literalHints text ++ '\n' :: indentLines column true text

/-- A string whose further lines are indented to a column. -/
def stringChars (column : Nat) (text : String) : List Char :=
  match StringStyle.of text with
  | .plain => text.toList
  | .singleQuoted => singleQuotedChars column text.toList
  | .doubleQuoted => doubleQuotedChars text.toList
  | .literal => literalChars column text.toList

/-! ## Values -/

/-- Doubles in YAML text are like those in JSON text, without a sign for positive exponents. -/
def numberStyle : Binary64.Style := ⟨-5, 16, ""⟩

/-- A scalar whose further lines are indented to a column. -/
def scalarChars (column : Nat) : Json → List Char
  | .bool true => "true".toList
  | .bool false => "false".toList
  | .num (.int value) => (toString value).toList
  | .num (.real value) => (value.text numberStyle).toList
  | .str text => stringChars column text
  | .arr _ => ['[', ']']
  | .obj _ => ['\x7b', '\x7d']
  | .null => "null".toList

/-- Text with a line break at its end. -/
def closeLine (text : List Char) : List Char :=
  if text.getLast?.any isBreak then text else text ++ ['\n']

/-- A key that may stand before its colon without a mark: of one line and not longer than 128
octets. -/
def isSimpleKey (name : String) : Bool :=
  !name.toList.any breaksLine && decide (name.utf8ByteSize ≤ 128)

mutual

/-- A value that starts at a column, in the middle of a line. -/
def valueHere (column : Nat) : Json → List Char
  | .arr (item :: rest) => itemLines column (item :: rest)
  | .obj (field :: rest) => fieldLines column (field :: rest)
  | scalar => closeLine (scalarChars column scalar)

/-- The value of a key that stands at a column. -/
def valueOfKey (column : Nat) : Json → List Char
  | .arr (item :: rest) => '\n' :: padding column ++ itemLines column (item :: rest)
  | .obj (field :: rest) =>
    '\n' :: padding (column + 2) ++ fieldLines (column + 2) (field :: rest)
  | scalar => ' ' :: closeLine (scalarChars (column + 2) scalar)

/-- The items of a sequence at a column, which is where the first one starts. -/
def itemLines (column : Nat) : List Json → List Char
  | [] => []
  | [item] => '-' :: ' ' :: valueHere (column + 2) item
  | item :: next :: rest =>
    '-' :: ' ' :: valueHere (column + 2) item ++ padding column ++ itemLines column (next :: rest)

/-- A key at a column with its value. -/
def fieldChars (column : Nat) : String × Json → List Char
  | (name, value) =>
    if isSimpleKey name then stringChars (column + 2) name ++ ':' :: valueOfKey column value
    else
      '?' :: ' ' :: closeLine (stringChars (column + 2) name) ++
        padding column ++ ':' :: ' ' :: valueHere (column + 2) value

/-- The fields of a mapping at a column, which is where the first one starts. -/
def fieldLines (column : Nat) : List (String × Json) → List Char
  | [] => []
  | [field] => fieldChars column field
  | field :: next :: rest =>
    fieldChars column field ++ padding column ++ fieldLines column (next :: rest)

end

/-- **The YAML text of a value.** -/
def text (value : Json) : String :=
  String.ofList <| match value with
    | .arr (_ :: _) | .obj (_ :: _) => valueHere 0 value
    | scalar => closeLine (scalarChars 2 scalar)

end ActionGateway.Yaml
