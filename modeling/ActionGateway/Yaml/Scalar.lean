import ActionGateway.Number.Literal
import ActionGateway.Yaml.Cursor

/-! # Text of YAML scalars

A scalar is plain, quoted or a block. A plain or quoted scalar may go over several lines; the gap
between two of its words is then folded: one line break counts as a space, and of several the first
is dropped. A block scalar keeps its lines, or folds them in the same manner.
-/

namespace ActionGateway.Yaml

/-! ## Gaps -/

/-- **Gap** between two words of a scalar, last character first. -/
inductive Gap where
  /-- Blanks within a line. -/
  | blanks (text : List Char)
  /-- A first line break, or none when it was escaped, and the line breaks after it. -/
  | lines (first : Option Char) (more : List Char)

namespace Gap

/-- No gap. -/
def none : Gap := blanks []

/-- Nothing lies between the words. -/
def isNone : Gap → Bool
  | blanks [] => true
  | _ => false

/-- The gap goes over a line break. -/
def isLines : Gap → Bool
  | blanks _ => false
  | lines _ _ => true

/-- The gap with a blank after it. Blanks count only as long as no line was broken. -/
def blank (c : Char) : Gap → Gap
  | blanks text => blanks (c :: text)
  | lines first more => lines first more

/-- The gap with a line break after it. -/
def line (c : Char) : Gap → Gap
  | blanks _ => lines (some c) []
  | lines first more => lines first (c :: more)

/-- The gap after an escaped line break. -/
def escapedLine : Gap := lines Option.none []

/-- Put what a gap stands for in front of a text that is written last character first. -/
def onto (text : List Char) : Gap → List Char
  | blanks gap => gap ++ text
  | lines (some '\n') [] => ' ' :: text
  | lines (some '\n') more => more ++ text
  | lines first more => more ++ first.toList ++ text

end Gap

/-! ## Plain scalars -/

/-- Where a plain scalar stands: inside brackets, or in a block whose content must not begin left
of the margin. -/
structure PlainContext where
  inFlow : Bool
  margin : Nat

/-- A character that ends a plain scalar inside brackets. -/
def isFlowMark (c : Char) : Bool :=
  c == ',' || c == '[' || c == ']' || c == '\x7b' || c == '\x7d'

/-- A plain scalar ends before the text, which starts with neither a blank nor a line break. -/
def plainEnds (context : PlainContext) (gap : Gap) (place : Place) (text : List Char) : Bool :=
  match text with
  | [] => true
  | c :: rest =>
    (place.column == 0 && atDocumentMark text) ||
    (!gap.isNone && c == '#') ||
    (!gap.isNone && !context.inFlow && decide (place.column < context.margin)) ||
    (c == ':' && atWordEnd rest) ||
    (context.inFlow && isFlowMark c)

/-- A colon inside brackets that may be meant as either part of a word or a separator. -/
def isAmbiguousColon (context : PlainContext) : List Char → Bool
  | ':' :: c :: _ => context.inFlow && (isFlowMark c || c == '?')
  | _ => false

/-- A plain scalar, the gap after it, and what follows that. A tab left of the margin is
refused. -/
def plainScalar (context : PlainContext) (gap : Gap) (text : List Char) (place : Place) :
    List Char → Option (String × Gap × Cursor)
  | [] => some (String.ofList text.reverse, gap, ⟨place, []⟩)
  | c :: rest =>
    if isBreak c then plainScalar context (gap.line c) text place.down rest
    else if isBlank c then
      if gap.isLines && c == '\t' && decide (place.column < context.margin) then none
      else plainScalar context (gap.blank c) text (place.past c) rest
    else if plainEnds context gap place (c :: rest) then
      some (String.ofList text.reverse, gap, ⟨place, c :: rest⟩)
    else if isAmbiguousColon context (c :: rest) then none
    else plainScalar context .none (c :: gap.onto text) (place.past c) rest

/-! ## Quoted scalars -/

/-- The rest of a single-quoted scalar; a quote is written twice. -/
def singleQuoted (gap : Gap) (text : List Char) (place : Place) :
    List Char → Option (String × Cursor)
  | [] => none
  | '\x27' :: '\x27' :: rest => singleQuoted .none ('\x27' :: gap.onto text) (place.right 2) rest
  | '\x27' :: rest => some (String.ofList (gap.onto text).reverse, ⟨place.right 1, rest⟩)
  | c :: rest =>
    if isBreak c then singleQuoted (gap.line c) text place.down rest
    else if isBlank c then singleQuoted (gap.blank c) text (place.past c) rest
    else if place.column == 0 && atDocumentMark (c :: rest) then none
    else singleQuoted .none (c :: gap.onto text) (place.past c) rest

/-- The character that a single character after a backslash stands for. -/
def shortEscape? : Char → Option Char
  | '0' => some '\x00'
  | 'a' => some '\x07'
  | 'b' => some '\x08'
  | 't' | '\t' => some '\t'
  | 'n' => some '\n'
  | 'v' => some '\x0b'
  | 'f' => some '\x0c'
  | 'r' => some '\r'
  | 'e' => some '\x1b'
  | ' ' => some ' '
  | '"' => some '"'
  | '/' => some '/'
  | '\\' => some '\\'
  | 'N' => some '\u0085'
  | '_' => some '\u00a0'
  | 'L' => some '\u2028'
  | 'P' => some '\u2029'
  | _ => none

/-- How many hexadecimal digits follow a character after a backslash. -/
def escapeSize? : Char → Option Nat
  | 'x' => some 2
  | 'u' => some 4
  | 'U' => some 8
  | _ => none

/-- The character with the code point that the digits give. -/
def codedChar? (digits : List Char) : Option Char :=
  ((Literal.digits? 16 digits).filter fun code => decide code.isValidChar).map Char.ofNat

/-- The rest of a double-quoted scalar. The next `skip` characters belong to an escape. -/
def doubleQuoted (gap : Gap) (text : List Char) (place : Place) :
    Nat → List Char → Option (String × Cursor)
  | _, [] => none
  | skip + 1, _ :: rest => doubleQuoted gap text place skip rest
  | 0, '"' :: rest => some (String.ofList (gap.onto text).reverse, ⟨place.right 1, rest⟩)
  | 0, '\\' :: c :: rest =>
    if isBreak c then doubleQuoted .escapedLine (gap.onto text) place.down 0 rest
    else
      match shortEscape? c, escapeSize? c with
      | some escaped, _ => doubleQuoted .none (escaped :: gap.onto text) (place.right 2) 0 rest
      | none, some size =>
        let digits := rest.take size
        if digits.length < size then none
        else
          match codedChar? digits with
          | some coded =>
            doubleQuoted .none (coded :: gap.onto text) (place.right (2 + size)) size rest
          | none => none
      | none, none => none
  | 0, c :: rest =>
    if isBreak c then doubleQuoted (gap.line c) text place.down 0 rest
    else if isBlank c then doubleQuoted (gap.blank c) text (place.past c) 0 rest
    else if place.column == 0 && atDocumentMark (c :: rest) then none
    else doubleQuoted .none (c :: gap.onto text) (place.past c) 0 rest

/-! ## Block scalars -/

/-- What becomes of the line breaks at the end of a block scalar. -/
inductive Chomping where
  /-- The first one is kept. -/
  | clip
  /-- None is kept. -/
  | strip
  /-- All are kept. -/
  | keep
  deriving DecidableEq, Repr

/-- The first line of a block scalar. -/
structure BlockHeader where
  folded : Bool
  chomping : Chomping
  /-- How far the content is indented, when it is not for its first line to show. -/
  increment : Option Nat

/-- The chomping that a character asks for. -/
def chomping? : Char → Option Chomping
  | '+' => some .keep
  | '-' => some .strip
  | _ => none

/-- The increment that a character gives; zero is none. -/
def increment? (c : Char) : Option Nat :=
  if '1' ≤ c ∧ c ≤ '9' then some (c.toNat - 48) else none

/-- The indicators after the first character of a block scalar, in either order, and their
number. -/
def blockIndicators : List Char → Option Chomping × Option Nat × Nat
  | first :: second :: _ =>
    match chomping? first, increment? first with
    | some chomping, _ =>
      match increment? second with
      | some increment => (some chomping, some increment, 2)
      | none => (some chomping, none, 1)
    | none, some increment =>
      match chomping? second with
      | some chomping => (some chomping, some increment, 2)
      | none => (none, some increment, 1)
    | none, none => (none, none, 0)
  | [only] =>
    match chomping? only, increment? only with
    | some chomping, _ => (some chomping, none, 1)
    | none, some increment => (none, some increment, 1)
    | none, none => (none, none, 0)
  | [] => (none, none, 0)

/-- The header after the first character of a block scalar, up to the end of its line. -/
def blockHeader? (folded : Bool) (cursor : Cursor) : Option (BlockHeader × Cursor) :=
  let (chomping, increment, size) := blockIndicators cursor.rest
  ((cursor.skip size).endLine?).map fun cursor =>
    (⟨folded, chomping.getD .clip, increment⟩, cursor)

/-- A block scalar in part, texts last character first. -/
structure BlockPart where
  text : List Char
  /-- The line break after the last line with content. -/
  lineEnd : Option Char
  /-- The line breaks of the empty lines after that. -/
  emptyLines : List Char
  /-- The last line with content starts with a blank. -/
  blankStart : Bool

namespace BlockPart

/-- Begin a line whose first character is `c`. -/
def beginLine (folded : Bool) (c : Char) (part : BlockPart) : BlockPart :=
  let joined :=
    if folded && part.lineEnd == some '\n' && !part.blankStart && !isBlank c then
      if part.emptyLines.isEmpty then [' '] else part.emptyLines
    else part.emptyLines ++ part.lineEnd.toList
  ⟨c :: joined ++ part.text, none, [], isBlank c⟩

/-- The whole text. -/
def finish (chomping : Chomping) (part : BlockPart) : String :=
  let tail := match chomping with
    | .strip => []
    | .clip => part.lineEnd.toList
    | .keep => part.emptyLines ++ part.lineEnd.toList
  String.ofList (tail ++ part.text).reverse

end BlockPart

/-- The content of a block scalar in a block with the given margin. `column?` is the column of the
content once it is known; before that, `deepest` is the farthest column that a line reached.
A tab in the indentation is refused. -/
def blockContent (header : BlockHeader) (margin : Nat) (column? : Option Nat) (deepest : Nat)
    (inLine : Bool) (part : BlockPart) (place : Place) : List Char → Option (String × Cursor)
  | [] => some (part.finish header.chomping, ⟨place, []⟩)
  | c :: rest =>
    if inLine then
      if isBreak c then
        blockContent header margin column? deepest false { part with lineEnd := some c }
          place.down rest
      else
        blockContent header margin column? deepest true { part with text := c :: part.text }
          (place.past c) rest
    else
      let indenting := column?.all fun column => decide (place.column < column)
      if isBreak c then
        blockContent header margin column? (max deepest place.column) false
          { part with emptyLines := c :: part.emptyLines } place.down rest
      else if indenting && c == ' ' then
        blockContent header margin column? deepest false part (place.past c) rest
      else if indenting && c == '\t' then none
      else
        let column := column?.getD (max (max deepest place.column) (max margin 1))
        if place.column = column then
          blockContent header margin (some column) deepest true (part.beginLine header.folded c)
            (place.past c) rest
        else some (part.finish header.chomping, ⟨place, c :: rest⟩)

/-- A block scalar after its first character. An increment counts from the left edge of the block,
which is one column left of its margin. -/
def blockScalar? (folded : Bool) (margin : Nat) (cursor : Cursor) : Option (String × Cursor) := do
  let (header, cursor) ← blockHeader? folded cursor
  let column? := header.increment.map fun increment => margin - 1 + increment
  blockContent header margin column? 0 false ⟨[], none, [], false⟩ cursor.place cursor.rest

end ActionGateway.Yaml
