/-! # Characters and places in YAML text

Line breaks come in several forms. All but two of them mean the same, so a text is first brought
into a form where a single character breaks a line. A cursor is what is left of such a text, with
the place where that begins.
-/

namespace ActionGateway.Yaml

/-- A character that may occur in YAML text at all. -/
def isAllowed (c : Char) : Bool :=
  c == '\t' || c == '\n' || c == '\r' || (0x20 ≤ c.toNat && c.toNat ≤ 0x7E) || c.toNat == 0x85 ||
    (0xA0 ≤ c.toNat && c.toNat ≤ 0xFFFD) || 0x10000 ≤ c.toNat

/-- The text with a line feed for each carriage return, each pair of carriage return and line feed,
and each next-line character. -/
def unifyBreaks : List Char → List Char
  | [] => []
  | '\r' :: '\n' :: rest => '\n' :: unifyBreaks rest
  | c :: rest => (if c = '\r' ∨ c.toNat = 0x85 then '\n' else c) :: unifyBreaks rest

/-- The byte order mark. -/
def byteOrderMark : Char := '\uFEFF'

/-- Line feed, line separator or paragraph separator. -/
def isBreak (c : Char) : Bool :=
  c == '\n' || c.toNat == 0x2028 || c.toNat == 0x2029

/-- Space or tab. -/
def isBlank (c : Char) : Bool :=
  c == ' ' || c == '\t'

/-- Nothing follows, or something that separates words. -/
def atWordEnd : List Char → Bool
  | [] => true
  | c :: _ => isBlank c || isBreak c

/-- A character of names: an ASCII letter or digit, an underscore or a hyphen. -/
def isNameChar (c : Char) : Bool :=
  c.isAlphanum || c == '_' || c == '-'

/-- Three hyphens or three dots on their own: a mark between documents, at the start of a line. -/
def atDocumentMark : List Char → Bool
  | '-' :: '-' :: '-' :: rest => atWordEnd rest
  | '.' :: '.' :: '.' :: rest => atWordEnd rest
  | _ => false

/-- **Place** in a text: the lines before it, and what is before it in its line, counted in
characters and in octets of UTF-8. -/
structure Place where
  line : Nat
  column : Nat
  octets : Nat
  deriving DecidableEq, Repr, Inhabited

namespace Place

/-- The start of a text. -/
def start : Place := ⟨0, 0, 0⟩

/-- The place after a character of the line. -/
def past (place : Place) (c : Char) : Place :=
  ⟨place.line, place.column + 1, place.octets + c.utf8Size⟩

/-- The place after some ASCII characters of the line. -/
def right (place : Place) (count : Nat) : Place :=
  ⟨place.line, place.column + count, place.octets + count⟩

/-- The place after a line break. -/
def down (place : Place) : Place :=
  ⟨place.line + 1, 0, 0⟩

end Place

/-- **Cursor**: the rest of a text and where it begins. -/
structure Cursor where
  place : Place
  rest : List Char
  deriving Repr, Inhabited

namespace Cursor

/-- The cursor some characters further in the line. -/
def skip (cursor : Cursor) (count : Nat) : Cursor :=
  ⟨(cursor.rest.take count).foldl Place.past cursor.place, cursor.rest.drop count⟩

/-- The characters at the cursor that satisfy a condition. -/
def word (cursor : Cursor) (condition : Char → Bool) : List Char :=
  cursor.rest.takeWhile condition

/-- The cursor after the characters that satisfy a condition. -/
def skipWhile (cursor : Cursor) (condition : Char → Bool) : Cursor :=
  cursor.skip (cursor.word condition).length

/-- The cursor after the comment that starts at it, if there is one. -/
def skipComment (cursor : Cursor) : Cursor :=
  if cursor.rest.head? = some '#' then cursor.skipWhile fun c => !isBreak c else cursor

/-- The cursor after the rest of a line on which nothing but blanks and a comment is left. -/
def endLine? (cursor : Cursor) : Option Cursor :=
  let cursor := (cursor.skipWhile isBlank).skipComment
  match cursor.rest with
  | [] => some cursor
  | c :: rest => if isBreak c then some ⟨cursor.place.down, rest⟩ else none

end Cursor

end ActionGateway.Yaml
