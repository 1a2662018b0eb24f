/-! # Blank characters

The characters that count as blank space when names and values are trimmed: exactly those with
the Unicode property White_Space. Zero-width characters and the byte order mark do not have that
property and therefore count as text.
-/

namespace ActionGateway.Text

/-- A character with the Unicode property White_Space. -/
def isBlank (c : Char) : Bool :=
  let code := c.toNat
  (9 ≤ code && code ≤ 13) || code == 0x20 || code == 0x85 || code == 0xA0 || code == 0x1680 ||
    (0x2000 ≤ code && code ≤ 0x200A) || code == 0x2028 || code == 0x2029 || code == 0x202F ||
    code == 0x205F || code == 0x3000

/-- The characters without the blank ones at the start. -/
def trimStart (text : List Char) : List Char :=
  text.dropWhile isBlank

/-- The characters without the blank ones at the end. -/
def trimEnd (text : List Char) : List Char :=
  (text.reverse.dropWhile isBlank).reverse

/-- The characters without the blank ones at either end. -/
def trim (text : List Char) : List Char :=
  trimEnd (trimStart text)

/-- A text without the blank characters at either end. -/
def trimmed (text : String) : String :=
  String.ofList (trim text.toList)

/-- A text that holds blank characters only; the empty text is one. -/
def isBlankText (text : String) : Bool :=
  text.toList.all isBlank

/-- The text itself, unless nothing but blank characters is in it. -/
def nonBlank (text : String) : Option String :=
  if isBlankText text then none else some text

end ActionGateway.Text
