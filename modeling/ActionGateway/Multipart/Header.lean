import ActionGateway.Bytes
import ActionGateway.Multipart.MediaType

/-! # Headers of parts

The header block of a part: lines of a name, a colon and a value, up to an empty line. The name and
the file name of a part stand in its content disposition.
-/

namespace ActionGateway

/-- **Header.** Its name is in lower case. -/
structure PartHeader where
  name : List Char
  value : Bytes
  deriving DecidableEq, Repr

namespace PartHeader

/-- The byte of an ASCII character. -/
def octet (c : Char) : UInt8 := c.toUInt8

/-- Space or tab. -/
def isBlankByte (byte : UInt8) : Bool :=
  byte == 0x20 || byte == 0x09

/-- A byte that may stand in a value. -/
def isValueByte (byte : UInt8) : Bool :=
  byte == 0x09 || (0x20 ≤ byte && byte != 0x7F)

/-- A byte of a name. -/
def isNameByte (byte : UInt8) : Bool :=
  byte < 0x80 && isTokenChar (Char.ofNat byte.toNat)

/-- A value without blanks at either end. -/
def trimmed (value : Bytes) : Bytes :=
  ((value.dropWhile isBlankByte).reverse.dropWhile isBlankByte).reverse

/-- The rest after a line break, which may lack its carriage return. -/
def afterBreak? : Bytes → Option Bytes
  | 0x0D :: 0x0A :: rest => some rest
  | 0x0A :: rest => some rest
  | _ => none

/-- A header at the start of the bytes, and what follows its line. -/
def first? (bytes : Bytes) : Option (PartHeader × Bytes) := do
  let name := bytes.takeWhile isNameByte
  if name.isEmpty then none
  else
    match bytes.drop name.length with
    | 0x3A :: rest =>
      let value := rest.takeWhile isValueByte
      let after ← afterBreak? (rest.drop value.length)
      some (⟨name.map fun byte => (Char.ofNat byte.toNat).toLower, trimmed value⟩, after)
    | _ => none

/-- At most `room` headers, up to an empty line. -/
def list? : Nat → Bytes → Option (List PartHeader)
  | room, bytes =>
    match afterBreak? bytes with
    | some _ => some []
    | none =>
      match room with
      | 0 => none
      | room + 1 => do
        let (header, rest) ← first? bytes
        let headers ← list? room rest
        some (header :: headers)

/-- How many headers a part may have. -/
def maxCount : Nat := 32

/-- The headers of a block. -/
def ofBlock? (bytes : Bytes) : Option (List PartHeader) :=
  list? maxCount bytes

/-- The value of the last header of a name. -/
def value? (headers : List PartHeader) (name : String) : Option Bytes :=
  (headers.reverse.find? fun header => header.name == name.toList).map PartHeader.value

end PartHeader

namespace Disposition

open PartHeader

/-- ASCII blank space. -/
def isSpaceByte (byte : UInt8) : Bool :=
  byte == 0x20 || byte == 0x09 || byte == 0x0A || byte == 0x0C || byte == 0x0D

/-- An attribute may start after this byte. -/
def precedes (byte : UInt8) : Bool :=
  isSpaceByte byte || byte == octet ';'

/-- What follows the first occurrence of a word as the start of an attribute. `before` is the byte
before the bytes; nothing counts as before them right after an occurrence that is only part of a
longer word. The next `skip` bytes belong to such a one. -/
def after? (word : Bytes) (before : Option UInt8) : Nat → Bytes → Option Bytes
  | _, [] => none
  | skip + 1, _ :: rest => after? word none skip rest
  | 0, byte :: rest =>
    if word.isPrefixOf (byte :: rest) then
      if before.all precedes then some ((byte :: rest).drop word.length)
      else after? word none (word.length - 1) rest
    else after? word (some byte) 0 rest

/-- The bytes up to a quote that no backslash precedes, with the backslash before other quotes left
out. A backslash counts as preceding a quote whatever stands before it. -/
def quotedValue? (escaped : Bool) : Bytes → Option Bytes
  | [] => none
  | byte :: rest =>
    if byte == octet '"' && !escaped then some []
    else
      match byte == octet '\\', rest with
      | true, next :: _ =>
        if next == octet '"' then quotedValue? true rest
        else (quotedValue? false rest).map (byte :: ·)
      | _, _ => (quotedValue? false rest).map (byte :: ·)

/-- The value of an attribute after its name: after an equals sign quoted, or up to a semicolon or
a space. -/
def valueAfter? (rest : Bytes) : Option Bytes :=
  match rest.dropWhile isSpaceByte with
  | 0x3D :: rest =>
    match rest.dropWhile isSpaceByte with
    | 0x22 :: rest => quotedValue? false rest
    | rest => some (rest.takeWhile fun byte => byte != octet ';' && byte != 0x20)
  | _ => none

/-- An attribute of a content disposition, as text. -/
def attribute? (disposition : Bytes) (name : String) : Option String :=
  ((after? (Bytes.ofText name) none 0 disposition).bind valueAfter?).bind Bytes.text?

end Disposition

end ActionGateway
