/-! # Byte sequences and UTF-8 text -/

namespace ActionGateway

/-- A finite sequence of bytes. -/
abbrev Bytes := List UInt8

namespace Bytes

/-- The UTF-8 encoding of a text. -/
def ofText (text : String) : Bytes :=
  text.toList.flatMap String.utf8EncodeChar

/-- The text whose UTF-8 encoding the bytes are, if there is one. -/
def text? (bytes : Bytes) : Option String :=
  String.fromUTF8? bytes.toByteArray

end Bytes

end ActionGateway
