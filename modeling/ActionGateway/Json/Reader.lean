import ActionGateway.Bytes
import ActionGateway.Json.Basic
import ActionGateway.Number.Digits

/-! # Reading JSON text

Text is read in two steps. `Json.Raw.ofBytes?` accepts exactly what the JSON grammar accepts and
keeps what may still turn out to be meaningless: a string whose escapes name half a surrogate pair
or whose bytes are no UTF-8, and a number beyond the doubles. `Json.Raw.value?` then asks for a
meaning of every part. The steps are apart because a field that nobody asks for need only be
grammatical.
-/

namespace ActionGateway

/-- **JSON text as read**, before its strings and numbers are asked for. Fields stand in the order
of the text and may repeat a name. -/
inductive Json.Raw where
  | null
  | bool (value : Bool)
  /-- A number, or a hole where its magnitude is beyond the doubles. -/
  | num (value : Option Json.Number)
  /-- A string, or a hole where its content is no Unicode text. -/
  | str (content : Option String)
  | arr (items : List Json.Raw)
  | obj (fields : List (Option String × Json.Raw))
  deriving Inhabited

namespace Json.Raw

/-! ## Numbers -/

/-- The digits of a number literal as read so far: the leading ones that fit 64 bits, and the power
of ten that the others amount to. -/
structure Significand where
  value : Nat
  scale : Int

/-- Whether one more digit still fits 64 bits. -/
def Significand.fits (significand : Significand) (digit : Nat) : Bool :=
  significand.value * 10 + digit < Nat.pow 2 64

/-- Take the digits before the point. From the first one that does not fit on they only scale. -/
def Significand.takeWhole (significand : Significand) : List Nat → Significand
  | [] => significand
  | digit :: rest =>
    if significand.fits digit then
      takeWhole ⟨significand.value * 10 + digit, significand.scale⟩ rest
    else ⟨significand.value, significand.scale + (rest.length + 1)⟩

/-- Take the digits after the point. From the first one that does not fit on they are dropped. -/
def Significand.takePart (significand : Significand) : List Nat → Significand
  | [] => significand
  | digit :: rest =>
    if significand.fits digit then
      takePart ⟨significand.value * 10 + digit, significand.scale - 1⟩ rest
    else significand

/-- Scale a double by a power of ten. The power is rounded to a double first and the result once
more; powers below `10 ^ -308` are taken in steps. Nothing results beyond the finite doubles. -/
def scaleByTen : Nat → Binary64 → Int → Option Binary64
  | 0, value, _ => some value
  | fuel + 1, value, scale =>
    if scale.natAbs ≤ 308 then
      (Binary64.ofNat false (Nat.pow 10 scale.natAbs)).bind fun power =>
        if 0 ≤ scale then value.scaleUp power else value.scaleDown power
    else if value.significand = 0 then some value
    else if 0 ≤ scale then none
    else
      (Binary64.ofNat false (Nat.pow 10 308)).bind fun power =>
        (value.scaleDown power).bind fun smaller => scaleByTen fuel smaller (scale + 308)

/-- The double a significand stands for. -/
def Significand.real? (negative : Bool) (significand : Significand) : Option Binary64 :=
  (Binary64.ofNat negative significand.value).bind fun value =>
    scaleByTen 8 value significand.scale

/-- The number of a literal without point and exponent: an integer if it fits 64 bits, signed or
unsigned, and a double otherwise. Minus zero is a double. -/
def wholeNumber (negative : Bool) (significand : Significand) : Option Number :=
  if significand.scale = 0 ∧ negative = false then some (.int significand.value)
  else if significand.scale = 0 ∧ 0 < significand.value ∧ significand.value ≤ Nat.pow 2 63 then
    some (.int (-(significand.value : Int)))
  else (significand.real? negative).map .real

/-- The largest exponent that is still computed with. -/
def exponentLimit : Nat := 2147483647

/-- A significand with an exponent. An exponent beyond the limit leaves zero, or nothing when it is
positive and the significand is not zero. -/
def scientificNumber (negative : Bool) (significand : Significand) (downward : Bool)
    (exponent : Nat) : Option Number :=
  if exponentLimit < exponent then
    if significand.value ≠ 0 ∧ downward = false then none
    else some (.real (Binary64.zero negative))
  else
    let scale := if downward then significand.scale - exponent else significand.scale + exponent
    (Significand.real? negative ⟨significand.value, scale⟩).map .real

/-- The value of an ASCII digit. -/
def digit? (byte : UInt8) : Option Nat :=
  if 0x30 ≤ byte ∧ byte ≤ 0x39 then some (byte.toNat - 0x30) else none

/-- The digits at the start and what follows them. -/
def takeDigits (digits : List Nat) : Bytes → List Nat × Bytes
  | [] => (digits.reverse, [])
  | byte :: rest =>
    match digit? byte with
    | some digit => takeDigits (digit :: digits) rest
    | none => (digits.reverse, byte :: rest)

/-- The exponent after its mark: an optional sign and at least one digit. -/
def readExponent (negative : Bool) (significand : Significand) (bytes : Bytes) :
    Option (Raw × Bytes) :=
  let (downward, unsigned) := match bytes with
    | 0x2B :: rest => (false, rest)
    | 0x2D :: rest => (true, rest)
    | rest => (false, rest)
  match takeDigits [] unsigned with
  | ([], _) => none
  | (digits, rest) =>
    some (.num (scientificNumber negative significand downward (Digits.value 10 digits)), rest)

/-- A number after its sign. A leading zero stands alone before the point. -/
def readMagnitude (negative : Bool) (bytes : Bytes) : Option (Raw × Bytes) :=
  match takeDigits [] bytes with
  | ([], _) => none
  | (0 :: _ :: _, _) => none
  | (whole, afterWhole) =>
    let significand := Significand.takeWhole ⟨0, 0⟩ whole
    match afterWhole with
    | 0x2E :: rest =>
      match takeDigits [] rest with
      | ([], _) => none
      | (part, afterPart) =>
        let significand := significand.takePart part
        match afterPart with
        | 0x65 :: rest => readExponent negative significand rest
        | 0x45 :: rest => readExponent negative significand rest
        | rest => some (.num ((significand.real? negative).map .real), rest)
    | 0x65 :: rest => readExponent negative significand rest
    | 0x45 :: rest => readExponent negative significand rest
    | rest => some (.num (wholeNumber negative significand), rest)

/-! ## Strings -/

/-- The value of a hexadecimal digit. -/
def hexDigit? (byte : UInt8) : Option Nat :=
  if 0x30 ≤ byte ∧ byte ≤ 0x39 then some (byte.toNat - 0x30)
  else if 0x61 ≤ byte ∧ byte ≤ 0x66 then some (byte.toNat - 0x57)
  else if 0x41 ≤ byte ∧ byte ≤ 0x46 then some (byte.toNat - 0x37)
  else none

/-- Four hexadecimal digits. -/
def hexUnit? : Bytes → Option (Nat × Bytes)
  | a :: b :: c :: d :: rest => do
    let a ← hexDigit? a
    let b ← hexDigit? b
    let c ← hexDigit? c
    let d ← hexDigit? d
    some (((a * 16 + b) * 16 + c) * 16 + d, rest)
  | _ => none

/-- One part of a string. -/
inductive StringPart where
  /-- Bytes of the content. -/
  | content (bytes : Bytes)
  /-- Half a surrogate pair. -/
  | hole
  /-- The closing quote. -/
  | close

/-- What a unit written as an escape denotes. The first half of a surrogate pair takes the second
half with it. -/
def escapedUnit (unit : Nat) (rest : Bytes) : StringPart × Bytes :=
  if 0xD800 ≤ unit ∧ unit < 0xDC00 then
    match rest with
    | 0x5C :: 0x75 :: more =>
      match hexUnit? more with
      | some (second, tail) =>
        if 0xDC00 ≤ second ∧ second < 0xE000 then
          let code := 0x10000 + (unit - 0xD800) * 0x400 + (second - 0xDC00)
          (.content (String.utf8EncodeChar (Char.ofNat code)), tail)
        else (.hole, rest)
      | none => (.hole, rest)
    | _ => (.hole, rest)
  else if 0xDC00 ≤ unit ∧ unit < 0xE000 then (.hole, rest)
  else (.content (String.utf8EncodeChar (Char.ofNat unit)), rest)

/-- The next part of a string. A control character is not allowed inside. -/
def readStringPart : Bytes → Option (StringPart × Bytes)
  | [] => none
  | 0x22 :: rest => some (.close, rest)
  | 0x5C :: 0x22 :: rest => some (.content [0x22], rest)
  | 0x5C :: 0x5C :: rest => some (.content [0x5C], rest)
  | 0x5C :: 0x2F :: rest => some (.content [0x2F], rest)
  | 0x5C :: 0x62 :: rest => some (.content [0x08], rest)
  | 0x5C :: 0x66 :: rest => some (.content [0x0C], rest)
  | 0x5C :: 0x6E :: rest => some (.content [0x0A], rest)
  | 0x5C :: 0x72 :: rest => some (.content [0x0D], rest)
  | 0x5C :: 0x74 :: rest => some (.content [0x09], rest)
  | 0x5C :: 0x75 :: rest => (hexUnit? rest).map fun unit => escapedUnit unit.1 unit.2
  | 0x5C :: _ => none
  | byte :: rest => if byte < 0x20 then none else some (.content [byte], rest)

/-- A string after its opening quote. `content` holds the bytes so far, last first, and `sound`
that no hole was met. -/
def readString (content : Bytes) (sound : Bool) : Nat → Bytes → Option (Option String × Bytes)
  | 0, _ => none
  | fuel + 1, bytes =>
    match readStringPart bytes with
    | none => none
    | some (.close, rest) =>
      some (if sound then Bytes.text? content.reverse else none, rest)
    | some (.hole, rest) => readString content false fuel rest
    | some (.content part, rest) => readString (part.reverse ++ content) sound fuel rest

/-! ## Values -/

/-- Skip blank space, tabs and line ends. -/
def skipBlank : Bytes → Bytes
  | [] => []
  | byte :: rest =>
    if byte = 0x20 ∨ byte = 0x09 ∨ byte = 0x0A ∨ byte = 0x0D then skipBlank rest
    else byte :: rest

mutual

/-- A value at the start of the bytes, after blank space. Reading takes at most `fuel` steps into
the text. -/
def readValue : Nat → Bytes → Option (Raw × Bytes)
  | 0, _ => none
  | fuel + 1, bytes =>
    match skipBlank bytes with
    | 0x6E :: 0x75 :: 0x6C :: 0x6C :: rest => some (.null, rest)
    | 0x74 :: 0x72 :: 0x75 :: 0x65 :: rest => some (.bool true, rest)
    | 0x66 :: 0x61 :: 0x6C :: 0x73 :: 0x65 :: rest => some (.bool false, rest)
    | 0x22 :: rest =>
      (readString [] true (fuel + 1) rest).map fun read => (.str read.1, read.2)
    | 0x2D :: rest => readMagnitude true rest
    | 0x5B :: rest =>
      match skipBlank rest with
      | 0x5D :: rest => some (.arr [], rest)
      | rest => readItems [] fuel rest
    | 0x7B :: rest =>
      match skipBlank rest with
      | 0x7D :: rest => some (.obj [], rest)
      | rest => readFields [] fuel rest
    | rest => readMagnitude false rest

/-- The items of an array from one that has to be there on, last first in `items`. -/
def readItems (items : List Raw) : Nat → Bytes → Option (Raw × Bytes)
  | 0, _ => none
  | fuel + 1, bytes =>
    match readValue fuel bytes with
    | none => none
    | some (item, rest) =>
      match skipBlank rest with
      | 0x2C :: rest => readItems (item :: items) fuel rest
      | 0x5D :: rest => some (.arr (item :: items).reverse, rest)
      | _ => none

/-- The fields of an object from one that has to be there on, last first in `fields`. -/
def readFields (fields : List (Option String × Raw)) : Nat → Bytes → Option (Raw × Bytes)
  | 0, _ => none
  | fuel + 1, bytes =>
    match skipBlank bytes with
    | 0x22 :: rest =>
      match readString [] true (fuel + 1) rest with
      | none => none
      | some (name, rest) =>
        match skipBlank rest with
        | 0x3A :: rest =>
          match readValue fuel rest with
          | none => none
          | some (value, rest) =>
            match skipBlank rest with
            | 0x2C :: rest => readFields ((name, value) :: fields) fuel rest
            | 0x7D :: rest => some (.obj ((name, value) :: fields).reverse, rest)
            | _ => none
        | _ => none
    | _ => none

end

/-- The one value that the bytes hold, with blank space around it. -/
def ofBytes? (bytes : Bytes) : Option Raw :=
  match readValue (2 * bytes.length + 2) bytes with
  | some (raw, rest) => if (skipBlank rest).isEmpty then some raw else none
  | none => none

mutual

/-- The value of a text, with at most `room` levels of arrays and objects. Of fields with one name
the last is kept. -/
def value? (room : Nat) : Raw → Option Json
  | .null => some .null
  | .bool value => some (.bool value)
  | .num number => number.map .num
  | .str content => content.map .str
  | .arr items =>
    match room with
    | 0 => none
    | room + 1 => (values? room items).map .arr
  | .obj fields =>
    match room with
    | 0 => none
    | room + 1 => (fieldValues? room fields).map Json.object

/-- The values of items. -/
def values? (room : Nat) : List Raw → Option (List Json)
  | [] => some []
  | item :: rest => do
    let value ← value? room item
    let values ← values? room rest
    some (value :: values)

/-- The names and values of fields. -/
def fieldValues? (room : Nat) : List (Option String × Raw) → Option (List (String × Json))
  | [] => some []
  | (name, field) :: rest => do
    let name ← name
    let value ← value? room field
    let values ← fieldValues? room rest
    some ((name, value) :: values)

end

mutual

/-- The text that a value was read from, up to blank space and spelling. -/
def ofValue : Json → Raw
  | .null => .null
  | .bool value => .bool value
  | .num number => .num (some number)
  | .str text => .str (some text)
  | .arr items => .arr (ofItems items)
  | .obj fields => .obj (ofFields fields)

/-- `ofValue` for each item. -/
def ofItems : List Json → List Raw
  | [] => []
  | item :: rest => ofValue item :: ofItems rest

/-- `ofValue` for each field. -/
def ofFields : List (String × Json) → List (Option String × Raw)
  | [] => []
  | (name, value) :: rest => (some name, ofValue value) :: ofFields rest

end

end Json.Raw

namespace Json

/-- How many levels of arrays and objects a text may have. -/
def maxDepth : Nat := 127

/-- The value of a JSON text given as bytes. -/
def ofBytes? (bytes : Bytes) : Option Json :=
  (Raw.ofBytes? bytes).bind (Raw.value? maxDepth)

/-- The value of a JSON text. -/
def ofText? (text : String) : Option Json :=
  ofBytes? (Bytes.ofText text)

end Json

end ActionGateway
