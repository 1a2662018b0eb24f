import ActionGateway.Number.Binary64
import ActionGateway.Number.Digits

/-! # Numbers written as text

Readers of integers and doubles in plain decimal notation. They differ in what they admit: a sign,
a radix, a point without digits on one side.
-/

namespace ActionGateway.Literal

/-- The value of a digit in the given radix, letters of either case from ten on. -/
def digit? (radix : Nat) (c : Char) : Option Nat :=
  let value? :=
    if '0' ≤ c ∧ c ≤ '9' then some (c.toNat - 48)
    else if 'a' ≤ c ∧ c ≤ 'z' then some (c.toNat - 87)
    else if 'A' ≤ c ∧ c ≤ 'Z' then some (c.toNat - 55)
    else none
  value?.filter (· < radix)

/-- An ASCII decimal digit. -/
def isDigit (c : Char) : Bool :=
  '0' ≤ c && c ≤ '9'

/-- The value of a sequence of at least one digit and nothing else. -/
def digits? (radix : Nat) (text : List Char) : Option Nat :=
  if text.isEmpty then none else (text.mapM (digit? radix)).map (Digits.value radix)

/-- The decimal value of characters that are known to be digits. -/
def digitsValue (text : List Char) : Nat :=
  Digits.value 10 (text.map fun c => c.toNat - 48)

/-- A natural number below `2 ^ bits`, with an optional plus sign. -/
def unsigned? (bits radix : Nat) (text : List Char) : Option Nat :=
  let magnitude := match text with
    | '+' :: rest => rest
    | unsignedText => unsignedText
  (digits? radix magnitude).filter (· < Nat.pow 2 bits)

/-- An integer from `-2 ^ (bits - 1)` up to `2 ^ (bits - 1) - 1`, with an optional sign. -/
def signed? (bits radix : Nat) (text : List Char) : Option Int :=
  let value? : Option Int := match text with
    | '+' :: rest => (digits? radix rest).map Int.ofNat
    | '-' :: rest => (digits? radix rest).map fun magnitude => -(magnitude : Int)
    | unsignedText => (digits? radix unsignedText).map Int.ofNat
  value?.filter fun value =>
    -(Nat.pow 2 (bits - 1) : Int) ≤ value ∧ value < (Nat.pow 2 (bits - 1) : Int)

/-- The exponent part of a decimal: nothing, or `e` or `E`, an optional sign and digits. -/
def exponent? : List Char → Option Int
  | [] => some 0
  | mark :: rest =>
    if mark = 'e' ∨ mark = 'E' then
      match rest with
      | '-' :: magnitude => (digits? 10 magnitude).map fun value => -(value : Int)
      | '+' :: magnitude => (digits? 10 magnitude).map Int.ofNat
      | magnitude => (digits? 10 magnitude).map Int.ofNat
    else none

/-- A decimal without sign: digits on at least one side of an optional point, then an optional
exponent. The double nearest to it is the result, unless that is beyond the finite doubles. -/
def magnitude? (negative : Bool) (text : List Char) : Option Binary64 :=
  let (whole, afterWhole) := text.span isDigit
  let (part, afterPart) := match afterWhole with
    | '.' :: rest => rest.span isDigit
    | other => ([], other)
  if whole.isEmpty && part.isEmpty then none
  else
    match exponent? afterPart with
    | none => none
    | some exponent =>
      Binary64.ofDecimal negative (digitsValue (whole ++ part)) (exponent - part.length)

/-- A finite double in decimal notation with an optional sign. Words for infinity and for
undefined values are not finite and so are refused. -/
def real? : List Char → Option Binary64
  | '+' :: rest => magnitude? false rest
  | '-' :: rest => magnitude? true rest
  | text => magnitude? false text

end ActionGateway.Literal
