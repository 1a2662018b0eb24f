/-! # Finite binary floating point with 64 bits

A finite double is a sign, a significand below `2 ^ 53` and a binary exponent; its magnitude is
`significand * 2 ^ exponent`. Every operation is defined by exact arithmetic on the magnitude
followed by one rounding to the nearest double, where a tie goes to the even significand.
-/

namespace ActionGateway

/-- A finite double: `(-1) ^ negative * significand * 2 ^ exponent`. -/
structure Binary64 where
  negative : Bool
  significand : Nat
  exponent : Int
  deriving DecidableEq, Repr, Inhabited

namespace Binary64

/-- The smallest binary exponent of a double. -/
def minExponent : Int := -1074

/-- The largest binary exponent of a finite double. -/
def maxExponent : Int := 971

/-- Zero with the given sign. -/
def zero (negative : Bool) : Binary64 := ⟨negative, 0, minExponent⟩

/-- `num / den` to the nearest natural number; a tie goes to the even one. -/
def roundQuotient (num den : Nat) : Nat :=
  let whole := num / den
  let rest := 2 * (num % den)
  if rest < den then whole
  else if den < rest then whole + 1
  else if whole % 2 = 0 then whole
  else whole + 1

/-- The exponent `e` with `2 ^ e ≤ num / den < 2 ^ (e + 1)`, for positive operands. -/
def floorLog2 (num den : Nat) : Int :=
  let guess : Int := (num.log2 : Int) - (den.log2 : Int)
  let reached :=
    if 0 ≤ guess then den * Nat.pow 2 guess.toNat ≤ num else den ≤ num * Nat.pow 2 (-guess).toNat
  if reached then guess else guess - 1

/-- The double nearest to `num / den`, or nothing when that is beyond the finite doubles. -/
def ofRatio (negative : Bool) (num den : Nat) : Option Binary64 :=
  if num = 0 ∨ den = 0 then some (zero negative)
  else
    let exponent := max (floorLog2 num den - 52) minExponent
    let significand :=
      if 0 ≤ exponent then roundQuotient num (den * Nat.pow 2 exponent.toNat)
      else roundQuotient (num * Nat.pow 2 (-exponent).toNat) den
    let carried := decide (significand = Nat.pow 2 53)
    let significand := if carried then Nat.pow 2 52 else significand
    let exponent := if carried then exponent + 1 else exponent
    if maxExponent < exponent then none else some ⟨negative, significand, exponent⟩

/-- The double nearest to a natural number, or nothing when that is beyond the finite doubles. -/
def ofNat (negative : Bool) (value : Nat) : Option Binary64 :=
  ofRatio negative value 1

/-- Numerator and denominator of the magnitude. -/
def ratio (value : Binary64) : Nat × Nat :=
  if 0 ≤ value.exponent then (value.significand * Nat.pow 2 value.exponent.toNat, 1)
  else (value.significand, Nat.pow 2 (-value.exponent).toNat)

/-- The rounded product, with the sign of the first factor; the second one is positive. -/
def scaleUp (value factor : Binary64) : Option Binary64 :=
  let (a, b) := value.ratio
  let (c, d) := factor.ratio
  ofRatio value.negative (a * c) (b * d)

/-- The rounded quotient, with the sign of the dividend; the divisor is positive. -/
def scaleDown (value divisor : Binary64) : Option Binary64 :=
  let (a, b) := value.ratio
  let (c, d) := divisor.ratio
  ofRatio value.negative (a * d) (b * c)

/-- The double nearest to `digits * 10 ^ scale`, or nothing when that is beyond the finite
doubles. -/
def ofDecimal (negative : Bool) (digits : Nat) (scale : Int) : Option Binary64 :=
  if digits = 0 then some (zero negative)
  else
    -- The digits are at least `10 ^ least` and below `10 ^ most`, as `2 ^ 10 > 10 ^ 3` and
    -- `2 ^ 3 < 10`. Beyond the finite doubles, or far below the least of them, the result is
    -- certain and the power of ten need not be computed.
    let least := digits.log2 / 10 * 3
    let most := digits.log2 / 3 + 1
    if 400 < least + scale then none
    else if most + scale < -400 then some (zero negative)
    else if 0 ≤ scale then ofRatio negative (digits * Nat.pow 10 scale.toNat) 1
    else ofRatio negative digits (Nat.pow 10 (-scale).toNat)

/-- The value as a natural number, when it is one and is not negative. -/
def toNat? (value : Binary64) : Option Nat :=
  if value.negative then none
  else
    let (num, den) := value.ratio
    if num % den = 0 then some (num / den) else none

end Binary64

end ActionGateway
