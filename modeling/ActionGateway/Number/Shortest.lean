import ActionGateway.Number.Binary64

/-! # Shortest decimal text of a double

The text of a double has the fewest digits that read back as the same double, and among the
decimals with that many digits it is the one nearest to the double. The digits are found in exact
arithmetic: for one digit, two digits and so on, the two neighbours of the double on the decimal
grid are tested against the interval of reals that round to it.
-/

namespace ActionGateway

/-- A decimal `digits * 10 ^ scale`. -/
structure Decimal where
  digits : Nat
  scale : Int
  deriving DecidableEq, Repr, Inhabited

namespace Decimal

/-- The same decimal without zeros at the end of its digits. -/
def withoutTrailingZeros : Nat → Decimal → Decimal
  | 0, value => value
  | fuel + 1, value =>
    if value.digits ≠ 0 ∧ value.digits % 10 = 0 then
      withoutTrailingZeros fuel ⟨value.digits / 10, value.scale + 1⟩
    else value

end Decimal

namespace Binary64

/-- The interval of reals that round to a double, in quarters of its last binary place. A double
with even significand owns the ends of its interval. -/
structure Rounding where
  low : Nat
  value : Nat
  high : Nat
  closed : Bool
  /-- The binary exponent of one quarter. -/
  exponent : Int

/-- The rounding interval of a positive double. Below a power of two the doubles are twice as
dense, so there the lower half is half as wide. -/
def rounding (value : Binary64) : Rounding where
  low :=
    if value.significand = Nat.pow 2 52 ∧ minExponent < value.exponent then
      4 * value.significand - 1
    else 4 * value.significand - 2
  value := 4 * value.significand
  high := 4 * value.significand + 2
  closed := value.significand % 2 == 0
  exponent := value.exponent - 2

namespace Rounding

/-- `quarters * 2 ^ exponent / 10 ^ scale` as factors `a / b` on the quarters. -/
def onGrid (interval : Rounding) (scale : Int) : Nat × Nat :=
  let (a, b) :=
    if 0 ≤ interval.exponent then (Nat.pow 2 interval.exponent.toNat, 1)
    else (1, Nat.pow 2 (-interval.exponent).toNat)
  if 0 ≤ scale then (a, b * Nat.pow 10 scale.toNat) else (a * Nat.pow 10 (-scale).toNat, b)

/-- Whether `digits * 10 ^ scale` lies in the interval. -/
def holds (interval : Rounding) (scale : Int) (digits : Nat) : Bool :=
  let (a, b) := interval.onGrid scale
  if interval.closed then
    decide (interval.low * a ≤ digits * b) && decide (digits * b ≤ interval.high * a)
  else decide (interval.low * a < digits * b) && decide (digits * b < interval.high * a)

/-- The neighbour of the value on the grid of `10 ^ scale` that lies in the interval; of two the
nearer one, and the even one on a tie. -/
def neighbour? (interval : Rounding) (scale : Int) : Option Nat :=
  let (a, b) := interval.onGrid scale
  let below := interval.value * a / b
  let above := below + 1
  match interval.holds scale below, interval.holds scale above with
  | true, false => some below
  | false, true => some above
  | false, false => none
  | true, true =>
    let rest := 2 * (interval.value * a % b)
    if rest < b then some below
    else if b < rest then some above
    else if below % 2 = 0 then some below
    else some above

end Rounding

/-- The exponent `k` with `10 ^ k ≤ value < 10 ^ (k + 1)`, for a positive double. -/
def floorLog10 (value : Binary64) : Int :=
  let (num, den) := value.ratio
  let reaches (k : Int) : Bool :=
    if 0 ≤ k then decide (den * Nat.pow 10 k.toNat ≤ num)
    else decide (den ≤ num * Nat.pow 10 (-k).toNat)
  let guess := Int.fdiv (((value.significand.log2 : Int) + value.exponent) * 30103) 100000
  if reaches (guess + 1) then guess + 1
  else if reaches guess then guess
  else guess - 1

/-- The first grid, from coarse to fine, with a neighbour in the interval. -/
def firstNeighbour (interval : Rounding) : Nat → Int → Decimal
  | 0, scale => ⟨(interval.neighbour? scale).getD 0, scale⟩
  | fuel + 1, scale =>
    match interval.neighbour? scale with
    | some digits => ⟨digits, scale⟩
    | none => firstNeighbour interval fuel (scale - 1)

/-- The shortest decimal that reads back as the magnitude of the double. -/
def shortest (value : Binary64) : Decimal :=
  if value.significand = 0 then ⟨0, 0⟩
  else (firstNeighbour value.rounding 17 value.floorLog10).withoutTrailingZeros 20

/-- How a decimal is written: positional notation while the decimal exponent is at least
`leastPositional` and below `leastScientific`, scientific notation otherwise, where a positive
exponent takes `positiveSign`. -/
structure Style where
  leastPositional : Int
  leastScientific : Int
  positiveSign : String

/-- The digits of a decimal in the given notation. Positional notation always has a point, and
scientific notation has one when there is more than one digit. -/
def Style.write (style : Style) (value : Decimal) : String :=
  let digits := Nat.toDigits 10 value.digits
  let point : Int := digits.length + value.scale
  let exponent := point - 1
  if exponent < style.leastPositional ∨ style.leastScientific ≤ exponent then
    let mantissa := match digits with
      | first :: second :: rest => first :: '.' :: second :: rest
      | short => short
    let sign := if exponent < 0 then "-" else style.positiveSign
    String.ofList mantissa ++ "e" ++ sign ++ toString exponent.natAbs
  else if 0 ≤ value.scale then
    String.ofList (digits ++ List.replicate value.scale.toNat '0' ++ ['.', '0'])
  else if 0 < point then
    String.ofList (digits.take point.toNat ++ '.' :: digits.drop point.toNat)
  else
    String.ofList ('0' :: '.' :: List.replicate (-point).toNat '0' ++ digits)

/-- The text of a double in the given notation. -/
def text (style : Style) (value : Binary64) : String :=
  let magnitude :=
    if value.significand = 0 then "0.0" else style.write value.shortest
  if value.negative then "-" ++ magnitude else magnitude

end Binary64

end ActionGateway
