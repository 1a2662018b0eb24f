import ActionGateway.Number.Shortest
import Mathlib.Data.Int.Log
import Mathlib.Data.Rat.Floor
import Mathlib.Tactic.FieldSimp
import Mathlib.Tactic.Linarith
import Mathlib.Tactic.NormNum
import Mathlib.Tactic.Positivity
import Mathlib.Tactic.Ring

/-!
# The double that a rational rounds to

Each double has an interval of rationals around it, half of the way to its neighbours. Rounding
takes every rational of the interval to the double, so a decimal is read as a double as soon as it
lies in the interval of the double. What rounding gives is a double in canonical form: its
significand has 53 bits, or its exponent is the least one.
-/

namespace ActionGateway

/-! ## Powers with an integer exponent -/

/-- A power of nonnegative exponent is a natural number. -/
theorem zpow_of_nonneg (base : Nat) {exponent : Int} (nonneg : 0 ≤ exponent) :
    (base : ℚ) ^ exponent = ((Nat.pow base exponent.toNat : Nat) : ℚ) := by
  obtain ⟨places, rfl⟩ := Int.eq_ofNat_of_zero_le nonneg
  rw [Int.toNat_natCast, zpow_natCast]
  exact (Nat.cast_pow base places).symm

/-- One of negative exponent is the inverse of a natural number. -/
theorem zpow_of_neg (base : Nat) {exponent : Int} (negative : ¬ 0 ≤ exponent) :
    (base : ℚ) ^ exponent = ((Nat.pow base (-exponent).toNat : Nat) : ℚ)⁻¹ := by
  have opposite : 0 ≤ -exponent := by omega
  rw [← zpow_of_nonneg base opposite, zpow_neg, inv_inv]

/-- A power is compared with a quotient in natural numbers. -/
theorem zpow_le_div_iff {base : Nat} (basePos : 0 < base) (num : Nat) {den : Nat}
    (denPos : 0 < den) (exponent : Int) :
    (base : ℚ) ^ exponent ≤ (num : ℚ) / den ↔
      if 0 ≤ exponent then den * Nat.pow base exponent.toNat ≤ num
      else den ≤ num * Nat.pow base (-exponent).toNat := by
  have den_pos : (0 : ℚ) < den := Nat.cast_pos.mpr denPos
  rw [le_div_iff₀ den_pos]
  split_ifs with nonneg
  · rw [zpow_of_nonneg base nonneg, mul_comm]
    exact_mod_cast Iff.rfl
  · have power_pos : (0 : ℚ) < (Nat.pow base (-exponent).toNat : Nat) :=
      Nat.cast_pos.mpr (Nat.pow_pos basePos)
    rw [zpow_of_neg base nonneg, ← div_eq_inv_mul, div_le_iff₀ power_pos]
    exact_mod_cast Iff.rfl

/-- The value of a decimal. -/
def Decimal.value (decimal : Decimal) : ℚ :=
  decimal.digits * (10 : ℚ) ^ decimal.scale

namespace Binary64

/-! ## Rounding to a natural number -/

/-- **The nearest natural number**, the even one where two are equally near. -/
structure IsNearest (nearest : Nat) (value : ℚ) : Prop where
  low : 2 * (nearest : ℚ) ≤ 2 * value + 1
  high : 2 * value ≤ 2 * (nearest : ℚ) + 1
  even : 2 * (nearest : ℚ) = 2 * value + 1 ∨ 2 * value = 2 * (nearest : ℚ) + 1 → nearest % 2 = 0

/-- Of two nearest numbers neither is the larger. -/
theorem IsNearest.le {first second : Nat} {value : ℚ} (near : IsNearest first value)
    (other : IsNearest second value) : second ≤ first := by
  by_contra less
  -- The value would be half way between neighbours, and of these one is odd.
  have apart : (first : ℚ) + 1 ≤ second := by exact_mod_cast Nat.not_le.mp less
  have even := near.even (.inr (by linarith [near.high, other.low]))
  have otherEven := other.even (.inl (by linarith [near.high, other.low]))
  have close : (second : ℚ) ≤ first + 1 := by linarith [near.high, other.low]
  have close : second ≤ first + 1 := by exact_mod_cast close
  omega

/-- So at most one natural number is nearest, ties going to the even. -/
theorem IsNearest.unique {first second : Nat} {value : ℚ} (near : IsNearest first value)
    (other : IsNearest second value) : first = second :=
  Nat.le_antisymm (other.le near) (near.le other)

/-- Rounding a quotient gives the nearest number. -/
theorem isNearest_roundQuotient (num : Nat) {den : Nat} (positive : 0 < den) :
    IsNearest (roundQuotient num den) ((num : ℚ) / den) := by
  have den_pos : (0 : ℚ) < den := Nat.cast_pos.mpr positive
  have split : (num : ℚ) / den = (num / den : Nat) + (num % den : Nat) / den := by
    rw [eq_comm, ← mul_left_inj' den_pos.ne', add_mul, div_mul_cancel₀ _ den_pos.ne',
      div_mul_cancel₀ _ den_pos.ne']
    exact_mod_cast Nat.div_add_mod' num den
  have double : 2 * ((num % den : Nat) / (den : ℚ)) = (2 * (num % den) : Nat) / den := by
    rw [Nat.cast_mul, Nat.cast_ofNat, mul_div_assoc]
  have partNonneg : (0 : ℚ) ≤ (num % den : Nat) / den := by positivity
  have partSmall : ((num % den : Nat) : ℚ) / den < 1 :=
    (div_lt_one den_pos).mpr (Nat.cast_lt.mpr (Nat.mod_lt num positive))
  have below : 2 * (num % den) < den ↔ 2 * ((num % den : Nat) / (den : ℚ)) < 1 := by
    rw [double, div_lt_one den_pos, Nat.cast_lt]
  have above : den < 2 * (num % den) ↔ 1 < 2 * ((num % den : Nat) / (den : ℚ)) := by
    rw [double, one_lt_div den_pos, Nat.cast_lt]
  rw [split]
  unfold roundQuotient
  simp only [below, above]
  generalize ((num % den : Nat) : ℚ) / den = part at *
  generalize num / den = whole
  split_ifs with less greater even
  · exact ⟨by linarith, by linarith, fun tie => by rcases tie with same | same <;> linarith⟩
  · refine ⟨by push_cast; linarith, by push_cast; linarith, fun tie => ?_⟩
    push_cast at tie
    rcases tie with same | same <;> linarith
  · exact ⟨by linarith, by linarith, fun _ => even⟩
  · refine ⟨by push_cast; linarith, by push_cast; linarith, fun _ => by omega⟩

/-! ## The binade of a ratio -/

/-- A quotient lies within a factor of two of the quotient of the leading powers. -/
theorem zpow_log2_le_div {num den : Nat} (numPos : 0 < num) (denPos : 0 < den) :
    (2 : ℚ) ^ ((num.log2 : Int) - den.log2 - 1) ≤ num / den := by
  have lower : (2 : ℚ) ^ num.log2 ≤ num := by exact_mod_cast Nat.log2_self_le numPos.ne'
  have upper : (den : ℚ) ≤ 2 ^ den.log2 * 2 := by
    exact_mod_cast (pow_succ 2 den.log2 ▸ Nat.lt_log2_self (n := den)).le
  rw [zpow_sub_one₀ two_ne_zero, zpow_sub₀ two_ne_zero, zpow_natCast, zpow_natCast,
    div_mul_eq_mul_div, div_le_div_iff₀ (by positivity) (by positivity)]
  calc (2 : ℚ) ^ num.log2 * 2⁻¹ * den ≤ num * 2⁻¹ * (2 ^ den.log2 * 2) := by gcongr
    _ = num * 2 ^ den.log2 := by ring

/-- A quotient is below the power of two that the lengths of its terms tell. -/
theorem div_lt_zpow_log2 {num den : Nat} (denPos : 0 < den) :
    (num : ℚ) / den < 2 ^ ((num.log2 : Int) - den.log2 + 1) := by
  have lower : (2 : ℚ) ^ den.log2 ≤ den := by exact_mod_cast Nat.log2_self_le denPos.ne'
  have upper : (num : ℚ) < 2 ^ num.log2 * 2 := by
    exact_mod_cast (pow_succ 2 num.log2 ▸ Nat.lt_log2_self (n := num))
  rw [zpow_add_one₀ two_ne_zero, zpow_sub₀ two_ne_zero, zpow_natCast, zpow_natCast,
    div_mul_eq_mul_div, div_lt_div_iff₀ (by positivity) (by positivity)]
  calc (num : ℚ) * 2 ^ den.log2 ≤ num * den := by gcongr
    _ < 2 ^ num.log2 * 2 * den := by gcongr

/-- **The exponent of the binade** that a quotient lies in. -/
theorem floorLog2_eq {num den : Nat} (numPos : 0 < num) (denPos : 0 < den) :
    floorLog2 num den = Int.log 2 ((num : ℚ) / den) := by
  have ratioPos : (0 : ℚ) < num / den := by positivity
  have reaches := zpow_le_div_iff two_pos num denPos ((num.log2 : Int) - den.log2)
  have least := (Int.zpow_le_iff_le_log Nat.one_lt_two ratioPos).mp (zpow_log2_le_div numPos denPos)
  have most := (Int.lt_zpow_iff_log_lt Nat.one_lt_two ratioPos).mp (div_lt_zpow_log2 denPos)
  unfold floorLog2
  dsimp only
  generalize (num.log2 : Int) - den.log2 = guess at *
  by_cases reached : ((2 : Nat) : ℚ) ^ guess ≤ num / den
  · have within := (Int.zpow_le_iff_le_log Nat.one_lt_two ratioPos).mp reached
    rw [if_pos (reaches.mp reached)]
    omega
  · have beyond := (Int.lt_zpow_iff_log_lt Nat.one_lt_two ratioPos).mp (not_le.mp reached)
    rw [if_neg (mt reaches.mpr reached)]
    omega

/-- The places of a quotient above a power of two. -/
theorem add_le_log_iff {value : ℚ} (positive : 0 < value) (exponent : Int) (places : Nat) :
    exponent + places ≤ Int.log 2 value ↔ 2 ^ places ≤ value / 2 ^ exponent := by
  have power : (0 : ℚ) < 2 ^ exponent := zpow_pos two_pos exponent
  rw [← Int.zpow_le_iff_le_log Nat.one_lt_two positive, le_div_iff₀ power, Nat.cast_ofNat,
    zpow_add₀ two_ne_zero, zpow_natCast, mul_comm]

/-! ## The double of a quotient -/

/-- The significand at an exponent. -/
def significandAt (num den : Nat) (exponent : Int) : Nat :=
  if 0 ≤ exponent then roundQuotient num (den * Nat.pow 2 exponent.toNat)
  else roundQuotient (num * Nat.pow 2 (-exponent).toNat) den

/-- The significand at an exponent is the nearest to the scaled quotient. -/
theorem isNearest_significandAt (num : Nat) {den : Nat} (denPos : 0 < den) (exponent : Int) :
    IsNearest (significandAt num den exponent) ((num : ℚ) / den / 2 ^ exponent) := by
  have two : (2 : ℚ) = (2 : Nat) := rfl
  unfold significandAt
  split_ifs with nonneg
  · rw [two, zpow_of_nonneg 2 nonneg, div_div, ← Nat.cast_mul]
    exact isNearest_roundQuotient num (Nat.mul_pos denPos (Nat.pow_pos two_pos))
  · rw [two, zpow_of_neg 2 nonneg, div_inv_eq_mul, div_mul_eq_mul_div, ← Nat.cast_mul]
    exact isNearest_roundQuotient _ denPos

/-- The double with a rounded significand, which may have grown by a bit. -/
def assemble (negative : Bool) (significand : Nat) (exponent : Int) : Option Binary64 :=
  if significand = Nat.pow 2 53 then
    if maxExponent < exponent + 1 then none else some ⟨negative, Nat.pow 2 52, exponent + 1⟩
  else if maxExponent < exponent then none
  else some ⟨negative, significand, exponent⟩

/-- The exponent of the last place that a quotient is rounded to. -/
def placeOf (value : ℚ) : Int :=
  max (Int.log 2 value - 52) minExponent

/-- A ratio is read by rounding it at its place. -/
theorem ofRatio_eq (negative : Bool) {num den : Nat} (numPos : 0 < num) (denPos : 0 < den) :
    ofRatio negative num den =
      assemble negative (significandAt num den (placeOf ((num : ℚ) / den)))
        (placeOf ((num : ℚ) / den)) := by
  have nonzero : ¬ (num = 0 ∨ den = 0) := by omega
  rw [ofRatio, if_neg nonzero, floorLog2_eq numPos denPos]
  unfold assemble significandAt placeOf
  simp only [decide_eq_true_eq]
  split_ifs <;> rfl

/-! ## The interval of a double -/

/-- **A double in canonical form.** Only doubles with the least exponent have short significands. -/
structure Canonical (value : Binary64) : Prop where
  bounded : value.significand < Nat.pow 2 53
  least : minExponent ≤ value.exponent
  most : value.exponent ≤ maxExponent
  normal : value.significand < Nat.pow 2 52 → value.exponent = minExponent

/-- A rational in an interval. -/
def Rounding.Contains (interval : Rounding) (value : ℚ) : Prop :=
  if interval.closed then
    interval.low * (2 : ℚ) ^ interval.exponent ≤ value ∧
      value ≤ interval.high * (2 : ℚ) ^ interval.exponent
  else
    interval.low * (2 : ℚ) ^ interval.exponent < value ∧
      value < interval.high * (2 : ℚ) ^ interval.exponent

/-- **The bounds of the interval of a double**, in units of its last place. -/
structure Near (value : Binary64) (scaled : ℚ) : Prop where
  low : value.significand - (1 / 2 : ℚ) ≤ scaled
  high : scaled ≤ value.significand + 1 / 2
  closed : scaled = value.significand - 1 / 2 ∨ scaled = value.significand + 1 / 2 →
    value.significand % 2 = 0
  power : value.significand = Nat.pow 2 52 → minExponent < value.exponent →
    value.significand - (1 / 4 : ℚ) ≤ scaled

variable {value : Binary64} {exact : ℚ}

/-- The lower end of what rounds to a number, in quarters of its last place. -/
theorem cast_low (positive : 0 < value.significand) :
    (value.rounding.low : ℚ) =
      if value.significand = Nat.pow 2 52 ∧ minExponent < value.exponent then
        4 * (value.significand : ℚ) - 1
      else 4 * (value.significand : ℚ) - 2 := by
  unfold rounding
  dsimp only
  split_ifs
  · rw [Nat.cast_sub (by omega), Nat.cast_mul, Nat.cast_ofNat, Nat.cast_one]
  · rw [Nat.cast_sub (by omega), Nat.cast_mul, Nat.cast_ofNat, Nat.cast_ofNat]

/-- What lies in the interval of rounding is near once it is scaled. -/
theorem near_of_contains (positive : 0 < value.significand)
    (contained : value.rounding.Contains exact) : value.Near (exact / 2 ^ value.exponent) := by
  have unit : (0 : ℚ) < 2 ^ value.exponent := zpow_pos two_pos _
  have quarter : (2 : ℚ) ^ value.rounding.exponent = 2 ^ value.exponent / 4 := by
    rw [rounding, zpow_sub₀ two_ne_zero]
    norm_num
  have low := cast_low positive
  have high : (value.rounding.high : ℚ) = 4 * value.significand + 2 := by
    rw [rounding, Nat.cast_add, Nat.cast_mul]
    rfl
  obtain ⟨scaled, rfl⟩ : ∃ scaled, exact = scaled * 2 ^ value.exponent :=
    ⟨exact / 2 ^ value.exponent, (div_mul_cancel₀ _ unit.ne').symm⟩
  rw [mul_div_cancel_right₀ _ unit.ne']
  have above (bound : ℚ) :
      bound * (2 ^ value.exponent / 4) ≤ scaled * 2 ^ value.exponent ↔ bound ≤ 4 * scaled := by
    rw [mul_div_left_comm, mul_comm, mul_le_mul_iff_left₀ unit, div_le_iff₀' four_pos]
  have below (bound : ℚ) :
      scaled * 2 ^ value.exponent ≤ bound * (2 ^ value.exponent / 4) ↔ 4 * scaled ≤ bound := by
    rw [mul_div_left_comm, mul_comm _ (bound / 4), mul_le_mul_iff_left₀ unit, le_div_iff₀' four_pos]
  unfold Rounding.Contains at contained
  rw [quarter, high] at contained
  simp only [← not_le, above, below] at contained
  have least : 4 * (value.significand : ℚ) - 2 ≤ value.rounding.low := by
    rw [low]
    split_ifs <;> linarith
  have odd (unequal : ¬ value.significand % 2 = 0) : value.rounding.closed = false :=
    beq_eq_false_iff_ne.mpr unequal
  have inside : value.rounding.low ≤ 4 * scaled ∧ 4 * scaled ≤ 4 * value.significand + 2 := by
    split_ifs at contained
    · exact contained
    · exact ⟨(not_le.mp contained.1).le, (not_le.mp contained.2).le⟩
  refine ⟨by linarith, by linarith, ?_, ?_⟩
  · intro ends
    by_contra unequal
    rw [odd unequal, if_neg Bool.false_ne_true, not_le, not_le] at contained
    rcases ends with same | same <;> linarith
  · intro isPower aboveLeast
    rw [if_pos ⟨isPower, aboveLeast⟩] at low
    linarith

/-- A number that is near has the significand as its nearest. -/
theorem Near.isNearest {scaled : ℚ} (near : value.Near scaled) :
    IsNearest value.significand scaled where
  low := by linarith [near.low]
  high := by linarith [near.high]
  even := by
    intro ends
    apply near.closed
    rcases ends with same | same
    · exact .inl (by linarith)
    · exact .inr (by linarith)

/-- What is near a positive number is positive. -/
theorem Near.exact_pos (positive : 0 < value.significand)
    (near : value.Near (exact / 2 ^ value.exponent)) : 0 < exact := by
  have unit : (0 : ℚ) < 2 ^ value.exponent := zpow_pos two_pos _
  have one : (1 : ℚ) ≤ value.significand := Nat.one_le_cast.mpr positive
  have scaled := near.low
  rw [le_div_iff₀ unit] at scaled
  exact lt_of_lt_of_le (mul_pos (by linarith) unit) scaled

/-- A rational near a double is rounded in the place of the double, or in the place below it when
the double is a power of two. -/
theorem place_of_near (canonical : value.Canonical) (positive : 0 < value.significand)
    (near : value.Near (exact / 2 ^ value.exponent)) :
    placeOf exact = value.exponent ∨
      value.significand = Nat.pow 2 52 ∧ minExponent < value.exponent ∧
        placeOf exact = value.exponent - 1 := by
  have reaches := add_le_log_iff (near.exact_pos positive) value.exponent
  have bounded : (value.significand : ℚ) + 1 ≤ 2 ^ 53 := by exact_mod_cast canonical.bounded
  have most : ¬ value.exponent + (53 : Nat) ≤ Int.log 2 exact := by
    rw [reaches]
    linarith [near.high]
  have least := canonical.least
  by_cases short : value.significand < Nat.pow 2 52
  · have small : (value.significand : ℚ) + 1 ≤ 2 ^ 52 := by exact_mod_cast short
    have below : ¬ value.exponent + (52 : Nat) ≤ Int.log 2 exact := by
      rw [reaches]
      linarith [near.high]
    have same := canonical.normal short
    left
    rw [placeOf]
    omega
  · have long : (2 : ℚ) ^ 52 ≤ value.significand := by exact_mod_cast Nat.not_lt.mp short
    have above : value.exponent + (51 : Nat) ≤ Int.log 2 exact := by
      rw [reaches]
      linarith [near.low]
    by_cases inside : value.exponent + (52 : Nat) ≤ Int.log 2 exact
    · left
      rw [placeOf]
      omega
    · have isPower : value.significand = Nat.pow 2 52 := by
        rw [reaches, not_le] at inside
        have few : (value.significand : ℚ) < (2 ^ 52 : Nat) + 1 := by
          push_cast
          linarith [near.low]
        have atMost : value.significand < 2 ^ 52 + 1 := by exact_mod_cast few
        exact Nat.le_antisymm (Nat.le_of_lt_succ atMost) (Nat.not_lt.mp short)
      by_cases lowest : minExponent < value.exponent
      · right
        refine ⟨isPower, lowest, ?_⟩
        rw [placeOf]
        omega
      · left
        rw [placeOf]
        omega

/-- Just below a power of two the places are half as wide, and rounding carries into the power. -/
theorem isNearest_carried (positive : 0 < value.significand)
    (near : value.Near (exact / 2 ^ value.exponent)) (isPower : value.significand = Nat.pow 2 52)
    (lowest : minExponent < value.exponent) (below : placeOf exact = value.exponent - 1) :
    IsNearest (Nat.pow 2 53) (exact / 2 ^ (value.exponent - 1)) := by
  have finer : exact / 2 ^ (value.exponent - 1) = 2 * (exact / 2 ^ value.exponent) := by
    rw [zpow_sub_one₀ two_ne_zero, ← div_eq_mul_inv, div_div_eq_mul_div, mul_comm, mul_div_assoc]
  have inBinade : ¬ value.exponent + (52 : Nat) ≤ Int.log 2 exact := by
    rw [placeOf] at below
    omega
  rw [add_le_log_iff (near.exact_pos positive), not_le] at inBinade
  have atLeast := near.power isPower lowest
  have significand : (value.significand : ℚ) = 2 ^ 52 := by exact_mod_cast isPower
  have carried : ((Nat.pow 2 53 : Nat) : ℚ) = 2 ^ 53 := Nat.cast_pow 2 53
  rw [finer]
  refine ⟨?_, ?_, fun _ => rfl⟩
  · rw [carried]
    linarith
  · rw [carried]
    linarith

/-- **Rounding to a double.** A rational in the interval of a double is rounded to it. -/
theorem ofRatio_of_contains (negative : Bool) {num den : Nat} (denPos : 0 < den)
    (canonical : value.Canonical) (positive : 0 < value.significand)
    (contained : value.rounding.Contains ((num : ℚ) / den)) :
    ofRatio negative num den = some { value with negative } := by
  have near := near_of_contains positive contained
  have numPos : 0 < num := by
    rcases Nat.eq_zero_or_pos num with rfl | numPos
    · have nothing := near.exact_pos positive
      rw [Nat.cast_zero, zero_div] at nothing
      exact (lt_irrefl _ nothing).elim
    · exact numPos
  have finite : ¬ maxExponent < value.exponent := Int.not_lt.mpr canonical.most
  rw [ofRatio_eq negative numPos denPos]
  rcases place_of_near canonical positive near with same | ⟨isPower, lowest, below⟩
  · have rounded := isNearest_significandAt num denPos value.exponent
    rw [same, rounded.unique near.isNearest, assemble, if_neg canonical.bounded.ne, if_neg finite]
  · have rounded := isNearest_significandAt num denPos (value.exponent - 1)
    have carried := isNearest_carried positive near isPower lowest below
    rw [below, rounded.unique carried, assemble, if_pos rfl, sub_add_cancel, if_neg finite, isPower]

/-! ## What rounding gives -/

/-- Zero is canonical. -/
theorem canonical_zero (negative : Bool) : (zero negative).Canonical where
  bounded := (by decide : 0 < Nat.pow 2 53)
  least := le_rfl
  most := (by decide : minExponent ≤ maxExponent)
  normal := fun _ => rfl

/-- A significand has at most one bit too many, and then it is a power of two. -/
theorem significandAt_le {num den : Nat} (numPos : 0 < num) (denPos : 0 < den) :
    significandAt num den (placeOf ((num : ℚ) / den)) ≤ 2 ^ 53 := by
  have ratioPos : (0 : ℚ) < num / den := by positivity
  have rounded := isNearest_significandAt num denPos (placeOf ((num : ℚ) / den))
  have within : ¬ placeOf ((num : ℚ) / den) + (53 : Nat) ≤ Int.log 2 ((num : ℚ) / den) := by
    rw [placeOf]
    omega
  rw [add_le_log_iff ratioPos, not_le] at within
  have bound : (significandAt num den (placeOf ((num : ℚ) / den)) : ℚ) < (2 ^ 53 : Nat) + 1 := by
    push_cast
    linarith [rounded.low]
  exact Nat.le_of_lt_succ (by exact_mod_cast bound)

/-- Above the least place a significand has all its bits. -/
theorem le_significandAt {num den : Nat} (numPos : 0 < num) (denPos : 0 < den)
    (above : minExponent < placeOf ((num : ℚ) / den)) :
    2 ^ 52 ≤ significandAt num den (placeOf ((num : ℚ) / den)) := by
  have ratioPos : (0 : ℚ) < num / den := by positivity
  have rounded := isNearest_significandAt num denPos (placeOf ((num : ℚ) / den))
  have within : placeOf ((num : ℚ) / den) + (52 : Nat) ≤ Int.log 2 ((num : ℚ) / den) := by
    rw [placeOf] at above ⊢
    omega
  rw [add_le_log_iff ratioPos] at within
  have bound : ((2 ^ 52 : Nat) : ℚ) < significandAt num den (placeOf ((num : ℚ) / den)) + 1 := by
    push_cast
    linarith [rounded.high]
  exact Nat.le_of_lt_succ (by exact_mod_cast bound)

/-- So is what is assembled from a significand that fits its exponent. -/
theorem canonical_assemble {negative : Bool} {significand : Nat} {exponent : Int}
    (few : significand ≤ Nat.pow 2 53) (least : minExponent ≤ exponent)
    (many : minExponent < exponent → Nat.pow 2 52 ≤ significand)
    (given : assemble negative significand exponent = some value) : value.Canonical := by
  unfold assemble at given
  split_ifs at given with carried overflow overflow
  · cases given
    exact ⟨(by decide : Nat.pow 2 52 < Nat.pow 2 53), Int.le_add_one least, Int.not_lt.mp overflow,
      fun short => (lt_irrefl _ short).elim⟩
  · cases given
    exact ⟨lt_of_le_of_ne few carried, least, Int.not_lt.mp overflow, fun short => by
      by_contra above
      exact absurd (many (lt_of_le_of_ne least (Ne.symm above))) (Nat.not_le.mpr short)⟩

/-- **What rounding gives** is in canonical form. -/
theorem canonical_ofRatio {negative : Bool} {num den : Nat}
    (given : ofRatio negative num den = some value) : value.Canonical := by
  by_cases nothing : num = 0 ∨ den = 0
  · rw [ofRatio, if_pos nothing] at given
    cases given
    exact canonical_zero negative
  · obtain ⟨numPos, denPos⟩ : 0 < num ∧ 0 < den := by omega
    rw [ofRatio_eq negative numPos denPos] at given
    exact canonical_assemble (significandAt_le numPos denPos) (le_max_right _ _)
      (le_significandAt numPos denPos) given

/-! ## Decimals -/

variable {decimal : Decimal}

/-- Every number read from a decimal is canonical. -/
theorem canonical_ofDecimal {negative : Bool} {digits : Nat} {scale : Int}
    (given : ofDecimal negative digits scale = some value) : value.Canonical := by
  unfold ofDecimal at given
  dsimp only at given
  split_ifs at given
  · cases given
    exact canonical_zero negative
  · cases given
    exact canonical_zero negative
  · exact canonical_ofRatio given
  · exact canonical_ofRatio given

/-- A decimal is at least the power of ten that is sure to be in its digits. -/
theorem zpow_le_value (positive : 0 < decimal.digits) :
    (10 : ℚ) ^ ((decimal.digits.log2 / 10 * 3 : Nat) + decimal.scale) ≤ decimal.value := by
  obtain ⟨digits, scale⟩ := decimal
  have power : (0 : ℚ) < 10 ^ scale := zpow_pos (by norm_num) _
  have least : 10 ^ (digits.log2 / 10 * 3) ≤ digits :=
    calc 10 ^ (digits.log2 / 10 * 3) = (10 ^ 3) ^ (digits.log2 / 10) := by rw [mul_comm, pow_mul]
      _ ≤ (2 ^ 10) ^ (digits.log2 / 10) := Nat.pow_le_pow_left (by decide) _
      _ = 2 ^ (10 * (digits.log2 / 10)) := (pow_mul 2 10 _).symm
      _ ≤ 2 ^ digits.log2 := Nat.pow_le_pow_right two_pos (Nat.mul_div_le _ _)
      _ ≤ digits := Nat.log2_self_le positive.ne'
  rw [zpow_add₀ (by norm_num), zpow_natCast, Decimal.value, mul_le_mul_iff_left₀ power]
  exact_mod_cast least

/-- A decimal is below the power of ten that its length tells. -/
theorem value_lt_zpow (decimal : Decimal) :
    decimal.value < (10 : ℚ) ^ ((decimal.digits.log2 / 3 + 1 : Nat) + decimal.scale) := by
  obtain ⟨digits, scale⟩ := decimal
  have power : (0 : ℚ) < 10 ^ scale := zpow_pos (by norm_num) _
  have most : digits < 10 ^ (digits.log2 / 3 + 1) :=
    calc digits < 2 ^ (digits.log2 + 1) := Nat.lt_log2_self
      _ ≤ 2 ^ (3 * (digits.log2 / 3 + 1)) := Nat.pow_le_pow_right two_pos (by omega)
      _ = (2 ^ 3) ^ (digits.log2 / 3 + 1) := pow_mul 2 3 _
      _ ≤ 10 ^ (digits.log2 / 3 + 1) := Nat.pow_le_pow_left (by decide) _
  rw [zpow_add₀ (by norm_num), zpow_natCast, Decimal.value, mul_lt_mul_iff_left₀ power]
  exact_mod_cast most

/-- Four hundred and one decimal places are finer than half of the least positive double. -/
theorem two_pow_lt_ten_pow : (2 : ℚ) ^ (1075 : Int) < 10 ^ (401 : Int) := by
  have less : 2 ^ 1075 < 10 ^ 401 := by decide +kernel
  exact_mod_cast less

/-- The finite doubles, and what rounds to them, end below this power of ten. -/
theorem Near.lt_pow_ten (canonical : value.Canonical)
    (near : value.Near (exact / 2 ^ value.exponent)) : exact < (10 : ℚ) ^ (401 : Int) := by
  have unit : (0 : ℚ) < 2 ^ value.exponent := zpow_pos two_pos _
  have bounded : (value.significand : ℚ) + 1 ≤ 2 ^ 53 := by exact_mod_cast canonical.bounded
  have high := near.high
  rw [div_le_iff₀ unit] at high
  have most : (2 : ℚ) ^ value.exponent ≤ 2 ^ (971 : Int) :=
    zpow_le_zpow_right₀ one_le_two canonical.most
  calc exact ≤ (value.significand + 1 / 2) * 2 ^ value.exponent := high
    _ ≤ 2 ^ (53 : Int) * 2 ^ (971 : Int) := by
      gcongr
      rw [show (53 : Int) = (53 : Nat) from rfl, zpow_natCast]
      linarith
    _ = 2 ^ (1024 : Int) := (zpow_add₀ two_ne_zero _ _).symm
    _ ≤ 2 ^ (1075 : Int) := zpow_le_zpow_right₀ one_le_two (by decide)
    _ < 10 ^ (401 : Int) := two_pow_lt_ten_pow

/-- What rounds to a double other than zero is above this power of ten. -/
theorem Near.pow_ten_lt (canonical : value.Canonical) (positive : 0 < value.significand)
    (near : value.Near (exact / 2 ^ value.exponent)) : (10 : ℚ) ^ (-401 : Int) < exact := by
  have unit : (0 : ℚ) < 2 ^ value.exponent := zpow_pos two_pos _
  have one : (1 : ℚ) ≤ value.significand := Nat.one_le_cast.mpr positive
  have low := near.low
  rw [le_div_iff₀ unit] at low
  have least : (2 : ℚ) ^ (-1074 : Int) ≤ 2 ^ value.exponent :=
    zpow_le_zpow_right₀ one_le_two canonical.least
  calc (10 : ℚ) ^ (-401 : Int) = (10 ^ (401 : Int))⁻¹ := zpow_neg _ _
    _ < (2 ^ (1075 : Int))⁻¹ := inv_strictAnti₀ (zpow_pos two_pos _) two_pow_lt_ten_pow
    _ = 2 ^ (-1 : Int) * 2 ^ (-1074 : Int) := by
      rw [← zpow_neg, ← zpow_add₀ two_ne_zero]
      rfl
    _ ≤ (value.significand - 1 / 2) * 2 ^ value.exponent := by
      apply mul_le_mul _ least (zpow_pos two_pos _).le (by linarith)
      rw [zpow_neg_one]
      linarith
    _ ≤ exact := low

/-- **Decimals are read as doubles.** A decimal in the interval of a double is read as the
double. -/
theorem ofDecimal_of_contains (negative : Bool) (canonical : value.Canonical)
    (positive : 0 < value.significand) (contained : value.rounding.Contains decimal.value) :
    ofDecimal negative decimal.digits decimal.scale = some { value with negative } := by
  have near := near_of_contains positive contained
  have power : (0 : ℚ) < 10 ^ decimal.scale := zpow_pos (by norm_num) _
  have digitsPos : 0 < decimal.digits := by
    have exactPos := near.exact_pos positive
    rw [Decimal.value, mul_pos_iff_of_pos_right power] at exactPos
    exact_mod_cast exactPos
  have notHuge : ¬ 400 < ((decimal.digits.log2 / 10 * 3 : Nat) : Int) + decimal.scale := by
    intro huge
    have reached := zpow_le_value digitsPos
    have beyond := zpow_le_zpow_right₀ (by norm_num : (1 : ℚ) ≤ 10) (Int.add_one_le_of_lt huge)
    exact (near.lt_pow_ten canonical).not_ge (beyond.trans reached)
  have notTiny : ¬ ((decimal.digits.log2 / 3 + 1 : Nat) : Int) + decimal.scale < -400 := by
    intro tiny
    have missed := value_lt_zpow decimal
    have below := zpow_le_zpow_right₀ (by norm_num : (1 : ℚ) ≤ 10) (Int.le_sub_one_of_lt tiny)
    exact (near.pow_ten_lt canonical positive).not_gt (missed.trans_le below)
  unfold ofDecimal
  dsimp only
  rw [if_neg digitsPos.ne', if_neg notHuge, if_neg notTiny]
  have ten : (10 : ℚ) = (10 : Nat) := rfl
  split_ifs with nonneg
  · apply ofRatio_of_contains negative one_pos canonical positive
    rw [Decimal.value, ten, zpow_of_nonneg 10 nonneg] at contained
    rw [Nat.cast_one, div_one, Nat.cast_mul]
    exact contained
  · apply ofRatio_of_contains negative (Nat.pow_pos (by decide)) canonical positive
    rw [Decimal.value, ten, zpow_of_neg 10 nonneg, ← div_eq_mul_inv] at contained
    exact contained

end Binary64

end ActionGateway
