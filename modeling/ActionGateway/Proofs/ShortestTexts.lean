import ActionGateway.Proofs.RoundedDoubles

/-!
# The shortest text of a double

The digits that a double is written with lie in its interval, so its text is read as the double.
-/

namespace ActionGateway

namespace Binary64

/-! ## The decimal grid -/

variable {value : Binary64} {interval : Rounding} {scale : Int}

namespace Rounding

/-- What a quarter comes to on the grid. -/
theorem onGrid_spec (interval : Rounding) (scale : Int) :
    0 < (interval.onGrid scale).2 ∧
      ((interval.onGrid scale).1 : ℚ) / (interval.onGrid scale).2 * 10 ^ scale =
        2 ^ interval.exponent := by
  have ten : (10 : ℚ) = (10 : Nat) := rfl
  have power : (10 : ℚ) ^ scale ≠ 0 := zpow_ne_zero _ (by norm_num)
  have tens (places : Nat) : 0 < Nat.pow 10 places := Nat.pow_pos (by decide)
  obtain ⟨a, b, factors, bPos, quotient⟩ : ∃ a b : Nat,
      (if 0 ≤ interval.exponent then (Nat.pow 2 interval.exponent.toNat, 1)
        else (1, Nat.pow 2 (-interval.exponent).toNat)) = (a, b) ∧ 0 < b ∧
      (a : ℚ) / b = 2 ^ interval.exponent := by
    have two : (2 : ℚ) = (2 : Nat) := rfl
    split_ifs with nonneg
    · refine ⟨_, _, rfl, one_pos, ?_⟩
      rw [Nat.cast_one, div_one, two, zpow_of_nonneg 2 nonneg]
    · refine ⟨_, _, rfl, Nat.pow_pos two_pos, ?_⟩
      rw [Nat.cast_one, one_div, two, zpow_of_neg 2 nonneg]
  have b_ne : (b : ℚ) ≠ 0 := Nat.cast_ne_zero.mpr bPos.ne'
  rw [onGrid, factors, ← quotient]
  dsimp only
  split_ifs with nonneg
  · refine ⟨Nat.mul_pos bPos (tens _), ?_⟩
    rw [Nat.cast_mul, ten, ← zpow_of_nonneg 10 nonneg, ← div_div]
    exact div_mul_cancel₀ _ power
  · refine ⟨bPos, ?_⟩
    have tens_ne : ((Nat.pow 10 (-scale).toNat : Nat) : ℚ) ≠ 0 := Nat.cast_ne_zero.mpr (tens _).ne'
    rw [Nat.cast_mul, ten, zpow_of_neg 10 nonneg, div_mul_eq_mul_div, mul_assoc,
      mul_inv_cancel₀ tens_ne, mul_one]

/-- **A grid point of the interval** is a decimal in it. -/
theorem holds_iff (interval : Rounding) (scale : Int) (digits : Nat) :
    interval.holds scale digits = true ↔ interval.Contains (Decimal.value ⟨digits, scale⟩) := by
  obtain ⟨bPos, unit⟩ := onGrid_spec interval scale
  have b_pos : (0 : ℚ) < (interval.onGrid scale).2 := Nat.cast_pos.mpr bPos
  have power : (0 : ℚ) < 10 ^ scale := zpow_pos (by norm_num) _
  unfold holds Contains
  rw [← unit, Decimal.value]
  dsimp only
  generalize (interval.onGrid scale).1 = a at *
  generalize (interval.onGrid scale).2 = b at *
  have reached (bound : Nat) : bound * a ≤ digits * b ↔
      (bound : ℚ) * ((a : ℚ) / b * 10 ^ scale) ≤ digits * 10 ^ scale := by
    rw [← mul_assoc, mul_le_mul_iff_left₀ power, ← mul_div_assoc, div_le_iff₀ b_pos]
    exact_mod_cast Iff.rfl
  have kept (bound : Nat) : digits * b ≤ bound * a ↔
      (digits : ℚ) * 10 ^ scale ≤ bound * ((a : ℚ) / b * 10 ^ scale) := by
    rw [← mul_assoc, mul_le_mul_iff_left₀ power, ← mul_div_assoc, le_div_iff₀ b_pos]
    exact_mod_cast Iff.rfl
  split_ifs with closed
  · rw [Bool.and_eq_true, decide_eq_true_eq, decide_eq_true_eq, reached, kept]
  · rw [Bool.and_eq_true, decide_eq_true_eq, decide_eq_true_eq, ← not_le, ← not_le, kept, reached,
      not_le, not_le]

/-! ## Grids with a neighbour -/

/-- The digits next to a value, where there are any, lie in the interval. -/
theorem holds_of_neighbour? {digits : Nat} (found : interval.neighbour? scale = some digits) :
    interval.holds scale digits = true := by
  unfold neighbour? at found
  dsimp only at found
  split at found
  · next below above =>
      cases found
      exact below
  · next below above =>
      cases found
      exact above
  · cases found
  · next below above =>
      split_ifs at found <;> cases found <;> assumption

/-- A grid has a neighbour in the interval if the one below the value is in it. -/
theorem neighbour?_isSome (below : interval.holds scale
      (interval.value * (interval.onGrid scale).1 / (interval.onGrid scale).2) = true) :
    (interval.neighbour? scale).isSome = true := by
  unfold neighbour?
  dsimp only
  rw [below]
  split
  · rfl
  · next absurdity _ => cases absurdity
  · next absurdity _ => cases absurdity
  · split_ifs <;> rfl

/-- The first neighbour is in the interval if there is one on the last grid. -/
theorem contains_firstNeighbour {fuel : Nat}
    (found : (interval.neighbour? (scale - fuel)).isSome = true) :
    interval.Contains (firstNeighbour interval fuel scale).value := by
  induction fuel generalizing scale with
  | zero =>
      obtain ⟨digits, given⟩ := Option.isSome_iff_exists.mp found
      rw [Nat.cast_zero, sub_zero] at given
      rw [firstNeighbour, given, Option.getD_some, ← holds_iff]
      exact holds_of_neighbour? given
  | succ fuel ih =>
      rw [firstNeighbour]
      cases given : interval.neighbour? scale with
      | some digits =>
          dsimp only
          rw [← holds_iff]
          exact holds_of_neighbour? given
      | none =>
          apply ih
          rw [sub_sub, add_comm, ← Nat.cast_succ]
          exact found

end Rounding

/-! ## The decimal exponent of a double -/

/-- The magnitude of a double. -/
def magnitude (value : Binary64) : ℚ :=
  value.significand * 2 ^ value.exponent

/-- The ratio of a double is its magnitude. -/
theorem ratio_spec (value : Binary64) :
    0 < value.ratio.2 ∧ (value.ratio.1 : ℚ) / value.ratio.2 = value.magnitude := by
  have two : (2 : ℚ) = (2 : Nat) := rfl
  unfold ratio magnitude
  split_ifs with nonneg
  · refine ⟨one_pos, ?_⟩
    rw [Nat.cast_one, div_one, Nat.cast_mul, two, zpow_of_nonneg 2 nonneg]
  · refine ⟨Nat.pow_pos two_pos, ?_⟩
    rw [two, zpow_of_neg 2 nonneg, div_eq_mul_inv]

/-- Powers of ten and of two are compared by a fraction `q / p` close to the logarithm of two. -/
theorem zpow_ten_le_zpow_two {guess log : Int} {p q : Nat} (nonzero : p ≠ 0)
    (exponents : guess * p ≤ q * log) (powers : ((10 : ℚ) ^ q) ^ log ≤ ((2 : ℚ) ^ p) ^ log) :
    (10 : ℚ) ^ guess ≤ 2 ^ log := by
  apply le_of_pow_le_pow_left₀ nonzero (zpow_pos two_pos _).le
  calc ((10 : ℚ) ^ guess) ^ p = 10 ^ (guess * p) := by rw [zpow_mul, zpow_natCast]
    _ ≤ 10 ^ (q * log) := zpow_le_zpow_right₀ (by norm_num) exponents
    _ = ((10 : ℚ) ^ q) ^ log := by rw [zpow_mul, zpow_natCast]
    _ ≤ ((2 : ℚ) ^ p) ^ log := powers
    _ = (2 ^ log) ^ p := by rw [← zpow_natCast, ← zpow_natCast, ← zpow_mul, ← zpow_mul, mul_comm]

/-- One less than the guess of a decimal exponent is not too much. -/
theorem zpow_guess_le {log : Int} (least : -1074 ≤ log) (most : log ≤ 1023) :
    (10 : ℚ) ^ (Int.fdiv (log * 30103) 100000 - 1) ≤ 2 ^ log := by
  rw [Int.fdiv_eq_ediv_of_nonneg _ (by decide)]
  rcases Int.le_total 0 log with nonneg | negative
  · apply zpow_ten_le_zpow_two (p := 103) (q := 31) (by decide) (by omega)
    exact zpow_le_zpow_left₀ nonneg (by norm_num) (by norm_num)
  · apply zpow_ten_le_zpow_two (p := 93) (q := 28) (by decide) (by omega)
    obtain ⟨places, rfl⟩ : ∃ places : Nat, log = -places := ⟨log.natAbs, by omega⟩
    rw [zpow_neg, zpow_neg]
    apply inv_anti₀ (zpow_pos (by norm_num) _)
    exact zpow_le_zpow_left₀ (Int.natCast_nonneg places) (by norm_num) (by norm_num)

theorem zpow_log2_le (value : Binary64) (positive : 0 < value.significand) :
    (2 : ℚ) ^ ((value.significand.log2 : Int) + value.exponent) ≤ value.magnitude := by
  have leading : (2 : ℚ) ^ value.significand.log2 ≤ value.significand := by
    exact_mod_cast Nat.log2_self_le positive.ne'
  rw [zpow_add₀ two_ne_zero, zpow_natCast, magnitude, mul_le_mul_iff_left₀ (zpow_pos two_pos _)]
  exact leading

/-- The double is at least a power of ten. -/
def reaches (value : Binary64) (exponent : Int) : Bool :=
  if 0 ≤ exponent then decide (value.ratio.2 * Nat.pow 10 exponent.toNat ≤ value.ratio.1)
  else decide (value.ratio.2 ≤ value.ratio.1 * Nat.pow 10 (-exponent).toNat)

/-- A double reaches the powers of ten that are no greater than its magnitude. -/
theorem reaches_iff (value : Binary64) (exponent : Int) :
    value.reaches exponent = true ↔ (10 : ℚ) ^ exponent ≤ value.magnitude := by
  obtain ⟨denPos, quotient⟩ := value.ratio_spec
  rw [← quotient]
  refine Iff.trans ?_ (zpow_le_div_iff (by decide) value.ratio.1 denPos exponent).symm
  unfold reaches
  split_ifs <;> exact decide_eq_true_iff

/-- The guess of the decimal exponent. -/
def guess (value : Binary64) : Int :=
  Int.fdiv (((value.significand.log2 : Int) + value.exponent) * 30103) 100000

/-- The place of the first digit is the guess, or one beside it. -/
theorem floorLog10_eq (value : Binary64) :
    value.floorLog10 =
      if value.reaches (value.guess + 1) then value.guess + 1
      else if value.reaches value.guess then value.guess
      else value.guess - 1 :=
  rfl

/-- **The decimal exponent** does not exceed the double. -/
theorem zpow_floorLog10_le (canonical : value.Canonical) (positive : 0 < value.significand) :
    (10 : ℚ) ^ value.floorLog10 ≤ value.magnitude := by
  have few : value.significand.log2 < 53 := (Nat.log2_lt positive.ne').mpr canonical.bounded
  have least : -1074 ≤ value.exponent := canonical.least
  have most : value.exponent ≤ 971 := canonical.most
  rw [floorLog10_eq]
  split_ifs with above here
  · exact (value.reaches_iff _).mp above
  · exact (value.reaches_iff _).mp here
  · exact (zpow_guess_le (by omega) (by omega)).trans (zpow_log2_le value positive)

/-! ## Seventeen places -/

/-- Seventeen places below the first digit the grid is finer than a quarter of the last place. -/
theorem zpow_grid_lt (canonical : value.Canonical) (positive : 0 < value.significand) :
    (10 : ℚ) ^ (value.floorLog10 - (17 : Nat)) < 2 ^ value.rounding.exponent := by
  have unit : (0 : ℚ) < 2 ^ (value.exponent - 2) := zpow_pos two_pos _
  have bounded : (value.significand : ℚ) < 2 ^ 53 := by exact_mod_cast canonical.bounded
  have quarters : (2 : ℚ) ^ value.exponent = 4 * 2 ^ (value.exponent - 2) := by
    rw [zpow_sub₀ two_ne_zero]
    norm_num
    ring
  have first := zpow_floorLog10_le canonical positive
  rw [magnitude, quarters] at first
  rw [zpow_sub₀ (by norm_num), zpow_natCast, div_lt_iff₀ (by norm_num)]
  calc (10 : ℚ) ^ value.floorLog10 ≤ value.significand * (4 * 2 ^ (value.exponent - 2)) := first
    _ < 2 ^ 53 * (4 * 2 ^ (value.exponent - 2)) := by gcongr
    _ = 2 ^ 55 * 2 ^ (value.exponent - 2) := by ring
    _ ≤ 10 ^ 17 * 2 ^ (value.exponent - 2) := by gcongr; norm_num
    _ = 2 ^ value.rounding.exponent * 10 ^ 17 := mul_comm _ _

/-- The grid point below the value of an interval is less than one step away. -/
theorem Rounding.below_spec (interval : Rounding) (scale : Int) :
    let below := interval.value * (interval.onGrid scale).1 / (interval.onGrid scale).2
    Decimal.value ⟨below, scale⟩ ≤ interval.value * 2 ^ interval.exponent ∧
      interval.value * 2 ^ interval.exponent < Decimal.value ⟨below, scale⟩ + 10 ^ scale := by
  obtain ⟨bPos, unit⟩ := interval.onGrid_spec scale
  have b_pos : (0 : ℚ) < (interval.onGrid scale).2 := Nat.cast_pos.mpr bPos
  have power : (0 : ℚ) < 10 ^ scale := zpow_pos (by norm_num) _
  rw [← unit]
  unfold Decimal.value
  generalize (interval.onGrid scale).1 = a at *
  generalize (interval.onGrid scale).2 = b at *
  intro below
  have least : (below : ℚ) ≤ interval.value * (a / b) := by
    rw [← mul_div_assoc, le_div_iff₀ b_pos]
    exact_mod_cast Nat.div_mul_le_self (interval.value * a) b
  have most : (interval.value : ℚ) * (a / b) < below + 1 := by
    rw [← mul_div_assoc, div_lt_iff₀ b_pos, add_mul, one_mul]
    exact_mod_cast Nat.lt_div_mul_add bPos
  rw [← mul_assoc]
  constructor
  · exact mul_le_mul_of_nonneg_right least power.le
  · calc (interval.value : ℚ) * (a / b) * 10 ^ scale < (below + 1) * 10 ^ scale := by gcongr
      _ = below * 10 ^ scale + 10 ^ scale := by rw [add_mul, one_mul]

theorem holds_below (canonical : value.Canonical) (positive : 0 < value.significand) :
    value.rounding.holds (value.floorLog10 - (17 : Nat))
      (value.rounding.value * (value.rounding.onGrid (value.floorLog10 - (17 : Nat))).1 /
        (value.rounding.onGrid (value.floorLog10 - (17 : Nat))).2) = true := by
  have step := zpow_grid_lt canonical positive
  obtain ⟨atMost, near⟩ := value.rounding.below_spec (value.floorLog10 - (17 : Nat))
  have unit : (0 : ℚ) < 2 ^ value.rounding.exponent := zpow_pos two_pos _
  have low : (value.rounding.low : ℚ) + 1 ≤ value.rounding.value := by
    have apart : value.rounding.low + 1 ≤ value.rounding.value := by
      unfold rounding
      dsimp only
      split_ifs <;> omega
    exact_mod_cast apart
  have high : (value.rounding.value : ℚ) < value.rounding.high := by
    have apart : value.rounding.value < value.rounding.high := Nat.lt_add_of_pos_right two_pos
    exact_mod_cast apart
  rw [Rounding.holds_iff]
  generalize Decimal.value _ = below at *
  have above : (value.rounding.low : ℚ) * 2 ^ value.rounding.exponent < below := by nlinarith
  have under : below < (value.rounding.high : ℚ) * 2 ^ value.rounding.exponent := by nlinarith
  unfold Rounding.Contains
  split_ifs
  · exact ⟨above.le, under.le⟩
  · exact ⟨above, under⟩

/-! ## Shortest decimals -/

/-- Taking zeros off the end keeps the value. -/
theorem value_withoutTrailingZeros (fuel : Nat) (decimal : Decimal) :
    (decimal.withoutTrailingZeros fuel).value = decimal.value := by
  induction fuel generalizing decimal with
  | zero => rfl
  | succ fuel ih =>
      rw [Decimal.withoutTrailingZeros]
      split_ifs with zero
      · have whole : ((decimal.digits / 10 : Nat) : ℚ) * 10 = decimal.digits := by
          exact_mod_cast Nat.div_mul_cancel (Nat.dvd_of_mod_eq_zero zero.2)
        rw [ih, Decimal.value, Decimal.value, zpow_add_one₀ (by norm_num), mul_left_comm, ← whole]
        ring
      · rfl

/-- **The shortest decimal** lies in the interval of the double. -/
theorem contains_shortest (canonical : value.Canonical) (positive : 0 < value.significand) :
    value.rounding.Contains value.shortest.value := by
  rw [shortest, if_neg positive.ne', value_withoutTrailingZeros]
  exact Rounding.contains_firstNeighbour
    (Rounding.neighbour?_isSome (holds_below canonical positive))

end Binary64

end ActionGateway
