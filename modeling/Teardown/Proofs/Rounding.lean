import Mathlib.Algebra.Order.Field.Power
import Mathlib.Data.Rat.Floor
import Mathlib.Tactic.FieldSimp
import Mathlib.Tactic.Linarith
import Mathlib.Tactic.Positivity
import Teardown.Number.Rounding

/-!
# Rounding to 53 bits

A positive number lies between two neighbouring powers of two, and is rounded to a multiple of the
power 53 places below the upper one: to the nearest one, and to the even one of two equally near.
Rounding keeps the order, leaves whole numbers of at most 53 bits alone and is off by at most half
a place. Quotients of natural numbers are rounded so.
-/

namespace Teardown.Number

set_option autoImplicit false

/-- No whole number is nearer to the point, and of two equally near ones this is the even one. -/
structure IsNearest (point : ℚ) (whole : ℤ) : Prop where
  near : |(whole : ℚ) - point| ≤ 1 / 2
  even : |(whole : ℚ) - point| = 1 / 2 → Even whole

namespace IsNearest

variable {point other : ℚ} {whole next : ℤ}

theorem lower (nearest : IsNearest point whole) : (whole : ℚ) - 1 / 2 ≤ point := by
  have bounds := abs_le.mp nearest.near
  linarith

theorem upper (nearest : IsNearest point whole) : point ≤ (whole : ℚ) + 1 / 2 := by
  have bounds := abs_le.mp nearest.near
  linarith

/-- Two points with different nearest numbers, the wrong way round, would have to be one point
halfway between two even numbers. -/
theorem mono (ordered : point ≤ other) (nearest : IsNearest point whole)
    (nextNearest : IsNearest other next) : whole ≤ next := by
  by_contra apart
  have step : next + 1 ≤ whole := by omega
  have stepped : (next : ℚ) + 1 ≤ whole := by exact_mod_cast step
  have low := nearest.lower
  have high := nextNearest.upper
  have wholeEven : Even whole := by
    apply nearest.even
    rw [abs_of_nonneg (by linarith)]
    linarith
  have nextEven : Even next := by
    apply nextNearest.even
    rw [abs_of_nonpos (by linarith)]
    linarith
  have adjacent : (whole : ℚ) ≤ next + 1 := by linarith
  have below : whole ≤ next + 1 := by exact_mod_cast adjacent
  obtain ⟨half, doubled⟩ := wholeEven
  obtain ⟨other, redoubled⟩ := nextEven
  omega

theorem of_lt (strict : |(whole : ℚ) - point| < 1 / 2) : IsNearest point whole where
  near := strict.le
  even := fun tied => absurd tied strict.ne

theorem of_tie (tied : |(whole : ℚ) - point| = 1 / 2) (even : Even whole) :
    IsNearest point whole where
  near := tied.le
  even := fun _ => even

theorem self (whole : ℤ) : IsNearest whole whole := of_lt (by norm_num)

theorem eq_of_whole (nearest : IsNearest (next : ℚ) whole) : whole = next :=
  Int.le_antisymm (nearest.mono le_rfl (self next)) ((self next).mono le_rfl nearest)

end IsNearest

variable {numerator denominator : Nat}

theorem quotient_add_rest (numerator : Nat) (positive : 0 < denominator) :
    (numerator : ℚ) / denominator =
      (numerator / denominator : ℕ) + (numerator % denominator : ℕ) / (denominator : ℚ) := by
  have whole : (denominator : ℚ) * (numerator / denominator : ℕ) + (numerator % denominator : ℕ) =
      numerator := by
    exact_mod_cast Nat.div_add_mod numerator denominator
  have nonzero : (denominator : ℚ) ≠ 0 := by positivity
  field_simp
  linarith

theorem nearest_even_is_nearest (numerator : Nat) (positive : 0 < denominator) :
    IsNearest ((numerator : ℚ) / denominator) (nearestEven numerator denominator : ℕ) := by
  have bottom : (0 : ℚ) < denominator := by exact_mod_cast positive
  have short : ((numerator % denominator : ℕ) : ℚ) < denominator := by
    exact_mod_cast Nat.mod_lt numerator positive
  rw [quotient_add_rest numerator positive, nearestEven]
  generalize numerator / denominator = quotient
  generalize numerator % denominator = rest at short ⊢
  have part : 0 ≤ (rest : ℚ) / denominator := by positivity
  have one : (rest : ℚ) / denominator < 1 := (div_lt_one bottom).mpr short
  -- Twice the rest against the denominator tells which whole number is nearer.
  rcases Nat.lt_trichotomy (2 * rest) denominator with below | half | above
  · have less : (rest : ℚ) / denominator < 1 / 2 := by
      rw [div_lt_div_iff₀ bottom two_pos]
      exact_mod_cast (by omega : rest * 2 < 1 * denominator)
    simp only [if_pos below]
    apply IsNearest.of_lt
    rw [abs_lt]
    push_cast
    constructor <;> linarith
  · have same : (rest : ℚ) / denominator = 1 / 2 := by
      rw [div_eq_div_iff bottom.ne' two_ne_zero]
      exact_mod_cast (by omega : rest * 2 = 1 * denominator)
    simp only [if_neg (show ¬ 2 * rest < denominator by omega),
      if_neg (show ¬ denominator < 2 * rest by omega), same]
    apply IsNearest.of_tie
    · rcases Nat.mod_two_eq_zero_or_one quotient with even | odd
      · rw [even, abs_of_nonpos] <;> push_cast <;> linarith
      · rw [odd, abs_of_nonneg] <;> push_cast <;> linarith
    · rw [Int.even_iff]
      omega
  · have more : 1 / 2 < (rest : ℚ) / denominator := by
      rw [div_lt_div_iff₀ two_pos bottom]
      exact_mod_cast (by omega : 1 * denominator < rest * 2)
    simp only [if_neg (show ¬ 2 * rest < denominator by omega), if_pos above]
    apply IsNearest.of_lt
    rw [abs_lt]
    push_cast
    constructor <;> linarith

/-- The multiples of the power are 53 bits long between the two powers that the number lies between,
and the rounded number is the nearest of them. -/
def IsRounded (exact rounded : ℚ) : Prop :=
  ∃ power significand : ℤ, 2 ^ (power + 52) ≤ exact ∧ exact < 2 ^ (power + 53) ∧
    IsNearest (exact / 2 ^ power) significand ∧ rounded = significand * 2 ^ power

theorem power_split (power : ℤ) (places : ℕ) :
    (2 : ℚ) ^ (power + places) = 2 ^ places * 2 ^ power := by
  rw [zpow_add₀ two_ne_zero, zpow_natCast, mul_comm]

/-- The powers of two on both sides of a number bound its rounding too. -/
theorem nearest_between {exact : ℚ} {power significand : ℤ} (low : 2 ^ (power + 52) ≤ exact)
    (high : exact < 2 ^ (power + 53)) (nearest : IsNearest (exact / 2 ^ power) significand) :
    (2 : ℚ) ^ (power + 52) ≤ significand * 2 ^ power ∧
      significand * 2 ^ power ≤ (2 : ℚ) ^ (power + 53) := by
  have unit : (0 : ℚ) < 2 ^ power := by positivity
  have foot := power_split power 52
  have head := power_split power 53
  push_cast at foot head
  rw [foot] at low ⊢
  rw [head] at high ⊢
  have least : (2 : ℤ) ^ 52 ≤ significand :=
    (IsNearest.self (2 ^ 52)).mono (by push_cast; exact (le_div_iff₀ unit).mpr low) nearest
  have most : significand ≤ (2 : ℤ) ^ 53 :=
    nearest.mono (by push_cast; exact (div_le_iff₀ unit).mpr high.le) (IsNearest.self (2 ^ 53))
  have leastCast : (2 : ℚ) ^ 52 ≤ significand := by exact_mod_cast least
  have mostCast : (significand : ℚ) ≤ 2 ^ 53 := by exact_mod_cast most
  constructor <;> gcongr

namespace IsRounded

variable {exact other rounded next : ℚ}

/-- Numbers between the same powers of two are rounded on one grid; between others a power of two
keeps their roundings apart. -/
theorem mono (ordered : exact ≤ other) (first : IsRounded exact rounded)
    (second : IsRounded other next) : rounded ≤ next := by
  obtain ⟨power, significand, low, high, nearest, rfl⟩ := first
  obtain ⟨nextPower, nextSignificand, nextLow, nextHigh, nextNearest, rfl⟩ := second
  rcases lt_trichotomy power nextPower with below | rfl | above
  · calc
      significand * (2 : ℚ) ^ power ≤ 2 ^ (power + 53) := (nearest_between low high nearest).2
      _ ≤ 2 ^ (nextPower + 52) := zpow_le_zpow_right₀ one_le_two (by omega)
      _ ≤ nextSignificand * 2 ^ nextPower := (nearest_between nextLow nextHigh nextNearest).1
  · have significands : significand ≤ nextSignificand := nearest.mono (by gcongr) nextNearest
    have cast : (significand : ℚ) ≤ nextSignificand := by exact_mod_cast significands
    gcongr
  · have apart : (2 : ℚ) ^ (nextPower + 53) ≤ 2 ^ (power + 52) :=
      zpow_le_zpow_right₀ one_le_two (by omega)
    exact absurd (nextHigh.trans_le (apart.trans low)) (not_lt.mpr ordered)

/-- Whole numbers of at most 53 bits are not rounded. -/
theorem eq_of_whole {whole : ℕ} (isRounded : IsRounded whole rounded) (short : whole < 2 ^ 53) :
    rounded = whole := by
  obtain ⟨power, significand, low, high, nearest, rfl⟩ := isRounded
  have bounded : (2 : ℚ) ^ (power + 52) < 2 ^ (53 : ℤ) :=
    low.trans_lt (by exact_mod_cast short)
  have downward := (zpow_lt_zpow_iff_right₀ one_lt_two).mp bounded
  obtain ⟨places, rfl⟩ : ∃ places : ℕ, power = -(places : ℤ) := ⟨(-power).toNat, by omega⟩
  have grid : (whole : ℚ) / 2 ^ (-(places : ℤ)) = ((whole * 2 ^ places : ℕ) : ℤ) := by
    rw [zpow_neg, zpow_natCast, div_inv_eq_mul]
    push_cast
    rfl
  rw [grid] at nearest
  rw [nearest.eq_of_whole, zpow_neg, zpow_natCast]
  push_cast
  exact mul_inv_cancel_right₀ (by positivity) _

/-- Rounding is off by at most half the distance of the grid, and the grid of a number below a power
of two is 53 places below that power or finer. -/
theorem error_le {bits : ℤ} (isRounded : IsRounded exact rounded) (below : exact < 2 ^ bits) :
    |rounded - exact| ≤ 2 ^ (bits - 54) := by
  obtain ⟨power, significand, low, high, nearest, rfl⟩ := isRounded
  have unit : (0 : ℚ) < 2 ^ power := by positivity
  have placed : power + 52 < bits := (zpow_lt_zpow_iff_right₀ one_lt_two).mp (low.trans_lt below)
  have scaled : significand * 2 ^ power - exact = (significand - exact / 2 ^ power) * 2 ^ power := by
    rw [sub_mul, div_mul_cancel₀ _ unit.ne']
  calc
    |significand * 2 ^ power - exact| = |significand - exact / 2 ^ power| * 2 ^ power := by
      rw [scaled, abs_mul, abs_of_pos unit]
    _ ≤ 1 / 2 * 2 ^ power := mul_le_mul_of_nonneg_right nearest.near unit.le
    _ = 2 ^ (power - 1) := by
      rw [zpow_sub_one₀ two_ne_zero]
      ring
    _ ≤ 2 ^ (bits - 54) := zpow_le_zpow_right₀ one_le_two (by omega)

end IsRounded

/-- Zero is left alone, and a negative number is rounded as its opposite is. -/
def IsRoundedEitherSide (exact rounded : ℚ) : Prop :=
  exact = 0 ∧ rounded = 0 ∨ IsRounded exact rounded ∨ IsRounded (-exact) (-rounded)

theorem IsRoundedEitherSide.error_le {exact rounded : ℚ} {bits : ℤ}
    (isRounded : IsRoundedEitherSide exact rounded) (below : |exact| < 2 ^ bits) :
    |rounded - exact| ≤ 2 ^ (bits - 54) := by
  obtain ⟨low, high⟩ := abs_lt.mp below
  rcases isRounded with ⟨rfl, rfl⟩ | positive | negative
  · rw [sub_zero, abs_zero]
    positivity
  · exact positive.error_le high
  · have error := negative.error_le (by linarith : -exact < 2 ^ bits)
    rwa [← neg_sub', abs_neg] at error

theorem shifted_pos (numerator : Nat) (shift : Int) (positive : 0 < denominator) :
    0 < (shifted numerator denominator shift).2 := by
  unfold shifted
  split
  · exact positive
  · exact Nat.mul_pos positive (Nat.pow_pos (by decide))

theorem shifted_ratio (numerator denominator : Nat) (shift : Int) :
    ((shifted numerator denominator shift).1 : ℚ) / (shifted numerator denominator shift).2 =
      numerator / denominator * 2 ^ shift := by
  unfold shifted
  split
  · next upward =>
      have power : (2 : ℚ) ^ shift = 2 ^ shift.toNat := by
        rw [← zpow_natCast, Int.toNat_of_nonneg upward]
      rw [power]
      push_cast [Nat.pow_eq]
      ring
  · next downward =>
      have power : (2 : ℚ) ^ shift = (2 ^ (-shift).toNat)⁻¹ := by
        rw [← zpow_natCast, Int.toNat_of_nonneg (by omega), ← zpow_neg, neg_neg]
      rw [power]
      push_cast [Nat.pow_eq]
      rw [div_mul_eq_div_div, div_eq_mul_inv (_ / _)]

theorem shifted_lt_iff (numerator : Nat) (power : Int) (positive : 0 < denominator) :
    (shifted numerator denominator (-power)).1 < (shifted numerator denominator (-power)).2 ↔
      (numerator : ℚ) / denominator < 2 ^ power := by
  have ratio := shifted_ratio numerator denominator (-power)
  have bottom : (0 : ℚ) < ((shifted numerator denominator (-power)).2 : ℕ) := by
    exact_mod_cast shifted_pos numerator (-power) positive
  rw [← Nat.cast_lt (α := ℚ), ← div_lt_one bottom, ratio, zpow_neg,
    mul_inv_lt_iff₀ (by positivity), one_mul]

theorem log2_bounds {number : Nat} (positive : 0 < number) :
    (2 : ℚ) ^ (number.log2 : ℤ) ≤ number ∧ (number : ℚ) < 2 ^ ((number.log2 : ℤ) + 1) := by
  constructor
  · rw [zpow_natCast]
    exact_mod_cast Nat.log2_self_le positive.ne'
  · have above := @Nat.lt_log2_self number
    exact_mod_cast above

/-- The difference of the logarithms of two numbers is that of their quotient, or one above it. -/
theorem quotient_between_powers (top : 0 < numerator) (bottom : 0 < denominator) :
    let guess : ℤ := (numerator.log2 : ℤ) - (denominator.log2 : ℤ)
    (2 : ℚ) ^ (guess - 1) < numerator / denominator ∧
      (numerator : ℚ) / denominator < 2 ^ (guess + 1) := by
  obtain ⟨topLow, topHigh⟩ := log2_bounds top
  obtain ⟨bottomLow, bottomHigh⟩ := log2_bounds bottom
  generalize (numerator.log2 : ℤ) = topLog at topLow topHigh ⊢
  generalize (denominator.log2 : ℤ) = bottomLog at bottomLow bottomHigh ⊢
  have positive : (0 : ℚ) < denominator := by exact_mod_cast bottom
  constructor
  · rw [lt_div_iff₀ positive]
    calc
      (2 : ℚ) ^ (topLog - bottomLog - 1) * denominator
          < 2 ^ (topLog - bottomLog - 1) * 2 ^ (bottomLog + 1) := by gcongr
      _ = 2 ^ topLog := by
        rw [← zpow_add₀ two_ne_zero]
        congr 1
        omega
      _ ≤ numerator := topLow
  · rw [div_lt_iff₀ positive]
    calc
      (numerator : ℚ) < 2 ^ (topLog + 1) := topHigh
      _ = 2 ^ (topLog - bottomLog + 1) * 2 ^ bottomLog := by
        rw [← zpow_add₀ two_ne_zero]
        congr 1
        omega
      _ ≤ 2 ^ (topLog - bottomLog + 1) * denominator := by gcongr

theorem floor_log2_bounds (top : 0 < numerator) (bottom : 0 < denominator) :
    (2 : ℚ) ^ floorLog2 numerator denominator ≤ numerator / denominator ∧
      (numerator : ℚ) / denominator < 2 ^ (floorLog2 numerator denominator + 1) := by
  obtain ⟨low, high⟩ := quotient_between_powers top bottom
  have smaller := shifted_lt_iff numerator
    ((numerator.log2 : ℤ) - (denominator.log2 : ℤ)) bottom
  unfold floorLog2
  generalize (numerator.log2 : ℤ) - (denominator.log2 : ℤ) = guess at low high smaller ⊢
  simp only
  -- the guess from the lengths in bits is either right or one too large
  by_cases tooLarge : (numerator : ℚ) / denominator < 2 ^ guess
  · rw [if_pos (smaller.mpr tooLarge), Int.sub_add_cancel]
    exact ⟨low.le, tooLarge⟩
  · rw [if_neg (mt smaller.mp tooLarge)]
    exact ⟨not_lt.mp tooLarge, high⟩

theorem ceil_of_quotient (numerator : Nat) (positive : 0 < denominator) :
    ⌈(numerator : ℚ) / denominator⌉ = ((numerator + denominator - 1) / denominator : ℕ) := by
  have split := Nat.div_add_mod (numerator + denominator - 1) denominator
  have short := Nat.mod_lt (numerator + denominator - 1) positive
  generalize (numerator + denominator - 1) / denominator = whole at split ⊢
  have bottom : (0 : ℚ) < denominator := by exact_mod_cast positive
  rw [Int.ceil_eq_iff, lt_div_iff₀ bottom, div_le_iff₀ bottom, Int.cast_natCast]
  constructor
  · have under : denominator * whole < numerator + denominator := by omega
    have cast : (denominator : ℚ) * whole < numerator + denominator := by exact_mod_cast under
    linarith
  · have within : numerator ≤ denominator * whole := by omega
    have cast : (numerator : ℚ) ≤ denominator * whole := by exact_mod_cast within
    linarith

namespace Scaled

def value (number : Scaled) : ℚ := number.significand * 2 ^ number.exponent

theorem value_nonneg (number : Scaled) : 0 ≤ number.value := by
  unfold value
  positivity

theorem floor_div_eq_floor (number : Scaled) (divisor : Nat) :
    (number.floorDiv divisor : ℤ) = ⌊number.value / divisor⌋ := by
  have ratio := shifted_ratio number.significand divisor number.exponent
  rw [value, mul_div_right_comm, ← ratio]
  exact (Rat.floor_natCast_div_natCast _ _).symm

theorem ceil_div_eq_ceil (number : Scaled) {divisor : Nat} (positive : 0 < divisor) :
    (number.ceilDiv divisor : ℤ) = ⌈number.value / divisor⌉ := by
  have ratio := shifted_ratio number.significand divisor number.exponent
  rw [value, mul_div_right_comm, ← ratio]
  exact (ceil_of_quotient _ (shifted_pos _ _ positive)).symm

end Scaled

theorem round_quotient_nearest (numerator : Nat) (bottom : 0 < denominator) :
    IsNearest ((numerator : ℚ) / denominator / 2 ^ (roundQuotient numerator denominator).exponent)
      (roundQuotient numerator denominator).significand := by
  rw [div_eq_mul_inv, ← zpow_neg, ← shifted_ratio]
  exact nearest_even_is_nearest _ (shifted_pos _ _ bottom)

theorem round_quotient_is_rounded (top : 0 < numerator) (bottom : 0 < denominator) :
    IsRounded ((numerator : ℚ) / denominator) (roundQuotient numerator denominator).value := by
  obtain ⟨low, high⟩ := floor_log2_bounds top bottom
  have exponent : (roundQuotient numerator denominator).exponent =
      floorLog2 numerator denominator - 52 := rfl
  refine ⟨(roundQuotient numerator denominator).exponent,
    (roundQuotient numerator denominator).significand, ?_, ?_,
    round_quotient_nearest numerator bottom, by rw [Scaled.value]; push_cast; rfl⟩
  · rwa [exponent, Int.sub_add_cancel]
  · rwa [exponent, show floorLog2 numerator denominator - 52 + 53 =
      floorLog2 numerator denominator + 1 by omega]

theorem round_quotient_zero (bottom : 0 < denominator) :
    (roundQuotient 0 denominator).value = 0 := by
  have nearest := round_quotient_nearest 0 bottom
  rw [Nat.cast_zero, zero_div, zero_div] at nearest
  have none : ((roundQuotient 0 denominator).significand : ℤ) = 0 :=
    IsNearest.eq_of_whole (by exact_mod_cast nearest)
  rw [Scaled.value, Int.natCast_eq_zero.mp none, Nat.cast_zero, zero_mul]

theorem round_quotient_mono {other : Nat} (bottom : 0 < denominator)
    (ordered : numerator ≤ other) :
    (roundQuotient numerator denominator).value ≤ (roundQuotient other denominator).value := by
  rcases Nat.eq_zero_or_pos numerator with rfl | top
  · rw [round_quotient_zero bottom]
    exact Scaled.value_nonneg _
  have cast : (numerator : ℚ) ≤ other := by exact_mod_cast ordered
  exact (round_quotient_is_rounded top bottom).mono (by gcongr)
    (round_quotient_is_rounded (top.trans_le ordered) bottom)

theorem round_quotient_whole {whole : Nat} (bottom : 0 < denominator) (short : whole < 2 ^ 53) :
    (roundQuotient (whole * denominator) denominator).value = whole := by
  rcases Nat.eq_zero_or_pos whole with rfl | positive
  · rw [Nat.zero_mul, round_quotient_zero bottom, Nat.cast_zero]
  have rounded := round_quotient_is_rounded (Nat.mul_pos positive bottom) bottom
  rw [Nat.cast_mul, mul_div_cancel_right₀ _ (by positivity)] at rounded
  exact rounded.eq_of_whole short

end Teardown.Number
