import Teardown.Duration
import Teardown.Proofs.Rounding

/-!
# Whole minutes of a duration

The minutes are counted in seconds that were rounded to 53 bits. Rounding can lift a duration to the
next whole minute, but not past one: the minutes that a duration reaches and those that it does not
exceed are the same before and after it. Below `2 ^ 34` seconds it cannot even do that, for a minute
is missed by a microsecond or more.
-/

namespace Teardown.Duration

set_option autoImplicit false

def roundedSeconds (micros : Int) : ℚ :=
  let magnitude := (Number.roundQuotient micros.natAbs microsPerSecond).value
  if micros < 0 then -magnitude else magnitude

variable {micros other minutes : Int} {duration : Duration}

theorem whole_minutes_eq_floor (duration : Duration) :
    duration.wholeMinutes = ⌊roundedSeconds duration.micros / 60⌋ := by
  unfold wholeMinutes roundedSeconds
  by_cases negative : duration.micros < 0
  · simp only [if_pos negative]
    rw [neg_div, Int.floor_neg, Number.Scaled.ceil_div_eq_ceil _ (by decide)]
    rfl
  · simp only [if_neg negative]
    exact Number.Scaled.floor_div_eq_floor _ 60

theorem rounded_seconds_is_rounded (positive : 0 < micros) :
    Number.IsRounded ((micros : ℚ) / 1000000) (roundedSeconds micros) := by
  have some : 0 < micros.natAbs := by omega
  have rounded := Number.round_quotient_is_rounded some (show 0 < microsPerSecond by decide)
  have magnitude : ((micros.natAbs : ℕ) : ℚ) = micros := by
    rw [Nat.cast_natAbs, abs_of_pos positive]
  rw [magnitude] at rounded
  rw [roundedSeconds, if_neg (not_lt.mpr positive.le)]
  exact rounded

theorem rounded_seconds_mono (ordered : micros ≤ other) :
    roundedSeconds micros ≤ roundedSeconds other := by
  have nonneg := (Number.roundQuotient micros.natAbs microsPerSecond).value_nonneg
  have otherNonneg := (Number.roundQuotient other.natAbs microsPerSecond).value_nonneg
  unfold roundedSeconds
  by_cases negative : micros < 0
  · by_cases otherNegative : other < 0
    · simp only [if_pos negative, if_pos otherNegative]
      exact neg_le_neg (Number.round_quotient_mono (by decide) (by omega))
    · simp only [if_pos negative, if_neg otherNegative]
      linarith
  · simp only [if_neg negative, if_neg (show ¬ other < 0 by omega)]
    exact Number.round_quotient_mono (by decide) (by omega)

/-- The minutes either way of which the seconds are a whole number of 53 bits. They are more than
any duration has. -/
def exactMinutes : Int := 1440000000000

theorem rounded_seconds_of_minutes (low : -exactMinutes ≤ minutes) (high : minutes ≤ exactMinutes) :
    roundedSeconds (minutes * microsPerMinute) = 60 * minutes := by
  have scale : (minutes * microsPerMinute).natAbs = 60 * minutes.natAbs * microsPerSecond := by
    simp only [microsPerMinute, microsPerSecond]
    omega
  have short : 60 * minutes.natAbs < 2 ^ 53 := by
    simp only [exactMinutes] at low high
    omega
  have value := Number.round_quotient_whole (show 0 < microsPerSecond by decide) short
  have magnitude : ((60 * minutes.natAbs : ℕ) : ℚ) = 60 * |(minutes : ℚ)| := by
    push_cast [Nat.cast_natAbs]
    rfl
  unfold roundedSeconds
  simp only [scale, value, magnitude]
  by_cases negative : minutes < 0
  · have sign : minutes * microsPerMinute < 0 := by
      simp only [microsPerMinute]
      omega
    have cast : (minutes : ℚ) < 0 := by exact_mod_cast negative
    rw [if_pos sign, abs_of_neg cast]
    ring
  · have sign : ¬ minutes * microsPerMinute < 0 := by
      simp only [microsPerMinute]
      omega
    have cast : 0 ≤ (minutes : ℚ) := by exact_mod_cast not_lt.mp negative
    rw [if_neg sign, abs_of_nonneg cast]

theorem rounded_seconds_neg (micros : Int) : roundedSeconds (-micros) = -roundedSeconds micros := by
  have zero : (Number.roundQuotient 0 microsPerSecond).value = 0 :=
    Number.round_quotient_zero (by decide)
  unfold roundedSeconds
  rw [Int.natAbs_neg]
  rcases Int.lt_trichotomy micros 0 with negative | rfl | positive
  · simp only [if_pos negative, if_neg (show ¬ -micros < 0 by omega), neg_neg]
  · simp [zero]
  · simp only [if_neg (show ¬ micros < 0 by omega), if_pos (show -micros < 0 by omega)]

theorem rounded_seconds_is_rounded_either_side (micros : Int) :
    Number.IsRoundedEitherSide ((micros : ℚ) / 1000000) (roundedSeconds micros) := by
  rcases Int.lt_trichotomy micros 0 with negative | rfl | positive
  · have opposite := rounded_seconds_is_rounded (show 0 < -micros by omega)
    rw [rounded_seconds_neg, Int.cast_neg, neg_div] at opposite
    exact .inr (.inr opposite)
  · exact .inl ⟨by simp, Number.round_quotient_zero (by decide)⟩
  · exact .inr (.inl (rounded_seconds_is_rounded positive))

/-- Below `2 ^ 34` seconds the grid of the rounded seconds is finer than two microseconds. -/
theorem rounded_seconds_near (short : |micros| < 2 ^ 34 * microsPerSecond) :
    |roundedSeconds micros - micros / 1000000| < 1 / 1000000 := by
  have cast : |(micros : ℚ)| < 2 ^ 34 * 1000000 := by exact_mod_cast short
  have below : |(micros : ℚ) / 1000000| < 2 ^ (34 : ℤ) := by
    rw [abs_div, abs_of_pos (show (0 : ℚ) < 1000000 by norm_num), div_lt_iff₀ (by norm_num)]
    exact_mod_cast cast
  calc
    |roundedSeconds micros - micros / 1000000| ≤ 2 ^ ((34 : ℤ) - 54) :=
      (rounded_seconds_is_rounded_either_side micros).error_le below
    _ < 1 / 1000000 := by norm_num

theorem le_whole_minutes (low : -exactMinutes ≤ minutes)
    (reached : minutes * microsPerMinute ≤ duration.micros) : minutes ≤ duration.wholeMinutes := by
  have range := duration.inRange.2
  have high : minutes ≤ exactMinutes := by
    simp only [greatest, dayLimit, microsPerDay, microsPerMinute, exactMinutes] at range reached ⊢
    omega
  have seconds := rounded_seconds_mono reached
  rw [rounded_seconds_of_minutes low high] at seconds
  rw [whole_minutes_eq_floor, Int.le_floor]
  linarith

theorem whole_minutes_le (high : minutes ≤ exactMinutes)
    (within : duration.micros ≤ minutes * microsPerMinute) : duration.wholeMinutes ≤ minutes := by
  have range := duration.inRange.1
  have low : -exactMinutes ≤ minutes := by
    simp only [least, dayLimit, microsPerDay, microsPerMinute, exactMinutes] at range within ⊢
    omega
  have seconds := rounded_seconds_mono within
  rw [rounded_seconds_of_minutes low high] at seconds
  rw [whole_minutes_eq_floor, ← Int.floor_intCast (R := ℚ) minutes]
  exact Int.floor_le_floor (by linarith)

theorem whole_minutes_bounded (duration : Duration) :
    -exactMinutes ≤ duration.wholeMinutes ∧ duration.wholeMinutes ≤ exactMinutes := by
  have range := duration.inRange
  simp only [least, greatest, dayLimit, microsPerDay] at range
  constructor
  · apply le_whole_minutes le_rfl
    simp only [exactMinutes, microsPerMinute]
    omega
  · apply whole_minutes_le le_rfl
    simp only [exactMinutes, microsPerMinute]
    omega

/-- A minute that a duration misses by a microsecond is missed by the rounded seconds too, unless they
are very many. -/
theorem whole_minutes_lt (short : |duration.micros| < 2 ^ 34 * microsPerSecond)
    (missed : duration.micros < minutes * microsPerMinute) : duration.wholeMinutes < minutes := by
  have near := (abs_lt.mp (rounded_seconds_near short)).2
  -- Microseconds are whole, so the minute is missed by one of them at least.
  have apart : duration.micros + 1 ≤ minutes * 60000000 := missed
  have cast : (duration.micros : ℚ) + 1 ≤ minutes * 60000000 := by exact_mod_cast apart
  rw [whole_minutes_eq_floor, Int.floor_lt]
  linarith

theorem whole_minutes_mono {longer : Duration} (ordered : duration ≤ longer) :
    duration.wholeMinutes ≤ longer.wholeMinutes := by
  have seconds := rounded_seconds_mono ordered
  rw [whole_minutes_eq_floor, whole_minutes_eq_floor]
  gcongr

theorem le_exact_floor_iff :
    minutes ≤ ⌊(micros : ℚ) / microsPerMinute⌋ ↔ minutes * microsPerMinute ≤ micros := by
  rw [Int.le_floor, le_div_iff₀ (by norm_num [microsPerMinute])]
  exact_mod_cast Iff.rfl

theorem exact_floor_bounded (duration : Duration) :
    -exactMinutes ≤ ⌊(duration.micros : ℚ) / microsPerMinute⌋ ∧
      ⌊(duration.micros : ℚ) / microsPerMinute⌋ < exactMinutes := by
  have range := duration.inRange
  simp only [least, greatest, dayLimit, microsPerDay] at range
  constructor
  · apply le_exact_floor_iff.mpr
    simp only [exactMinutes, microsPerMinute]
    omega
  · refine not_le.mp (mt le_exact_floor_iff.mp ?_)
    simp only [exactMinutes, microsPerMinute]
    omega

theorem exact_floor_of_minutes (whole : micros = minutes * microsPerMinute) :
    ⌊(micros : ℚ) / microsPerMinute⌋ = minutes := by
  have nonzero : (microsPerMinute : ℚ) ≠ 0 := by norm_num [microsPerMinute]
  rw [whole, Int.cast_mul, mul_div_cancel_right₀ _ nonzero, Int.floor_intCast]

/-- The seconds of a duration are rounded to 53 bits, and its whole minutes are the whole part of
their sixtieth. Below `2 ^ 34` seconds either way these are the whole minutes of the exact duration;
beyond, rounding may have added one. Durations of whole minutes are counted exactly, and the order of
durations is kept. -/
theorem whole_minutes_under_rounding (duration : Duration) :
    let exact : Int := ⌊(duration.micros : ℚ) / microsPerMinute⌋
    (∃ seconds, Number.IsRoundedEitherSide ((duration.micros : ℚ) / microsPerSecond) seconds ∧
        duration.wholeMinutes = ⌊seconds / 60⌋) ∧
      (|duration.micros| < 2 ^ 34 * microsPerSecond → duration.wholeMinutes = exact) ∧
      (duration.wholeMinutes = exact ∨ duration.wholeMinutes = exact + 1) ∧
      (∀ minutes, duration.micros = minutes * microsPerMinute → duration.wholeMinutes = minutes) ∧
      ∀ longer, duration ≤ longer → duration.wholeMinutes ≤ longer.wholeMinutes := by
  intro exact
  obtain ⟨low, high⟩ := exact_floor_bounded duration
  have reached : exact * microsPerMinute ≤ duration.micros := le_exact_floor_iff.mp le_rfl
  have missed : duration.micros < (exact + 1) * microsPerMinute :=
    not_le.mp (mt le_exact_floor_iff.mpr (by omega))
  have above : exact ≤ duration.wholeMinutes := le_whole_minutes low reached
  have within : duration.wholeMinutes ≤ exact + 1 := whole_minutes_le (by omega) missed.le
  refine ⟨⟨roundedSeconds duration.micros, ?_, whole_minutes_eq_floor duration⟩, ?_, ?_, ?_,
    fun _ => whole_minutes_mono⟩
  · exact_mod_cast rounded_seconds_is_rounded_either_side duration.micros
  · intro short
    have below := whole_minutes_lt short missed
    omega
  · omega
  · intro minutes whole
    have same : exact = minutes := exact_floor_of_minutes whole
    have most : duration.wholeMinutes ≤ minutes := whole_minutes_le (by omega) whole.le
    omega

/-- A microsecond before the last whole minute below `2 ^ 34` seconds, and as far on the other side. -/
theorem minute_is_not_reached_early :
    let before : Duration := ⟨17179869179999999, by decide⟩
    let opposite : Duration := ⟨-17179869180000001, by decide⟩
    |before.micros| < 2 ^ 34 * microsPerSecond ∧ before.wholeMinutes = 286331152 ∧
      |opposite.micros| < 2 ^ 34 * microsPerSecond ∧ opposite.wholeMinutes = -286331154 ∧
      opposite.wholeMinutes ≤ before.wholeMinutes := by
  intro before opposite
  have short : |before.micros| < 2 ^ 34 * microsPerSecond := by decide
  have oppositeShort : |opposite.micros| < 2 ^ 34 * microsPerSecond := by decide
  have ordered : opposite ≤ before := by decide
  obtain ⟨-, exact, -⟩ := whole_minutes_under_rounding before
  obtain ⟨-, oppositeExact, -, -, mono⟩ := whole_minutes_under_rounding opposite
  refine ⟨short, (exact short).trans ?_, oppositeShort, (oppositeExact oppositeShort).trans ?_,
    mono before ordered⟩
  · norm_num [before, microsPerMinute, Int.floor_eq_iff]
  · norm_num [opposite, microsPerMinute, Int.floor_eq_iff]

/-- A microsecond before the first whole minute beyond. -/
example : (⟨17179869239999999, by decide⟩ : Duration).wholeMinutes = 286331154 := by decide

end Teardown.Duration
