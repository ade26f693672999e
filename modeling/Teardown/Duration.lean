import Teardown.Number.Rounding
import Teardown.Text.Numeral

/-!
# Durations

A duration is a whole number of microseconds, at most a billion days either way. Minutes that do
not fit are refused with the number of days they come to.
-/

namespace Teardown

set_option autoImplicit false

namespace Duration

def microsPerSecond : Nat := 1000000

def microsPerMinute : Int := 60000000

def microsPerDay : Int := 86400000000

def dayLimit : Int := 999999999

def least : Int := -(dayLimit * microsPerDay)

def greatest : Int := dayLimit * microsPerDay + (microsPerDay - 1)

end Duration

structure Duration where
  micros : Int
  inRange : Duration.least ≤ micros ∧ micros ≤ Duration.greatest
  deriving DecidableEq

structure DaysOutOfRange where
  days : Int
  deriving DecidableEq, Repr

/-- Days beyond 32 bits are not even named. -/
def DaysOutOfRange.message (error : DaysOutOfRange) : String :=
  if -(Int.pow 2 31) ≤ error.days ∧ error.days < Int.pow 2 31 then
    "days=" ++ Text.decimal error.days ++ "; must have magnitude <= " ++
      Text.decimal Duration.dayLimit
  else "Python int too large to convert to C int"

namespace Duration

instance : LE Duration := ⟨fun left right => left.micros ≤ right.micros⟩

instance : LT Duration := ⟨fun left right => left.micros < right.micros⟩

instance (left right : Duration) : Decidable (left ≤ right) :=
  inferInstanceAs (Decidable (left.micros ≤ right.micros))

instance (left right : Duration) : Decidable (left < right) :=
  inferInstanceAs (Decidable (left.micros < right.micros))

theorem le_def (left right : Duration) : left ≤ right ↔ left.micros ≤ right.micros := Iff.rfl

theorem lt_def (left right : Duration) : left < right ↔ left.micros < right.micros := Iff.rfl

def ofMicros (micros : Int) : Except DaysOutOfRange Duration :=
  if inRange : least ≤ micros ∧ micros ≤ greatest then .ok ⟨micros, inRange⟩
  else .error ⟨micros.fdiv microsPerDay⟩

def ofMinutes (minutes : Int) : Except DaysOutOfRange Duration :=
  ofMicros (minutes * microsPerMinute)

def zero : Duration := ⟨0, by decide⟩

def minutes30 : Duration := ⟨30 * microsPerMinute, by decide⟩

def twoHours : Duration := ⟨120 * microsPerMinute, by decide⟩

def hour : Duration := ⟨60 * microsPerMinute, by decide⟩

theorem fmod_bounds (number divisor : Int) :
    (0 < divisor → 0 ≤ number.fmod divisor ∧ number.fmod divisor < divisor) ∧
      (divisor < 0 → divisor < number.fmod divisor ∧ number.fmod divisor ≤ 0) := by
  constructor
  · intro positive
    exact ⟨Int.fmod_nonneg_of_pos number positive, Int.fmod_lt_of_pos number positive⟩
  · intro negative
    have flipped : (-number).fmod (-divisor) = -(number.fmod divisor) :=
      Int.neg_fmod_neg number divisor
    have lower := Int.fmod_nonneg_of_pos (-number) (b := -divisor) (by omega)
    have upper := Int.fmod_lt_of_pos (-number) (b := -divisor) (by omega)
    omega

/-- The time from `elapsed` to the next multiple of `period`, never none of it. For a negative
period the multiples are counted downwards. -/
def untilMultiple (elapsed period : Duration) (nonzero : period.micros ≠ 0) : Duration where
  micros := period.micros - elapsed.micros.fmod period.micros
  inRange := by
    have bounds := fmod_bounds elapsed.micros period.micros
    have range := period.inRange
    simp only [least, greatest, dayLimit, microsPerDay] at range ⊢
    omega

/-- Whole minutes of the duration in seconds, where the seconds are rounded to 53 bits first.
Parts of a minute are dropped towards the past. -/
def wholeMinutes (duration : Duration) : Int :=
  let seconds := Number.roundQuotient duration.micros.natAbs microsPerSecond
  if duration.micros < 0 then -(seconds.ceilDiv 60 : Int) else (seconds.floorDiv 60 : Int)

end Duration

end Teardown
