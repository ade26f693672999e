import Teardown.Number.WholePart
import Teardown.Policy

/-!
# Loose policies

A policy whose minutes were given as any two values. They have to be numbers, but need not be
whole; whole ones make the same policy as elsewhere.
-/

namespace Teardown

set_option autoImplicit false

/-- Minutes that need not be whole. -/
inductive Minutes where
  | whole (number : Int)
  | broken (number : Number.Binary64)
  deriving DecidableEq, Repr

namespace Minutes

def ofValue : Value → Except Failure Minutes
  | .bool flag => .ok (.whole (if flag then 1 else 0))
  | .int number => .ok (.whole number)
  | .float number => .ok (.broken number)
  | other => .error (.mismatch (.notComparable other.kindName "int"))

def isNegative : Minutes → Bool
  | whole number => number < 0
  | broken (.finite negative significand _) => negative && significand != 0
  | broken (.infinite negative) => negative
  | broken .notANumber => false

def isPositive : Minutes → Bool
  | whole number => 0 < number
  | broken (.finite negative significand _) => !negative && significand != 0
  | broken (.infinite negative) => !negative
  | broken .notANumber => false

/-- The whole minutes count exactly; the rest is rounded to 53 bits in microseconds, and the sum to
a whole microsecond, a half to the even one. -/
def brokenMicros (parts : Number.Parts) : Int :=
  let perMinute := Duration.microsPerMinute.toNat
  let rest := Number.roundQuotient (parts.numerator * perMinute) parts.denominator
  let (top, bottom) := Number.shifted rest.significand 1 rest.exponent
  let magnitude := Number.nearestEven (parts.whole * perMinute * bottom + top) bottom
  Number.Binary64.signed parts.negative magnitude

def duration (minutes : Minutes) : Except Failure Duration :=
  match minutes with
  | whole number => (Duration.ofMinutes number).mapError .daysOutOfRange
  | broken number => do
      let parts ← number.parts.mapError .mismatch
      (Duration.ofMicros (brokenMicros parts)).mapError .daysOutOfRange

end Minutes

structure LoosePolicy where
  idle : Minutes
  cycle : Minutes
  deriving DecidableEq, Repr

namespace LoosePolicy

def checked (field : String) (value : Value) : Except Failure Minutes := do
  let minutes ← Minutes.ofValue value
  if minutes.isNegative then Policy.refuse field value
  return minutes

def ofValues (idle cycle : Value) : Except Failure LoosePolicy := do
  return ⟨← checked Policy.idleField idle, ← checked Policy.cycleField cycle⟩

def ofPolicy (policy : Policy) : LoosePolicy :=
  ⟨.whole policy.idleMinutes, .whole policy.cycleMinutes⟩

def idleEnabled (policy : LoosePolicy) : Bool := policy.idle.isPositive

def cycleEnabled (policy : LoosePolicy) : Bool := policy.cycle.isPositive

def neverTerminates (policy : LoosePolicy) : Bool := !(policy.idleEnabled || policy.cycleEnabled)

def idleTimeout (policy : LoosePolicy) : Except Failure Duration := policy.idle.duration

def cycleLead (policy : LoosePolicy) : Except Failure Duration := policy.cycle.duration

theorem neverTerminates_ofPolicy (policy : Policy) :
    (ofPolicy policy).neverTerminates = policy.neverTerminates := by
  simp [ofPolicy, neverTerminates, idleEnabled, cycleEnabled, Minutes.isPositive,
    Policy.neverTerminates, Policy.idleEnabled, Policy.cycleEnabled]

/-- Whole minutes are refused or taken as they are for any other policy. -/
theorem ofValues_int (idle cycle : Int) :
    ofValues (.int idle) (.int cycle) = (Policy.ofMinutes idle cycle).map ofPolicy := by
  obtain ⟨idleFailure, idleRefused⟩ :=
    Policy.exists_refuse_eq_error Policy.idleField (.int idle)
  obtain ⟨cycleFailure, cycleRefused⟩ :=
    Policy.exists_refuse_eq_error Policy.cycleField (.int cycle)
  by_cases idleSign : idle < 0 <;> by_cases cycleSign : cycle < 0 <;>
    simp [ofValues, checked, Minutes.ofValue, Minutes.isNegative, Policy.ofMinutes, ofPolicy,
      idleSign, cycleSign, idleRefused, cycleRefused, bind, Except.bind, pure, Except.pure,
      Except.map]
  omega

end LoosePolicy

end Teardown
