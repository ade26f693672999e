import Teardown.Mismatch
import Teardown.Number.Binary64

/-!
# Whole parts

A finite number is a whole part and a part below one. What is not finite has neither.
-/

namespace Teardown.Number

set_option autoImplicit false

/-- The parts of the magnitude of a number; the part below one is a quotient. -/
structure Parts where
  negative : Bool
  whole : Nat
  numerator : Nat
  denominator : Nat
  deriving DecidableEq, Repr

namespace Binary64

def parts (number : Binary64) : Except Mismatch Parts :=
  match number with
  | .notANumber => .error .notANumber
  | .infinite _ => .error .infinite
  | .finite negative significand exponent =>
      let scale : Nat := Nat.pow 2 exponent.natAbs
      if 0 ≤ exponent then .ok ⟨negative, significand * scale, 0, 1⟩
      else .ok ⟨negative, significand / scale, significand % scale, scale⟩

def signed (negative : Bool) (magnitude : Nat) : Int :=
  if negative then -(magnitude : Int) else magnitude

def wholePart (number : Binary64) : Except Mismatch Int :=
  number.parts.map fun parts => signed parts.negative parts.whole

end Binary64

end Teardown.Number
