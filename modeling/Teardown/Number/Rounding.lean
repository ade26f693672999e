/-!
# Rounded quotients

A quotient of natural numbers rounded to 53 significant bits, a tie going to the even significand,
and whole quotients of the result. All of it is exact arithmetic on natural numbers.
-/

namespace Teardown.Number

set_option autoImplicit false

structure Scaled where
  significand : Nat
  exponent : Int
  deriving DecidableEq, Repr

/-- The whole number nearest to a quotient; of two equally near ones the even one. -/
def nearestEven (numerator denominator : Nat) : Nat :=
  let quotient := numerator / denominator
  let rest := numerator % denominator
  if 2 * rest < denominator then quotient
  else if denominator < 2 * rest then quotient + 1
  else quotient + quotient % 2

def shifted (numerator denominator : Nat) (shift : Int) : Nat × Nat :=
  if 0 ≤ shift then (numerator * Nat.pow 2 shift.toNat, denominator)
  else (numerator, denominator * Nat.pow 2 (-shift).toNat)

def floorLog2 (numerator denominator : Nat) : Int :=
  let guess : Int := (numerator.log2 : Int) - (denominator.log2 : Int)
  let (top, bottom) := shifted numerator denominator (-guess)
  if top < bottom then guess - 1 else guess

/-- The quotient rounded to 53 significant bits. -/
def roundQuotient (numerator denominator : Nat) : Scaled :=
  let exponent := floorLog2 numerator denominator - 52
  let (top, bottom) := shifted numerator denominator (-exponent)
  ⟨nearestEven top bottom, exponent⟩

def Scaled.floorDiv (number : Scaled) (divisor : Nat) : Nat :=
  let (top, bottom) := shifted number.significand divisor number.exponent
  top / bottom

def Scaled.ceilDiv (number : Scaled) (divisor : Nat) : Nat :=
  let (top, bottom) := shifted number.significand divisor number.exponent
  (top + bottom - 1) / bottom

end Teardown.Number
