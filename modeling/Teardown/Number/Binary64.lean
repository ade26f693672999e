/-!
# Binary floating-point numbers

The numbers of the 64-bit binary format, read off their bits.
-/

namespace Teardown.Number

set_option autoImplicit false

inductive Binary64 where
  | notANumber
  | infinite (negative : Bool)
  | finite (negative : Bool) (significand : Nat) (exponent : Int)
  deriving DecidableEq, Repr

namespace Binary64

/-- One sign bit, eleven bits of biased exponent and 52 bits of fraction. -/
def ofBits (bits : UInt64) : Binary64 :=
  let word : Nat := bits.toNat
  let negative := word / Nat.pow 2 63 == 1
  let field : Nat := word / Nat.pow 2 52 % Nat.pow 2 11
  let fraction : Nat := word % Nat.pow 2 52
  if field = 2047 then
    if fraction = 0 then infinite negative else notANumber
  else if field = 0 then finite negative fraction (-1074)
  else finite negative (Nat.pow 2 52 + fraction) ((field : Int) - 1075)

def toInt? : Binary64 → Option Int
  | finite negative significand exponent =>
      let sign : Int := if negative then -1 else 1
      let scale : Nat := Nat.pow 2 exponent.natAbs
      if 0 ≤ exponent then some (sign * ((significand * scale : Nat) : Int))
      else if significand % scale = 0 then some (sign * ((significand / scale : Nat) : Int))
      else none
  | _ => none

def atLeast (number : Binary64) (bound : Nat) : Bool :=
  match number with
  | finite negative significand exponent =>
      let scale : Nat := Nat.pow 2 exponent.natAbs
      if 0 ≤ exponent then
        if negative then significand == 0 && bound == 0 else bound ≤ significand * scale
      else if negative then significand == 0 && bound == 0
      else bound * scale ≤ significand
  | infinite negative => !negative
  | notANumber => false

end Binary64

end Teardown.Number
