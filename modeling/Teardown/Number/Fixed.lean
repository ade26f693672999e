import Teardown.Number.Rounding

/-!
# Decimal text of a given length

A quotient with a given number of decimals, or a given number of significant digits. Halves go to
the even neighbour.
-/

namespace Teardown.Number

set_option autoImplicit false

def paddedDigits (width number : Nat) : List Char :=
  let digits := Nat.toDigits 10 number
  List.replicate (width - digits.length) '0' ++ digits

/-- No number of the 64-bit format needs more decimals before its first digit. -/
def leadingZeroLimit : Nat := 400

/-- The exponent of the greatest power of ten that is at most a positive quotient. -/
def floorLog10 (top bottom : Nat) : Int :=
  if bottom ≤ top then ((Nat.toDigits 10 (top / bottom)).length : Int) - 1
  else
    let shift := (List.range leadingZeroLimit).find? fun shift => bottom ≤ top * Nat.pow 10 shift
    0 - (shift.getD leadingZeroLimit : Int)

def digitLimit : Nat := 767

def leadingDigits (count top bottom : Nat) : Nat × Int :=
  if top = 0 then (0, 0)
  else
    let exponent := floorLog10 top bottom
    let (upper, lower) :=
      let shift := (count : Int) - 1 - exponent
      if 0 ≤ shift then (top * Nat.pow 10 shift.toNat, bottom)
      else (top, bottom * Nat.pow 10 (-shift).toNat)
    let digits := nearestEven upper lower
    if digits = Nat.pow 10 count then (Nat.pow 10 (count - 1), exponent + 1) else (digits, exponent)

def significantDigits (count top bottom : Nat) : List Char × Int :=
  let kept := min count digitLimit
  let (number, exponent) := leadingDigits kept top bottom
  (paddedDigits kept number ++ List.replicate (count - kept) '0', exponent)

/-- A point stands only before decimals, unless it is asked for. -/
def withPoint (keepPoint : Bool) (whole decimals : List Char) : List Char :=
  if decimals.isEmpty && !keepPoint then whole else whole ++ '.' :: decimals

def decimalLimit : Nat := 1074

def fixedText (keepPoint : Bool) (places top bottom : Nat) : List Char :=
  let kept := min places decimalLimit
  let digits := paddedDigits (kept + 1) (nearestEven (top * Nat.pow 10 kept) bottom)
  let whole := digits.length - kept
  withPoint keepPoint (digits.take whole) (digits.drop whole ++ List.replicate (places - kept) '0')

def exponentMark (exponent : Int) : List Char :=
  'e' :: (if exponent < 0 then '-' else '+') :: paddedDigits 2 exponent.natAbs

def exponentText (keepPoint : Bool) (places top bottom : Nat) : List Char :=
  let (digits, exponent) := significantDigits (places + 1) top bottom
  withPoint keepPoint (digits.take 1) (digits.drop 1) ++ exponentMark exponent

def withoutTrailingZeros (digits : List Char) : List Char :=
  (digits.reverse.dropWhile (· == '0')).reverse

/-- Significant digits, without an exponent where that takes few zeros. Zeros at the end of the
decimals are dropped, unless they are asked for. -/
def generalText (keepZeros : Bool) (precision top bottom : Nat) : List Char :=
  let count := if precision = 0 then 1 else precision
  let shown := if keepZeros then count else min count digitLimit
  let (digits, exponent) := significantDigits shown top bottom
  let trimmed (decimals : List Char) : List Char :=
    if keepZeros then decimals else withoutTrailingZeros decimals
  if exponent < -4 ∨ (count : Int) ≤ exponent then
    withPoint keepZeros (digits.take 1) (trimmed (digits.drop 1)) ++ exponentMark exponent
  else if exponent < 0 then
    withPoint keepZeros ['0'] (trimmed (List.replicate (exponent.natAbs - 1) '0' ++ digits))
  else
    let whole := exponent.toNat + 1
    withPoint keepZeros (digits.take whole) (trimmed (digits.drop whole))

end Teardown.Number
