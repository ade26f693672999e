import Teardown.Number.Binary64

/-!
# Shortest decimal text

The text of a floating-point number with the fewest digits that reads back as the same number,
and of those digits the ones nearest to it. The coarsest decimal grid with a point among the reals
that round to the number gives the fewest digits.
-/

namespace Teardown.Number

set_option autoImplicit false

/-- A positive number and the ends of the reals that round to it, in quarters of its last place,
with that unit as a fraction. The ends belong to the interval when the significand is even. -/
structure RoundingInterval where
  low : Nat
  value : Nat
  high : Nat
  closed : Bool
  unitTop : Nat
  unitBottom : Nat

/-- Below a power of two the numbers lie twice as close as above it. -/
def roundingInterval (significand : Nat) (exponent : Int) : RoundingInterval :=
  let value := 4 * significand
  let quarter := exponent - 2
  let narrow := significand = Nat.pow 2 52 ∧ -1074 < exponent
  { low := if narrow then value - 1 else value - 2
    value := value
    high := value + 2
    closed := significand % 2 == 0
    unitTop := if 0 ≤ quarter then Nat.pow 2 quarter.toNat else 1
    unitBottom := if 0 ≤ quarter then 1 else Nat.pow 2 (-quarter).toNat }

namespace RoundingInterval

def onGrid (interval : RoundingInterval) (grid : Int) : RoundingInterval :=
  if 0 ≤ grid then
    { interval with unitBottom := interval.unitBottom * Nat.pow 10 grid.toNat }
  else { interval with unitTop := interval.unitTop * Nat.pow 10 (-grid).toNat }

def contains (interval : RoundingInterval) (point : Nat) : Bool :=
  let scaled := point * interval.unitBottom
  let low := interval.low * interval.unitTop
  let high := interval.high * interval.unitTop
  if interval.closed then low ≤ scaled && scaled ≤ high
  else low < scaled && scaled < high

def nearestPoint? (interval : RoundingInterval) : Option Nat :=
  let top := interval.value * interval.unitTop
  let below := top / interval.unitBottom
  let above := below + 1
  match interval.contains below, interval.contains above with
  | true, true =>
      let toBelow := top - below * interval.unitBottom
      let toAbove := above * interval.unitBottom - top
      if toBelow < toAbove ∨ (toBelow = toAbove ∧ below % 2 = 0) then some below
      else some above
  | true, false => some below
  | false, true => some above
  | false, false => none

end RoundingInterval

/-- No number of the format lies on a coarser grid than this or needs a finer one than the last. -/
def coarsestGrid : Int := 309

def gridCount : Nat := 640

def shortestDecimal (significand : Nat) (exponent : Int) : Nat × Int :=
  let interval := roundingInterval significand exponent
  let hit := (List.range gridCount).findSome? fun (step : Nat) =>
    let grid := coarsestGrid - (step : Int)
    ((interval.onGrid grid).nearestPoint?).map (·, grid)
  hit.getD (0, 0)

def positional (digits : List Char) (whole : Int) : List Char :=
  if whole ≤ 0 then '0' :: '.' :: (List.replicate (-whole).toNat '0' ++ digits)
  else if (digits.length : Int) ≤ whole then
    digits ++ List.replicate (whole.toNat - digits.length) '0' ++ ['.', '0']
  else digits.take whole.toNat ++ '.' :: digits.drop whole.toNat

def scientific (digits : List Char) (exponent : Int) : List Char :=
  let mantissa :=
    match digits with
    | first :: second :: rest => first :: '.' :: second :: rest
    | _ => digits
  let magnitude := Nat.toDigits 10 exponent.natAbs
  let padded := if magnitude.length < 2 then '0' :: magnitude else magnitude
  mantissa ++ 'e' :: (if exponent < 0 then '-' else '+') :: padded

/-- Exponents from -4 to 15 are written positionally. -/
def magnitudeText (significand : Nat) (exponent : Int) : List Char :=
  if significand = 0 then ['0', '.', '0']
  else
    let (point, grid) := shortestDecimal significand exponent
    let digits := Nat.toDigits 10 point
    let whole := (digits.length : Int) + grid
    if -4 < whole ∧ whole ≤ 16 then positional digits whole
    else scientific digits (whole - 1)

structure SpecialWords where
  notANumber : String
  infinite : String

def Binary64.text (words : SpecialWords) : Binary64 → String
  | .notANumber => words.notANumber
  | .infinite negative => (if negative then "-" else "") ++ words.infinite
  | .finite negative significand exponent =>
      let digits := magnitudeText significand exponent
      String.ofList (if negative then '-' :: digits else digits)

end Teardown.Number
