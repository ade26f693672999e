import Teardown.Text.DecimalDigit

/-!
# Numerals

A numeral is an optional sign and a run of decimal digits of any scripts, in which single low
lines may stand between two digits. Reading and writing share one limit on the number of digits,
so every number that can be written can be read back.
-/

namespace Teardown.Text

set_option autoImplicit false

def digitLimit : Nat := 4300

/-- The values of the digits of a run; nothing if any other character stands in it, or a low line
anywhere but between two digits. -/
def digitRun? : List Char → Option (List Nat)
  | [] => none
  | [character] => (digitValue? character).map ([·])
  | character :: '_' :: rest =>
      match digitValue? character, digitRun? rest with
      | some digit, some digits => some (digit :: digits)
      | _, _ => none
  | character :: next :: rest =>
      match digitValue? character, digitRun? (next :: rest) with
      | some digit, some digits => some (digit :: digits)
      | _, _ => none

def ofDigits (digits : List Nat) : Nat :=
  digits.foldl (fun number digit => 10 * number + digit) 0

/-- The number that the plain digits at the start stand for, and what follows them; nothing if there
are none. -/
def leadingNumber? (characters : List Char) : Option (Nat × List Char) :=
  let digits := characters.takeWhile Char.isDigit
  if digits.isEmpty then none
  else
    let number := ofDigits (digits.map fun digit => digit.toNat - 0x30)
    some (number, characters.dropWhile Char.isDigit)

def readMagnitude? (characters : List Char) : Option Nat :=
  match digitRun? characters with
  | some digits => if digits.length ≤ digitLimit then some (ofDigits digits) else none
  | none => none

def readNumeral? (characters : List Char) : Option Int :=
  match characters with
  | '+' :: rest => (readMagnitude? rest).map Int.ofNat
  | '-' :: rest => (readMagnitude? rest).map fun magnitude => -(magnitude : Int)
  | _ => (readMagnitude? characters).map Int.ofNat

def decimalDigits (magnitude : Nat) : List Char :=
  Nat.toDigits 10 magnitude

def decimalText (number : Int) : List Char :=
  if number < 0 then '-' :: decimalDigits number.natAbs else decimalDigits number.natAbs

def decimal (number : Int) : String :=
  String.ofList (decimalText number)

def writeNumeral? (number : Int) : Option String :=
  if number.natAbs < Nat.pow 10 digitLimit then some (decimal number) else none

theorem writeNumeral?_eq_none_iff {number : Int} :
    writeNumeral? number = none ↔ Nat.pow 10 digitLimit ≤ number.natAbs := by
  unfold writeNumeral?
  split <;> simp_all

end Teardown.Text
