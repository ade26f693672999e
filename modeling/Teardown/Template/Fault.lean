import Teardown.Text.Hexadecimal
import Teardown.Text.Numeral

/-!
# Template faults

Why a template cannot be filled: it is not well formed, it does not fit the number of values, or a
value is of the wrong kind for its place.
-/

namespace Teardown.Template

set_option autoImplicit false

inductive Fault where
  | tooFewValues
  | tooManyValues
  | incomplete
  | incompleteKey
  | noMapping
  | unknownConversion (character : Char) (index : Nat)
  | starNotWhole
  | widthTooBig
  | precisionTooBig
  | starTooLong
  | starTooBig
  | realRequired (conversion : Char) (kind : String)
  | wholeRequired (conversion : Char) (kind : String)
  | floatRequired (kind : String)
  | characterRequired
  | characterOutOfRange
  | tooLargeForFloat
  | precisionWithoutRoom
  | widthWithoutRoom
  deriving DecidableEq, Repr

namespace Fault

def name : Fault → String
  | .incomplete | .incompleteKey | .unknownConversion _ _ | .widthTooBig
  | .precisionTooBig => "ValueError"
  | .starTooLong | .starTooBig | .characterOutOfRange | .tooLargeForFloat
  | .precisionWithoutRoom => "OverflowError"
  | .widthWithoutRoom => "MemoryError"
  | _ => "TypeError"

/-- A character that is not plain ASCII is not shown itself. -/
def shown (character : Char) : Char :=
  if 31 ≤ character.toNat ∧ character.toNat < 127 then character else '?'

def shortHex (code : Nat) : String := String.ofList (Nat.toDigits 16 code)

def message : Fault → String
  | .tooFewValues => "not enough arguments for format string"
  | .tooManyValues => "not all arguments converted during string formatting"
  | .incomplete => "incomplete format"
  | .incompleteKey => "incomplete format key"
  | .noMapping => "format requires a mapping"
  | .unknownConversion character index =>
      "unsupported format character '" ++ String.singleton (shown character) ++ "' (0x" ++
        shortHex character.toNat ++ ") at index " ++ Text.decimal index
  | .starNotWhole => "* wants int"
  | .widthTooBig => "width too big"
  | .precisionTooBig => "precision too big"
  | .starTooLong => "Python int too large to convert to C ssize_t"
  | .starTooBig => "Python int too large to convert to C int"
  | .realRequired conversion kind =>
      "%" ++ String.singleton conversion ++ " format: a real number is required, not " ++ kind
  | .wholeRequired conversion kind =>
      "%" ++ String.singleton conversion ++ " format: an integer is required, not " ++ kind
  | .floatRequired kind => "must be real number, not " ++ kind
  | .characterRequired => "%c requires int or char"
  | .characterOutOfRange => "%c arg not in range(0x110000)"
  | .tooLargeForFloat => "int too large to convert to float"
  | .precisionWithoutRoom => "precision too large"
  | .widthWithoutRoom => ""

end Fault

end Teardown.Template
