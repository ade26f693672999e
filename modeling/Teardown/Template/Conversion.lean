import Teardown.Number.Fixed
import Teardown.Number.WholePart
import Teardown.Template.Directive
import Teardown.Text.Room

/-!
# Template conversions

How a value is written where a directive asks for a text, a whole number, a real number or a
character, and how what is written is laid out.
-/

namespace Teardown.Template

set_option autoImplicit false

/-- What is written of a value. Of a number the sign and a mark of its base come first, and zeros
may fill the space after them. -/
structure Piece where
  sign : List Char := []
  lead : List Char := []
  body : List Char
  isNumber : Bool := false

def Piece.length (piece : Piece) : Nat :=
  piece.sign.length + piece.lead.length + piece.body.length

def layOut (layout : Layout) (piece : Piece) : Except Failure (List Char) :=
  let space := layout.width - piece.length
  let start := piece.sign ++ piece.lead
  if Text.roomLimit ≤ layout.width then fault .widthWithoutRoom
  else if layout.left then .ok (start ++ piece.body ++ List.replicate space ' ')
  else if layout.zero && piece.isNumber then
    .ok (start ++ List.replicate space '0' ++ piece.body)
  else .ok (List.replicate space ' ' ++ start ++ piece.body)

def signOf (layout : Layout) (negative : Bool) : List Char :=
  if negative then ['-']
  else if layout.plus then ['+']
  else if layout.blank then [' ']
  else []

def asciiForm (character : Char) : List Char :=
  if character.toNat < 0x80 then [character] else (Foreign.codePointText character).toList

def textPiece (layout : Layout) (text : Option String) : Except Failure Piece :=
  match text with
  | none => .error .numeralTooLong
  | some known =>
      .ok { body := match layout.precision with
        | some precision => known.toList.take precision
        | none => known.toList }

def decimalWhole (conversion : Char) (value : Value) : Except Failure Int :=
  match value with
  | .bool flag => .ok (if flag then 1 else 0)
  | .int number => .ok number
  | .float number => number.wholePart.mapError .mismatch
  | other => fault (.realRequired conversion other.kindName)

def exactWhole (conversion : Char) (value : Value) : Except Failure Int :=
  match value with
  | .bool flag => .ok (if flag then 1 else 0)
  | .int number => .ok number
  | other => fault (.wholeRequired conversion other.kindName)

def checkDigits (layout : Layout) : Except Failure Unit :=
  if precisionLimit - 3 < layout.precision.getD 0 then fault .precisionWithoutRoom else .ok ()

def wholePiece (layout : Layout) (lead digits : List Char) (negative : Bool) : Piece where
  sign := signOf layout negative
  lead := lead
  body := List.replicate (layout.precision.getD 0 - digits.length) '0' ++ digits
  isNumber := true

def decimalPiece (layout : Layout) (conversion : Char) (value : Value) : Except Failure Piece := do
  let number ← decimalWhole conversion value
  checkDigits layout
  if (Text.writeNumeral? number).isNone then throw .numeralTooLong
  return wholePiece layout [] (Text.decimalDigits number.natAbs) (number < 0)

def basePiece (layout : Layout) (conversion : Char) (value : Value) : Except Failure Piece := do
  let number ← exactWhole conversion value
  checkDigits layout
  let digits := Nat.toDigits (if conversion = 'o' then 8 else 16) number.natAbs
  let shown := if conversion = 'X' then digits.map Char.toUpper else digits
  let lead := if layout.alternate then ['0', conversion] else []
  return wholePiece layout lead shown (number < 0)

def greatestExponent : Nat := 1024

def nearestReal (number : Int) : Except Failure (Nat × Nat) :=
  if number = 0 then .ok (0, 1)
  else
    let rounded := Number.roundQuotient number.natAbs 1
    let quotient := Number.shifted rounded.significand 1 rounded.exponent
    if Nat.pow 2 greatestExponent * quotient.2 ≤ quotient.1 then fault .tooLargeForFloat
    else .ok quotient

/-- The greatest precision counts as none where an exponent is written. -/
def realText (layout : Layout) (conversion : Char) (top bottom : Nat) : List Char :=
  let precision := layout.precision.getD 6
  if conversion = 'f' then Number.fixedText layout.alternate precision top bottom
  else if conversion = 'e' then
    let places := if precision = precisionLimit then 0 else precision
    Number.exponentText layout.alternate places top bottom
  else Number.generalText layout.alternate precision top bottom

def realMagnitude (layout : Layout) (conversion : Char) (value : Value) :
    Except Failure (Bool × List Char) :=
  match value with
  | .bool flag => .ok (false, realText layout conversion (if flag then 1 else 0) 1)
  | .int number => do
      let (top, bottom) ← nearestReal number
      return (decide (number < 0), realText layout conversion top bottom)
  | .float (.finite negative significand exponent) =>
      let (top, bottom) := Number.shifted significand 1 exponent
      .ok (negative, realText layout conversion top bottom)
  | .float .notANumber => .ok (false, ['n', 'a', 'n'])
  | .float (.infinite negative) => .ok (negative, ['i', 'n', 'f'])
  | other => fault (.floatRequired other.kindName)

def realPiece (layout : Layout) (conversion : Char) (value : Value) : Except Failure Piece := do
  let (negative, text) ← realMagnitude layout conversion.toLower value
  let shown := if conversion.isUpper then text.map Char.toUpper else text
  return { sign := signOf layout negative, body := shown, isNumber := true }

def characterPiece (value : Value) : Except Failure Piece :=
  match value with
  | .string text =>
      match text.toList with
      | [character] => .ok { body := [character] }
      | _ => fault .characterRequired
  | .bool flag => .ok { body := [if flag then '\x01' else '\x00'] }
  | .int code =>
      if code < 0 ∨ 0x110000 ≤ code then fault .characterOutOfRange
      else .ok { body := [Char.ofNat code.toNat] }
  | _ => fault .characterRequired

def piece (layout : Layout) (conversion : Char) (index : Nat) (value : Value) :
    Except Failure Piece :=
  if conversion = 's' then textPiece layout value.text?
  else if conversion = 'r' then textPiece layout value.nestedText?
  else if conversion = 'a' then
    textPiece layout (value.nestedText?.map fun text =>
      String.ofList (text.toList.flatMap asciiForm))
  else if conversion = 'd' ∨ conversion = 'i' ∨ conversion = 'u' then
    decimalPiece layout conversion value
  else if conversion = 'o' ∨ conversion = 'x' ∨ conversion = 'X' then
    basePiece layout conversion value
  else if ['e', 'E', 'f', 'F', 'g', 'G'].contains conversion then
    realPiece layout conversion value
  else if conversion = 'c' then characterPiece value
  else fault (.unknownConversion conversion index)

end Teardown.Template
