import Teardown.Failure

/-!
# Template directives

A directive stands for a value in a template: a percent sign, a key in brackets, flags, a width, a
precision and a conversion. A star takes the width or the precision from the values.
-/

namespace Teardown.Template

set_option autoImplicit false

structure Layout where
  left : Bool := false
  plus : Bool := false
  blank : Bool := false
  alternate : Bool := false
  zero : Bool := false
  width : Nat := 0
  precision : Option Nat := none
  deriving Repr

/-- The values that are left to take. A container can also be asked for what it holds by name, and
then need not be taken as a whole. -/
structure Supply where
  values : List Value
  container : Option Value := none
  deriving Repr

structure Reading (Result : Type) where
  result : Result
  rest : List Char
  supply : Supply

def fault {Result : Type} (cause : Fault) : Except Failure Result := .error (.template cause)

def take (supply : Supply) : Except Failure (Value × Supply) :=
  match supply.values with
  | value :: values => .ok (value, { supply with values := values })
  | [] => fault .tooFewValues

def readKey : Nat → List Char → Option (List Char × List Char)
  | _, [] => none
  | depth, ')' :: rest =>
      match depth with
      | 0 => some ([], rest)
      | inner + 1 => (readKey inner rest).map fun (key, after) => (')' :: key, after)
  | depth, '(' :: rest => (readKey (depth + 1) rest).map fun (key, after) => ('(' :: key, after)
  | depth, character :: rest =>
      (readKey depth rest).map fun (key, after) => (character :: key, after)

def named (container : Value) (key : String) : Except Failure Value :=
  match container with
  | .mapping entries =>
      match Value.lookup? entries key with
      | some value => .ok value
      | none => .error (.unknownKey (.string key))
  | _ => .error (.mismatch (.notAListIndex "str"))

def choose (characters : List Char) (supply : Supply) : Except Failure (List Char × Supply) :=
  match characters with
  | '(' :: rest =>
      match supply.container with
      | none => fault .noMapping
      | some container =>
          match readKey 0 rest with
          | none => fault .incompleteKey
          | some (key, after) => do
              let value ← named container (String.ofList key)
              return (after, { supply with values := [value] })
  | _ => .ok (characters, supply)

def readFlags (layout : Layout) : List Char → Layout × List Char
  | '-' :: rest => readFlags { layout with left := true } rest
  | '+' :: rest => readFlags { layout with plus := true } rest
  | ' ' :: rest => readFlags { layout with blank := true } rest
  | '#' :: rest => readFlags { layout with alternate := true } rest
  | '0' :: rest => readFlags { layout with zero := true } rest
  | characters => (layout, characters)

def readNumber (limit : Nat) (excess : Fault) (characters : List Char) :
    Except Failure (Option Nat × List Char) :=
  match Text.leadingNumber? characters with
  | none => .ok (none, characters)
  | some (number, rest) => if limit < number then fault excess else .ok (some number, rest)

def takeNumber (limit : Nat) (excess : Fault) (supply : Supply) :
    Except Failure (Int × Supply) := do
  let (value, left) ← take supply
  match value with
  | .bool flag => return (if flag then 1 else 0, left)
  | .int number =>
      if -(limit : Int) - 1 ≤ number ∧ number ≤ limit then return (number, left) else fault excess
  | _ => fault .starNotWhole

def widthLimit : Nat := Nat.pow 2 63 - 1

def precisionLimit : Nat := Nat.pow 2 31 - 1

/-- A negative width from the values asks for the left end. The lowest number has no opposite, and
asks for no width. -/
def readWidth (layout : Layout) (characters : List Char) (supply : Supply) :
    Except Failure (Reading Layout) :=
  match characters with
  | '*' :: rest => do
      let (width, left) ← takeNumber widthLimit .starTooLong supply
      let size := if widthLimit < width.natAbs then 0 else width.natAbs
      return ⟨{ layout with left := layout.left || width < 0, width := size }, rest, left⟩
  | _ => do
      let (width, rest) ← readNumber widthLimit .widthTooBig characters
      return ⟨{ layout with width := width.getD 0 }, rest, supply⟩

def readPrecision (layout : Layout) (characters : List Char) (supply : Supply) :
    Except Failure (Reading Layout) :=
  match characters with
  | '.' :: '*' :: rest => do
      let (precision, left) ← takeNumber precisionLimit .starTooBig supply
      return ⟨{ layout with precision := some precision.toNat }, rest, left⟩
  | '.' :: rest => do
      let (precision, after) ← readNumber precisionLimit .precisionTooBig rest
      return ⟨{ layout with precision := some (precision.getD 0) }, after, supply⟩
  | _ => .ok ⟨layout, characters, supply⟩

def skipSize (characters : List Char) : List Char :=
  match characters with
  | 'h' :: rest | 'l' :: rest | 'L' :: rest => rest
  | _ => characters

def readLayout (characters : List Char) (supply : Supply) : Except Failure (Reading Layout) := do
  let (start, chosen) ← choose characters supply
  let (flags, afterFlags) := readFlags {} start
  let wide ← readWidth flags afterFlags chosen
  let precise ← readPrecision wide.result wide.rest wide.supply
  return { precise with rest := skipSize precise.rest }

end Teardown.Template
