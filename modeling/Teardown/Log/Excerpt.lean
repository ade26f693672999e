import Teardown.Failure
import Teardown.Text.Blank
import Teardown.Text.Room

/-!
# Excerpts

What a log shows of the place that an error about grammar names: the file and the line, the text of
the line without its indentation, and marks under the span from the column to the end column.
-/

namespace Teardown.Log

set_option autoImplicit false

/-- A column counts whole places; one that does not can be compared but not marked. -/
inductive Column where
  | whole (place : Int)
  | broken (place : Number.Binary64)

def columnOf (value : Value) : Except Mismatch Column :=
  match value with
  | .bool flag => .ok (.whole (if flag then 1 else 0))
  | .int place => .ok (.whole place)
  | .float place => .ok (.broken place)
  | other => .error (.notSubtractable other.kindName "int")

def next (value : Value) : Except Mismatch Column :=
  match value with
  | .string _ | .list _ => .error (.notJoinable value.kindName "int")
  | .null | .mapping _ => .error (.notAddable value.kindName "int")
  | number =>
      (columnOf number).map fun column =>
        match column with
        | .whole place => .whole (place + 1)
        | .broken place => .broken place

def endOf (place : Foreign.Place) : Except Mismatch (Value × Bool) :=
  match place.endColumn with
  | .null => .ok (place.column, !place.column.isNaN)
  | .list _ | .mapping _ => .error (.notHashable place.endColumn.kindName)
  | given =>
      if given.isNumber && !given.isPresent then .ok (place.column, !place.column.isNaN)
      else .ok (given, Value.sameKey place.column given)

/-- An end at the column itself, or at one below zero, marks one place. -/
def endColumnOf (place : Foreign.Place) : Except Mismatch Column := do
  let (stop, same) ← endOf place
  if same || Value.sameKey stop (.int (-1)) then next place.column
  else
    let _ ← columnOf place.column
    columnOf stop

def markLimit : Int := Int.pow 2 63

def marks (line : List Char) (indentation : Nat) (start stop : Column) :
    Except Mismatch (Option (List Char)) :=
  match start, stop with
  | .broken place, _ => if place.atLeast (1 + indentation) then .error .notASlice else .ok none
  | .whole place, stop =>
      let first := place - 1 - indentation
      if first < 0 then .ok none
      else
        match stop with
        | .broken _ => .error (.notACount "float")
        | .whole last =>
            let count := last - place
            if count < -markLimit ∨ markLimit ≤ count then .error .countTooLarge
            else if Text.roomLimit ≤ count then .error .countWithoutRoom
            else
              let before := (line.take first.toNat).map fun character =>
                if Text.isBlank character then character else ' '
              .ok (some (before ++ List.replicate count.toNat '^'))

def isIndentation (character : Char) : Bool :=
  character == ' ' || character == '\n' || character == '\x0c'

def lineExcerpt (place : Foreign.Place) (text : String) : Except Mismatch String := do
  let kept := (text.toList.reverse.dropWhile (· == '\n')).reverse
  let line := kept.dropWhile isIndentation
  let shown := "    " ++ String.ofList line ++ "\n"
  if place.column.isNull then return shown
  let stop ← endColumnOf place
  let start ← columnOf place.column
  match ← marks line (kept.length - line.length) start stop with
  | some underline => return shown ++ "    " ++ String.ofList underline ++ "\n"
  | none => return shown

def heading (place : Foreign.Place) : Except Failure (String × String) := do
  let lineNumber ← wording place.line
  let _ ← wording place.endLine
  if !place.line.isNull then
    let file ← if place.file.isPresent then wording place.file else pure "<string>"
    return ("  File \"" ++ file ++ "\", line " ++ lineNumber ++ "\n", "")
  else if place.file.isNull then return ("", "")
  else return ("", " (" ++ (← wording place.file) ++ ")")

/-- What comes before the message, and what comes after it. -/
def excerpt (place : Foreign.Place) : Except Failure (String × String) := do
  let (before, after) ← heading place
  match place.text with
  | .null => return (before, after)
  | .string text => return (before ++ (← (lineExcerpt place text).mapError .mismatch), after)
  | other => throw (.mismatch (.missingProperty other.kindName "rstrip"))

end Teardown.Log
