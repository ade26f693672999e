import Teardown.Value

/-!
# Writing JSON

JSON on one line: a comma or a colon is followed by one space, and only quotation marks,
backslashes and control characters are escaped. Only a number with too many digits cannot be
written.
-/

namespace Teardown.Json

set_option autoImplicit false

def escaped (character : Char) : List Char :=
  if character = '"' ∨ character = '\\' then ['\\', character]
  else if character = '\n' then ['\\', 'n']
  else if character = '\r' then ['\\', 'r']
  else if character = '\t' then ['\\', 't']
  else if character = '\x08' then ['\\', 'b']
  else if character = '\x0c' then ['\\', 'f']
  else if character.toNat < 0x20 then '\\' :: 'u' :: Text.hexText 4 character.toNat
  else [character]

def writeString (characters : List Char) : List Char :=
  '"' :: (characters.flatMap escaped ++ ['"'])

def specialWords : Number.SpecialWords where
  notANumber := "NaN"
  infinite := "Infinity"

def writeScalar? : Value → Option (List Char)
  | .null => some "null".toList
  | .bool flag => some (if flag then "true".toList else "false".toList)
  | .int number => (Text.writeNumeral? number).map String.toList
  | .float number => some (number.text specialWords).toList
  | .string text => some text.toList
  | _ => none

def separated : List (List Char) → List Char
  | [] => []
  | [part] => part
  | part :: rest => part ++ ',' :: ' ' :: separated rest

mutual

def write? : Value → Option (List Char)
  | .string text => some (writeString text.toList)
  | .list items => (writeItems? items).map fun parts => '[' :: (separated parts ++ [']'])
  | .mapping entries =>
      (writeEntries? entries).map fun parts => '\x7b' :: (separated parts ++ ['\x7d'])
  | scalar => writeScalar? scalar

def writeItems? : List Value → Option (List (List Char))
  | [] => some []
  | item :: rest =>
      match write? item, writeItems? rest with
      | some part, some parts => some (part :: parts)
      | _, _ => none

/-- A key is written as a string, whatever it is. -/
def writeEntries? : List (Value × Value) → Option (List (List Char))
  | [] => some []
  | (key, value) :: rest =>
      match writeScalar? key, write? value, writeEntries? rest with
      | some name, some part, some parts =>
          some ((writeString name ++ ':' :: ' ' :: part) :: parts)
      | _, _, _ => none

end

def text? (value : Value) : Option String :=
  (write? value).map String.ofList

end Teardown.Json
