import Teardown.Number.Shortest
import Teardown.Text.Numeral
import Teardown.Text.Quoted

/-!
# Stored values

The values that stored node definitions, policy snapshots, settings and log fields hold, and their
text. Only a number with too many digits has no text, alone or nested.
-/

namespace Teardown

set_option autoImplicit false

inductive Value where
  | null
  | bool (flag : Bool)
  | int (number : Int)
  | float (number : Number.Binary64)
  | string (text : String)
  | list (items : List Value)
  | mapping (entries : List (Value × Value))
  deriving Repr

namespace Value

def plainWords : Number.SpecialWords where
  notANumber := "nan"
  infinite := "inf"

mutual

/-- The text of a value inside another one, where a string stands in quotation marks. -/
def nestedText? : Value → Option String
  | .null => some "None"
  | .bool flag => some (if flag then "True" else "False")
  | .int number => Text.writeNumeral? number
  | .float number => some (number.text plainWords)
  | .string text => some (Text.quoted text)
  | .list items =>
      (itemTexts? items).map fun texts => "[" ++ String.intercalate ", " texts ++ "]"
  | .mapping entries =>
      (entryTexts? entries).map fun texts => "\x7b" ++ String.intercalate ", " texts ++ "\x7d"

def itemTexts? : List Value → Option (List String)
  | [] => some []
  | item :: rest =>
      match nestedText? item, itemTexts? rest with
      | some text, some texts => some (text :: texts)
      | _, _ => none

def entryTexts? : List (Value × Value) → Option (List String)
  | [] => some []
  | (key, value) :: rest =>
      match nestedText? key, nestedText? value, entryTexts? rest with
      | some keyText, some valueText, some texts => some ((keyText ++ ": " ++ valueText) :: texts)
      | _, _, _ => none

end

def text? : Value → Option String
  | .string text => some text
  | value => nestedText? value

def isNull : Value → Bool
  | .null => true
  | _ => false

def isNumber : Value → Bool
  | .bool _ | .int _ | .float _ => true
  | _ => false

def isNaN : Value → Bool
  | .float .notANumber => true
  | _ => false

def isContainer : Value → Bool
  | .list _ | .mapping _ => true
  | _ => false

def kindName : Value → String
  | .null => "NoneType"
  | .bool _ => "bool"
  | .int _ => "int"
  | .float _ => "float"
  | .string _ => "str"
  | .list _ => "list"
  | .mapping _ => "dict"

/-- The whole number that a value counts as; a truth value counts as one or zero. -/
def wholeNumber? : Value → Option Int
  | .bool flag => some (if flag then 1 else 0)
  | .int number => some number
  | .float number => number.toInt?
  | _ => none

/-- Nothing, no, zero and what is empty count as absent; all else counts as present. -/
def isPresent : Value → Bool
  | .null => false
  | .string text => !text.isEmpty
  | .list items => !items.isEmpty
  | .mapping entries => !entries.isEmpty
  | number => number.wholeNumber? != some 0

/-- Keys that count as the same: equal strings, or equal numbers, where a truth value is one or
zero. -/
def sameKey (left right : Value) : Bool :=
  match left, right with
  | .null, .null => true
  | .string one, .string other => one == other
  | .float one, .float other =>
      match one.toInt?, other.toInt? with
      | some number, some otherNumber => number == otherNumber
      | none, none => one == other && one != .notANumber
      | _, _ => false
  | _, _ =>
      match wholeNumber? left, wholeNumber? right with
      | some number, some otherNumber => number == otherNumber
      | _, _ => false

/-- Sets a key: a known key keeps its place and spelling, a new one comes last. -/
def insertEntry (key value : Value) : List (Value × Value) → List (Value × Value)
  | [] => [(key, value)]
  | (known, old) :: rest =>
      if sameKey known key then (known, value) :: rest
      else (known, old) :: insertEntry key value rest

def lookup? (entries : List (Value × Value)) (name : String) : Option Value :=
  (entries.find? fun entry => sameKey entry.1 (.string name)).map (·.2)

end Value

end Teardown
