import Teardown.Foreign.Making

/-!
# Wording foreign errors

The text of an error: mostly its arguments, but some errors have a wording of their own. An error
with a number of too many digits has no text, and neither has one that names a character before its
text.
-/

namespace Teardown.Foreign

set_option autoImplicit false

def argumentText? (arguments : List Value) : Option String :=
  match arguments with
  | [] => some ""
  | [only] => only.text?
  | many => (Value.itemTexts? many).map fun texts => "(" ++ String.intercalate ", " texts ++ ")"

def systemText? (number description : Value) (files : List Value) : Option String := do
  let heading := "[Errno " ++ (← number.text?) ++ "] " ++ (← description.text?)
  match files with
  | file :: rest =>
      if file.isNull then pure heading
      else
        let quotedFile ← file.nestedText?
        match rest with
        | [_, other] =>
            if other.isNull then pure (heading ++ ": " ++ quotedFile)
            else pure (heading ++ ": " ++ quotedFile ++ " -> " ++ (← other.nestedText?))
        | _ => pure (heading ++ ": " ++ quotedFile)
  | [] => pure heading

def codePointText (character : Char) : String :=
  let code := character.toNat
  String.ofList (
    if code < 0x100 then '\\' :: 'x' :: Text.hexText 2 code
    else if code < 0x10000 then '\\' :: 'u' :: Text.hexText 4 code
    else '\\' :: 'U' :: Text.hexText 8 code)

/-- A span of one character of the text names it; any other span names its ends. -/
def spanText (text : String) (start stop : Int) (reason : String) : String :=
  let single :=
    if start < 0 ∨ stop ≠ start + 1 then none
    else (text.toList[start.toNat]?).map codePointText
  let span :=
    match single with
    | some named => " '" ++ named ++ "' in position " ++ Text.decimal start
    | none =>
        "s in position " ++ Text.decimal start ++ "-" ++
          Text.decimal (Int.bmod (stop - 1) (Nat.pow 2 64))
  " character" ++ span ++ ": " ++ reason

def pointsBeforeText (error : Foreign) : Bool :=
  codingNames.contains error.name &&
    match error.arguments with
    | [_, _, start, stop, _] | [_, start, stop, _] =>
        match start.wholeNumber?, stop.wholeNumber? with
        | some first, some last => first < 0 && last == first + 1
        | _, _ => false
    | _ => false

def codingText? (arguments : List Value) : Option String :=
  match arguments with
  | [.string coding, .string text, start, stop, .string reason] => do
      let first ← start.wholeNumber?
      let last ← stop.wholeNumber?
      some ("'" ++ coding ++ "' codec can't encode" ++ spanText text first last reason)
  | [.string text, start, stop, .string reason] => do
      let first ← start.wholeNumber?
      let last ← stop.wholeNumber?
      some ("can't translate" ++ spanText text first last reason)
  | _ => none

def grammarMessage (error : Foreign) : Value := error.arguments.head?.getD .null

def place? (error : Foreign) : Option Place :=
  match error.arguments with
  | [_, details] => (placeOf details).toOption
  | _ => none

def baseName (file : String) : String :=
  String.ofList (file.toList.reverse.takeWhile (· != '/')).reverse

/-- A line number that does not fit 64 bits is written as one below zero. -/
def lineText (line : Int) : String :=
  Text.decimal (if -(Int.pow 2 63) ≤ line ∧ line < Int.pow 2 63 then line else -1)

/-- An error about grammar is worded by its first argument and by the file and the line, if it
names them. -/
def grammarText? (error : Foreign) : Option String := do
  let message ← error.grammarMessage.text?
  match error.place? with
  | some { file := .string file, line := .int line, .. } =>
      some (message ++ " (" ++ baseName file ++ ", line " ++ lineText line ++ ")")
  | some { file := .string file, .. } => some (message ++ " (" ++ baseName file ++ ")")
  | some { line := .int line, .. } => some (message ++ " (line " ++ lineText line ++ ")")
  | _ => some message

def text? (error : Foreign) : Option String :=
  if grammarNames.contains error.name then grammarText? error
  else if codingNames.contains error.name then codingText? error.arguments
  else
    match error.family, error.name, error.arguments with
    | .connectivity, _, number :: description :: files =>
        if hasSystemNumber error.arguments then systemText? number description files
        else argumentText? error.arguments
    | _, "KeyError", [only] => only.nestedText?
    | _, _, arguments => argumentText? arguments

end Teardown.Foreign
