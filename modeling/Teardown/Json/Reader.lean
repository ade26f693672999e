import Teardown.Value

/-!
# Reading JSON

JSON whose numbers are whole. Members keep the order in which they stand.
-/

namespace Teardown.Json

set_option autoImplicit false

def isSpace (character : Char) : Bool :=
  character == ' ' || character == '\n' || character == '\r' || character == '\t'

def skipSpace (characters : List Char) : List Char :=
  characters.dropWhile isSpace

def fourHex? (first second third fourth : Char) : Option Nat :=
  match Text.hexValue? first, Text.hexValue? second,
      Text.hexValue? third, Text.hexValue? fourth with
  | some a, some b, some c, some d => some (((a * 16 + b) * 16 + c) * 16 + d)
  | _, _, _, _ => none

def isHighSurrogate (code : Nat) : Bool := 0xD800 ≤ code && code < 0xDC00

def isLowSurrogate (code : Nat) : Bool := 0xDC00 ≤ code && code < 0xE000

def escapeTarget? (character : Char) : Option Char :=
  if character = '"' ∨ character = '\\' ∨ character = '/' then some character
  else if character = 'n' then some '\n'
  else if character = 'r' then some '\r'
  else if character = 't' then some '\t'
  else if character = 'b' then some '\x08'
  else if character = 'f' then some '\x0c'
  else none

def readString? : List Char → Option (List Char × List Char)
  | [] => none
  | '"' :: rest => some ([], rest)
  | '\\' :: 'u' :: a :: b :: c :: d :: '\\' :: 'u' :: e :: f :: g :: h :: rest =>
      match fourHex? a b c d, fourHex? e f g h with
      | some code, some next =>
          if isHighSurrogate code && isLowSurrogate next then
            let whole := 0x10000 + (code - 0xD800) * 0x400 + (next - 0xDC00)
            (readString? rest).map fun (text, after) => (Char.ofNat whole :: text, after)
          else if isHighSurrogate code || isLowSurrogate code then none
          else (readString? ('\\' :: 'u' :: e :: f :: g :: h :: rest)).map
            fun (text, after) => (Char.ofNat code :: text, after)
      | _, _ => none
  | '\\' :: 'u' :: a :: b :: c :: d :: rest =>
      match fourHex? a b c d with
      | some code =>
          if isHighSurrogate code || isLowSurrogate code then none
          else (readString? rest).map fun (text, after) => (Char.ofNat code :: text, after)
      | none => none
  | '\\' :: character :: rest =>
      match escapeTarget? character with
      | some target => (readString? rest).map fun (text, after) => (target :: text, after)
      | none => none
  | character :: rest =>
      if character = '\\' ∨ character.toNat < 0x20 then none
      else (readString? rest).map fun (text, after) => (character :: text, after)

def readNumber? : List Char → Option (Int × List Char)
  | '-' :: rest => (Text.leadingNumber? rest).map fun (number, after) => (-(number : Int), after)
  | characters =>
      (Text.leadingNumber? characters).map fun (number, after) => ((number : Int), after)

mutual

/-- Reads a value; each level of nesting and each element takes one step of `fuel`. -/
def readValue? : Nat → List Char → Option (Value × List Char)
  | 0, _ => none
  | fuel + 1, characters =>
      match skipSpace characters with
      | '"' :: rest =>
          (readString? rest).map fun (text, after) => (.string (String.ofList text), after)
      | '[' :: rest =>
          match skipSpace rest with
          | ']' :: after => some (.list [], after)
          | items => (readItems? fuel items).map fun (values, after) => (.list values, after)
      | '\x7b' :: rest =>
          match skipSpace rest with
          | '\x7d' :: after => some (.mapping [], after)
          | members =>
              (readMembers? fuel members).map fun (entries, after) => (.mapping entries, after)
      | 'n' :: 'u' :: 'l' :: 'l' :: after => some (.null, after)
      | 't' :: 'r' :: 'u' :: 'e' :: after => some (.bool true, after)
      | 'f' :: 'a' :: 'l' :: 's' :: 'e' :: after => some (.bool false, after)
      | other => (readNumber? other).map fun (number, after) => (.int number, after)

def readItems? : Nat → List Char → Option (List Value × List Char)
  | 0, _ => none
  | fuel + 1, characters =>
      match readValue? fuel characters with
      | none => none
      | some (value, rest) =>
          match skipSpace rest with
          | ']' :: after => some ([value], after)
          | ',' :: next =>
              (readItems? fuel next).map fun (values, after) => (value :: values, after)
          | _ => none

def readMembers? : Nat → List Char → Option (List (Value × Value) × List Char)
  | 0, _ => none
  | fuel + 1, characters =>
      match skipSpace characters with
      | '"' :: rest =>
          match readString? rest with
          | none => none
          | some (name, afterName) =>
              match skipSpace afterName with
              | ':' :: afterColon =>
                  match readValue? fuel afterColon with
                  | none => none
                  | some (value, afterValue) =>
                      let entry := (Value.string (String.ofList name), value)
                      match skipSpace afterValue with
                      | '\x7d' :: after => some ([entry], after)
                      | ',' :: next =>
                          (readMembers? fuel next).map fun (entries, after) =>
                            (entry :: entries, after)
                      | _ => none
              | _ => none
      | _ => none

end

/-- The value that the whole text stands for. -/
def read? (text : String) : Option Value :=
  let characters := text.toList
  match readValue? (characters.length + 1) characters with
  | some (value, rest) => if (skipSpace rest).isEmpty then some value else none
  | none => none

end Teardown.Json
