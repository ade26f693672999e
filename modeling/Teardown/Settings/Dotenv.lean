import Teardown.Text.Blank

/-!
# Settings files

A settings file holds lines of a name, an equals sign and a value. Values may stand in quotation
marks, in which backslashes escape, and may refer to earlier names and to the environment. A line
that cannot be read is passed over.
-/

namespace Teardown.Settings.Dotenv

set_option autoImplicit false

open Teardown.Text (isBlank stripped)

def unixLines : List Char → List Char
  | [] => []
  | '\r' :: '\n' :: rest => '\n' :: unixLines rest
  | '\r' :: rest => '\n' :: unixLines rest
  | character :: rest => character :: unixLines rest

def withoutMark (characters : List Char) : List Char :=
  match characters with
  | '\uFEFF' :: rest => rest
  | _ => characters

def isInlineBlank (character : Char) : Bool := isBlank character && character != '\n'

def skipInline (characters : List Char) : List Char := characters.dropWhile isInlineBlank

def restOfLine (characters : List Char) : List Char :=
  (characters.dropWhile (· != '\n')).drop 1

def skipExport (characters : List Char) : List Char :=
  match characters with
  | 'e' :: 'x' :: 'p' :: 'o' :: 'r' :: 't' :: blank :: rest =>
      if isInlineBlank blank then skipInline rest else characters
  | _ => characters

/-- What a reader step yields: its result, or failure, and the characters that are left. -/
structure Step (α : Type) where
  result : Option α
  rest : List Char

def readName (characters : List Char) : Step (Option String) :=
  match characters with
  | '#' :: _ => ⟨some none, characters⟩
  | '\x27' :: rest =>
      let name := rest.takeWhile (· != '\x27')
      match rest.dropWhile (· != '\x27') with
      | _ :: after =>
          if name.isEmpty then ⟨none, characters⟩ else ⟨some (some (String.ofList name)), after⟩
      | [] => ⟨none, characters⟩
  | _ =>
      let isNamePart (character : Char) : Bool :=
        character != '=' && character != '#' && !isBlank character
      let name := characters.takeWhile isNamePart
      if name.isEmpty then ⟨none, characters⟩
      else ⟨some (some (String.ofList name)), characters.dropWhile isNamePart⟩

/-- The characters up to the first mark that no backslash escapes, and what follows it. A backslash
and the character after it belong together, so an escaped backslash escapes nothing. -/
def quotedSpan? (mark : Char) : List Char → Option (List Char × List Char)
  | [] => none
  | '\\' :: next :: rest =>
      (quotedSpan? mark rest).map fun (text, after) => ('\\' :: next :: text, after)
  | character :: rest =>
      if character = mark then some ([], rest)
      else (quotedSpan? mark rest).map fun (text, after) => (character :: text, after)

def singleEscape? (character : Char) : Option Char :=
  if character = '\\' ∨ character = '\x27' then some character else none

def doubleEscape? (character : Char) : Option Char :=
  if character = '\\' ∨ character = '\x27' ∨ character = '"' then some character
  else if character = 'a' then some '\x07'
  else if character = 'b' then some '\x08'
  else if character = 'f' then some '\x0c'
  else if character = 'n' then some '\n'
  else if character = 'r' then some '\r'
  else if character = 't' then some '\t'
  else if character = 'v' then some '\x0b'
  else none

/-- Replaces the escapes; a backslash before any other character stays. -/
def unescape (escape? : Char → Option Char) : List Char → List Char
  | [] => []
  | '\\' :: next :: rest =>
      match escape? next with
      | some target => target :: unescape escape? rest
      | none => '\\' :: unescape escape? (next :: rest)
  | character :: rest => character :: unescape escape? rest

def dropComment : List Char → List Char
  | [] => []
  | character :: rest =>
      if isBlank character && (rest.dropWhile isBlank).head? == some '#' then []
      else character :: dropComment rest

/-- Reads what follows an equals sign. The blanks after the sign do not belong to the value, but
they can start a comment, and then the value is empty. -/
def readValue (characters : List Char) : Step String :=
  let start := skipInline characters
  match start with
  | '\x27' :: rest =>
      match quotedSpan? '\x27' rest with
      | some (text, after) => ⟨some (String.ofList (unescape singleEscape? text)), after⟩
      | none => ⟨none, start⟩
  | '"' :: rest =>
      match quotedSpan? '"' rest with
      | some (text, after) => ⟨some (String.ofList (unescape doubleEscape? text)), after⟩
      | none => ⟨none, start⟩
  | _ =>
      let line := characters.takeWhile (· != '\n')
      ⟨some (String.ofList (stripped (dropComment line))), characters.dropWhile (· != '\n')⟩

def readLineEnd (characters : List Char) : Step Unit :=
  let afterComment :=
    match skipInline characters with
    | '#' :: rest => rest.dropWhile (· != '\n')
    | _ => characters
  match skipInline afterComment with
  | [] => ⟨some (), []⟩
  | '\n' :: rest => ⟨some (), rest⟩
  | _ => ⟨none, afterComment⟩

/-- One name with its value, where a name without an equals sign has none. -/
abbrev Binding := String × Option String

def readLine (characters : List Char) : Step (Option Binding) :=
  let name := readName (skipExport characters)
  match name.result with
  | none => ⟨none, restOfLine name.rest⟩
  | some name? =>
      let value : Step (Option String) :=
        match skipInline name.rest with
        | '=' :: rest =>
            let read := readValue rest
            ⟨read.result.map some, read.rest⟩
        | rest => ⟨some none, rest⟩
      match value.result with
      | none => ⟨none, restOfLine value.rest⟩
      | some value? =>
          let lineEnd := readLineEnd value.rest
          match lineEnd.result with
          | none => ⟨none, restOfLine lineEnd.rest⟩
          | some () => ⟨some (name?.map (·, value?)), lineEnd.rest⟩

/-- Each line takes one step of `fuel`. -/
def readLines : Nat → List Char → List Binding
  | 0, _ => []
  | fuel + 1, characters =>
      match characters.dropWhile isBlank with
      | [] => []
      | start =>
          let line := readLine start
          (line.result.bind id).toList ++ readLines fuel line.rest

def bind (bindings : List Binding) (name : String) (value : Option String) : List Binding :=
  if bindings.any (·.1 == name) then
    bindings.map fun binding => if binding.1 == name then (name, value) else binding
  else bindings ++ [(name, value)]

/-- A reference in a value: a name in braces after a dollar sign, with a default after a colon and
a hyphen. -/
def readReference? (characters : List Char) : Option (String × String × List Char) :=
  let name := characters.takeWhile fun character => character != '\x7d' && character != ':'
  match characters.drop name.length with
  | '\x7d' :: after => some (String.ofList name, "", after)
  | ':' :: '-' :: rest =>
      let fallback := rest.takeWhile (· != '\x7d')
      match rest.drop fallback.length with
      | _ :: after => some (String.ofList name, String.ofList fallback, after)
      | [] => none
  | _ => none

def expand (meaning : String → String → String) : Nat → List Char → List Char
  | 0, characters => characters
  | _ + 1, [] => []
  | fuel + 1, '$' :: '\x7b' :: rest =>
      match readReference? rest with
      | some (name, fallback, after) =>
          (meaning name fallback).toList ++ expand meaning fuel after
      | none => '$' :: expand meaning fuel ('\x7b' :: rest)
  | fuel + 1, character :: rest => character :: expand meaning fuel rest

/-- A name means what the file last gave it, else what the environment gives it. -/
def meaning (environment : List (String × String)) (bindings : List Binding)
    (name fallback : String) : String :=
  match bindings.lookup name with
  | some value => value.getD ""
  | none => (environment.lookup name).getD fallback

def resolve (environment : List (String × String)) (bindings : List Binding)
    (binding : Binding) : List Binding :=
  let value := binding.2.map fun text =>
    let characters := text.toList
    String.ofList (expand (meaning environment bindings) characters.length characters)
  bind bindings binding.1 value

def read (environment : List (String × String)) (text : String) : List Binding :=
  let characters := unixLines (withoutMark text.toList)
  (readLines (characters.length + 1) characters).foldl (resolve environment) []

end Teardown.Settings.Dotenv
