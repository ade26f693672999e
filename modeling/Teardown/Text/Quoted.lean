import Teardown.Text.Hexadecimal
import Teardown.Text.Printable

/-!
# Quoted text

A text between quotation marks, with every character that would not print as itself escaped. The
mark is the single one, unless the text holds a single mark and no double one.
-/

namespace Teardown.Text

set_option autoImplicit false

def quotationMark (characters : List Char) : Char :=
  if characters.contains '\x27' && !characters.contains '"' then '"' else '\x27'

def quotedForm (mark character : Char) : List Char :=
  if character = mark ∨ character = '\\' then ['\\', character]
  else if character = '\n' then ['\\', 'n']
  else if character = '\r' then ['\\', 'r']
  else if character = '\t' then ['\\', 't']
  else if isPrintable character then [character]
  else if character.toNat < 0x100 then '\\' :: 'x' :: hexText 2 character.toNat
  else if character.toNat < 0x10000 then '\\' :: 'u' :: hexText 4 character.toNat
  else '\\' :: 'U' :: hexText 8 character.toNat

def quotedBody (mark : Char) (characters : List Char) : List Char :=
  characters.flatMap (quotedForm mark)

def quoted (text : String) : String :=
  let mark := quotationMark text.toList
  String.ofList (mark :: quotedBody mark text.toList ++ [mark])

end Teardown.Text
