/-!
# Blank characters

Blanks are the characters that do not count at either end of a text. `strip` removes them there
and nowhere else.
-/

namespace Teardown.Text

set_option autoImplicit false

def isBlank (character : Char) : Bool :=
  let code := character.toNat
  (0x09 ≤ code && code ≤ 0x0D) || (0x1C ≤ code && code ≤ 0x20) ||
    code == 0x85 || code == 0xA0 || code == 0x1680 ||
    (0x2000 ≤ code && code ≤ 0x200A) || code == 0x2028 || code == 0x2029 ||
    code == 0x202F || code == 0x205F || code == 0x3000

def dropTrailing (characters : List Char) : List Char :=
  (characters.reverse.dropWhile isBlank).reverse

def stripped (characters : List Char) : List Char :=
  dropTrailing (characters.dropWhile isBlank)

def strip (text : String) : String :=
  String.ofList (stripped text.toList)

theorem toList_strip (text : String) :
    (strip text).toList = stripped text.toList := by
  simp [strip]

end Teardown.Text
