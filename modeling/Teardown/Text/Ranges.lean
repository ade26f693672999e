/-!
# Ranges of characters

A property of characters given by the ranges of the code points that have it.
-/

namespace Teardown.Text

set_option autoImplicit false

/-- Both ends of a range belong to it. -/
def inRanges (ranges : List (Nat × Nat)) (character : Char) : Bool :=
  ranges.any fun (first, last) => first ≤ character.toNat && character.toNat ≤ last

end Teardown.Text
