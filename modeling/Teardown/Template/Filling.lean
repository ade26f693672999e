import Teardown.Template.Conversion

/-!
# Filling templates

The directives of a template are replaced by the values that they stand for, from left to right. A
template takes as many values as it has directives.
-/

namespace Teardown.Template

set_option autoImplicit false

def directive (size : Nat) (characters : List Char) (supply : Supply) :
    Except Failure (Reading (List Char)) := do
  let read ← readLayout characters supply
  match read.rest with
  | [] => fault .incomplete
  | conversion :: rest => do
      let (value, left) ← take read.supply
      let piece ← piece read.result conversion (size - read.rest.length) value
      return ⟨← layOut read.result piece, rest, left⟩

/-- A second percent sign right after the first one stands for itself. A container may be left over
at the end, but not right after a directive. -/
def fillFrom (size : Nat) : Nat → List Char → Supply → Except Failure (List Char)
  | 0, _, _ => .ok []
  | _ + 1, [], supply =>
      if supply.values.isEmpty || supply.container.isSome then .ok [] else fault .tooManyValues
  | fuel + 1, '%' :: '%' :: rest, supply =>
      (fillFrom size fuel rest supply).map ('%' :: ·)
  | fuel + 1, '%' :: rest, supply => do
      let read ← directive size rest supply
      if read.supply.container.isSome && !read.supply.values.isEmpty then fault .tooManyValues
      else
        let after ← fillFrom size fuel read.rest read.supply
        return read.result ++ after
  | fuel + 1, character :: rest, supply => (fillFrom size fuel rest supply).map (character :: ·)

def fill (template : String) (supply : Supply) : Except Failure String :=
  let characters := template.toList
  (fillFrom characters.length (characters.length + 1) characters supply).map String.ofList

def Supply.ofValues (values : List Value) : Supply := { values := values }

def Supply.ofValue (value : Value) : Supply :=
  { values := [value], container := if value.isContainer then some value else none }

end Teardown.Template
