import Teardown.Policy.Config

/-!
# Policy snapshots

A snapshot is a mapping with the two numbers of minutes. Reading one takes any mapping: a number is
read through its text, and a missing one turns its condition off.
-/

namespace Teardown.Policy

set_option autoImplicit false

def toSnapshot (policy : Policy) : List (Value × Value) :=
  [ (.string idleField, .int policy.idleMinutes),
    (.string cycleField, .int policy.cycleMinutes) ]

def storedText (value : Option Value) : Except Failure (Option String) :=
  match value with
  | none | some .null => .ok none
  | some stored => (wording stored).map some

def ofSnapshot (entries : Option (List (Value × Value))) :
    Except Failure (Policy × List MalformedMinutes) :=
  match entries with
  | none | some [] => .ok (⟨0, 0⟩, [])
  | some stored => do
      let idle ← storedText (Value.lookup? stored idleField)
      let cycle ← storedText (Value.lookup? stored cycleField)
      return parseConfig idle cycle

/-- The policy of any stored value: what counts as absent turns both conditions off, and nothing
else but a mapping can be read. -/
def ofStored (stored : Value) : Except Failure (Policy × List MalformedMinutes) :=
  match stored with
  | .mapping entries => ofSnapshot (some entries)
  | other =>
      if other.isPresent then .error (.mismatch (.missingProperty other.kindName "get"))
      else ofSnapshot none

end Teardown.Policy
