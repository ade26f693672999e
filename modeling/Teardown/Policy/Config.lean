import Teardown.Policy
import Teardown.Text.Blank

/-!
# Policies from configuration texts

Two free texts give a policy, and no text is refused: a blank one turns its condition off, a
malformed one stands for a default and is reported. A negative number of idle minutes is an older
spelling of minutes before the billing boundary.
-/

namespace Teardown.Policy

set_option autoImplicit false

def defaultMinutes : Int := 15

structure MalformedMinutes where
  field : String
  raw : String
  deriving DecidableEq, Repr

def MalformedMinutes.text (warning : MalformedMinutes) : String :=
  "Malformed " ++ warning.field ++ " value: " ++ Text.quoted warning.raw ++
    ", using default of " ++ Text.decimal defaultMinutes ++ " minutes"

def configText (value : Value) : Except Failure (Option String) :=
  match value with
  | .null => .ok none
  | .string text => .ok (some text)
  | other => .error (.mismatch (.missingProperty other.kindName "strip"))

/-- The minutes that a text stands for, with their sign, and the report if it is malformed. -/
def parseMinutes (raw : Option String) (field : String) : Int × Option MalformedMinutes :=
  match raw with
  | none => (0, none)
  | some text =>
      let characters := Text.stripped text.toList
      if characters.isEmpty then (0, none)
      else
        match Text.readNumeral? characters with
        | some minutes => (minutes, none)
        | none => (defaultMinutes, some ⟨field, text⟩)

/-- The sign of the cycle minutes does not matter. Negative idle minutes replace the cycle minutes
and turn the idle condition off. -/
def normalize (idle cycle : Int) : Policy :=
  if idle < 0 then ⟨0, idle.natAbs⟩ else ⟨idle.natAbs, cycle.natAbs⟩

def parseConfig (idleRaw cycleRaw : Option String) : Policy × List MalformedMinutes :=
  let (idle, idleWarning) := parseMinutes idleRaw idleField
  let (cycle, cycleWarning) := parseMinutes cycleRaw cycleField
  (normalize idle cycle, idleWarning.toList ++ cycleWarning.toList)

end Teardown.Policy
