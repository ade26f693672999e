import Teardown.Policy.Config

/-!
# Node definitions

The part of a stored node definition that sets the policy: two texts, stripped of blanks. A
definition that is no mapping is refused, and so is a value without a text.
-/

namespace Teardown

set_option autoImplicit false

structure Definition where
  idleText : Option String
  cycleText : Option String
  deriving DecidableEq, Repr

namespace Definition

def fieldText (entries : List (Value × Value)) (field : String) :
    Except Issue (Option String) :=
  match Value.lookup? entries field with
  | none | some .null => .ok none
  | some stored =>
      match stored.text? with
      | some text => .ok (some (Text.strip text))
      | none => .error ⟨field, .numeralTooLong⟩

/-- Reads a definition; every refused field is reported, the idle one first. -/
def validate (stored : Value) : Except Failure Definition :=
  match stored with
  | .mapping entries =>
      match fieldText entries Policy.idleField, fieldText entries Policy.cycleField with
      | .ok idle, .ok cycle => .ok ⟨idle, cycle⟩
      | .error issue, .ok _ => .error (.refused [issue])
      | .ok _, .error issue => .error (.refused [issue])
      | .error issue, .error other => .error (.refused [issue, other])
  | _ => .error (.refused [⟨"", .notAMapping⟩])

def toPolicy (definition : Definition) : Policy × List Policy.MalformedMinutes :=
  Policy.parseConfig definition.idleText definition.cycleText

end Definition

end Teardown
