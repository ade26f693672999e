import Teardown.Failure

/-!
# Attached values

A record says what failed with three things in a row: the kind of the failure, the failure and the
trace of calls that led to it. A stored value can stand for them only if it says that nothing
failed and that there is no trace.
-/

namespace Teardown.Log

set_option autoImplicit false

def element (value : Value) (index : Nat) : Except Failure Value :=
  match value with
  | .list items =>
      match items[index]? with
      | some item => .ok item
      | none => .error (.mismatch (.indexOutOfRange "list"))
  | .string text =>
      match text.toList[index]? with
      | some character => .ok (.string (String.singleton character))
      | none => .error (.mismatch (.indexOutOfRange "string"))
  | .mapping entries =>
      match entries.find? fun entry => Value.sameKey entry.1 (.int index) with
      | some (_, found) => .ok found
      | none => .error (.unknownKey (.int index))
  | other => .error (.mismatch (.notIndexable other.kindName))

/-- The text of an attached value; the trace is looked at before the failure. -/
def attachedText (value : Value) : Except Failure String := do
  let trace ← element value 2
  let _ ← element value 0
  let failure ← element value 1
  if !trace.isNull then throw (.mismatch (.missingProperty trace.kindName "tb_frame"))
  if !failure.isNull then
    throw (.mismatch (.missingProperty failure.kindName "__suppress_context__"))
  return "NoneType: None"

end Teardown.Log
