import Teardown.Log.Excerpt

/-!
# Shown failures

How a log shows a failure: its qualified name and its text. An error about grammar comes after the
excerpt that it names.
-/

namespace Teardown.Log

set_option autoImplicit false

def noDetail : String := "<no detail available>"

def noText : String := "<exception str() failed>"

def shownGrammar (error : Foreign) : Except Failure String := do
  let (before, after) ←
    match error.place? with
    | some place => excerpt place
    | none => pure ("", "")
  let message ←
    if error.grammarMessage.isPresent then wording error.grammarMessage else pure noDetail
  return before ++ error.name ++ ": " ++ message ++ after

/-- A failure without a text is shown with words that say so. -/
def shownPlainly (failure : Failure) : String :=
  let text := failure.text.toOption.getD noText
  if text.isEmpty then failure.qualifiedName else failure.qualifiedName ++ ": " ++ text

def shown (failure : Failure) : Except Failure String :=
  match failure with
  | .foreign error =>
      if Foreign.grammarNames.contains error.name then shownGrammar error
      else .ok (shownPlainly failure)
  | _ => .ok (shownPlainly failure)

end Teardown.Log
