import Teardown.Settings

/-!
# Deployment settings

A deployment reads its settings once, when they are first asked for. A reading that fails is not
kept, and settings given explicitly neither use nor fill what is kept.
-/

namespace Teardown

set_option autoImplicit false

structure Deployment where
  environment : List (String × String) := []
  file : Option String := none
  cached : Option Settings := none

namespace Deployment

def load (deployment : Deployment) (given : List (String × Value)) : Except Failure Settings :=
  Settings.load { environment := deployment.environment, file := deployment.file, given := given }

/-- The kept settings, read now if none are kept. -/
def settings (deployment : Deployment) : Deployment × Except Failure Settings :=
  match deployment.cached with
  | some kept => (deployment, .ok kept)
  | none =>
      match deployment.load [] with
      | .ok loaded => ({ deployment with cached := some loaded }, .ok loaded)
      | .error failure => (deployment, .error failure)

def setEnvironment (deployment : Deployment) (environment : List (String × String)) : Deployment :=
  { deployment with environment := environment }

def forget (deployment : Deployment) : Deployment := { deployment with cached := none }

end Deployment

end Teardown
