import Teardown.Decision

/-!
# Diagnostics

The line that announces a teardown and the log fields of a decision. Both report whole minutes.
-/

namespace Teardown.Decision

set_option autoImplicit false

def idleClause (duration : Duration) : String :=
  " after " ++ Text.decimal duration.wholeMinutes ++ " idle minutes"

def cycleClause (duration : Duration) : String :=
  " with " ++ Text.decimal duration.wholeMinutes ++ " minutes remaining in the billing cycle"

def announcement (decision : Decision) (nodeName : String) : String :=
  "Idle timeout of " ++ nodeName ++
    (decision.idleDuration.map idleClause).getD "" ++
    (decision.cycleRemaining.map cycleClause).getD ""

def minutesField (name : String) (duration : Option Duration) : List (String × Value) :=
  (duration.map fun reported => (name, Value.int reported.wholeMinutes)).toList

/-- Fields that a decision does not have are left out. -/
def logFields (decision : Decision) (nodeName : String) : List (String × Value) :=
  [("node_name", Value.string nodeName), ("decision", .string decision.kind.text)] ++
    (decision.trigger.map fun trigger => ("trigger", Value.string trigger.text)).toList ++
    (decision.skipReason.map fun reason => ("skip_reason", Value.string reason.text)).toList ++
    minutesField "idle_minutes" decision.idleDuration ++
    minutesField "cycle_remaining_minutes" decision.cycleRemaining

end Teardown.Decision
