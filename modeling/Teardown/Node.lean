import Teardown.Failure

/-!
# Nodes

What can be asked of a node. Three of the calls are answered by a remote side and may keep the
caller waiting; the others answer at once. Every call may fail.
-/

namespace Teardown

set_option autoImplicit false

abbrev NodeId := String

inductive NodeCall where
  | isProvisioned
  | isIdle
  | uptime
  | isOffline
  | running
  | idle
  | teardown
  | connect (force : Bool)
  deriving DecidableEq, Repr

namespace NodeCall

abbrev Answer : NodeCall → Type
  | isProvisioned | isIdle | isOffline => Bool
  | uptime | running | idle => Duration
  | teardown | connect _ => Unit

def mayWait : NodeCall → Bool
  | uptime | teardown | connect _ => true
  | _ => false

end NodeCall

end Teardown
