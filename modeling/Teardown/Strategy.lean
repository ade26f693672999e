import Teardown.Diagnostic
import Teardown.Policy.Snapshot
import Teardown.Program

/-!
# Strategies

A strategy watches over nodes with one policy. A visit evaluates a node once: it gathers the facts,
decides, and tears the node down when that is due. Of two visits of one strategy that overlap the
later one is skipped.
-/

namespace Teardown

set_option autoImplicit false

structure Strategy where
  policy : Policy
  evaluationDisabled : Bool
  guard : GuardId
  deriving DecidableEq, Repr

inductive Outcome where
  | skipped
  | evaluated (decision : Decision)
  deriving DecidableEq

namespace Strategy

def displayName : String := "Cloud"

def recheckMinutes : Nat := 1

def loggerName : String := "node_retention.services.retention_strategy"

def guardLoggerName : String := "node_retention.services.evaluation_guard"

/-- A fetch that failed is logged, not passed on. An error without a node takes the name of the
node at hand, and keeps it. -/
def fetchFailed (node : NodeId) (error : RetentionError) (identity : Option ErrorId) :
    Attempt (Option Facts) := do
  let name ← Attempt.nodeName node
  let known := error.context.nodeName.getD ""
  let noted := if known.isEmpty then name else known
  match identity with
  | some shared => Attempt.perform (.noteNode shared noted)
  | none => pure ()
  let context := { error.context with nodeName := some noted }
  Attempt.log {
    logger := loggerName
    level := Log.debugLevel
    template := "Exception while checking host uptime for " ++ name ++
      ", will retry next check: " ++ error.message
    fields := { error with context := context }.logFields }
  return none

def wrapFetchFailure (node : NodeId) (message reason : String) : Attempt (Option Facts) := do
  let name ← Attempt.nodeName node
  fetchFailed node (.factFetch message reason { nodeName := some name }) none

/-- Fetch errors, broken connections and a fetch that was broken off mean that there are no facts
this time. A cancellation counts as such a fetch only while nobody asked the caller to stop. -/
def handleFetchFailure (node : NodeId) (failure : Failure) : Attempt (Option Facts) :=
  match failure with
  | .retention error identity =>
      if error.isFactFetch then fetchFailed node error identity else throw failure
  | .foreign error =>
      match error.family with
      | .connectivity => do
          let text ← Attempt.ofExcept failure.text
          wrapFetchFailure node (if text.isEmpty then error.name else text)
            (if error.isTimeout then "timeout" else "io_error")
      | .cancellation => do
          if ← Attempt.perform .cancelRequested then throw failure
          else wrapFetchFailure node "uptime request cancelled" "interrupted"
      | _ => throw failure
  | _ => throw failure

def gatherFacts (node : NodeId) : Attempt (Option Facts) := do
  match ← (Attempt.call node .uptime).outcome with
  | .error failure => handleFetchFailure node failure
  | .ok uptime =>
      let isOffline ← Attempt.call node .isOffline
      let running ← Attempt.call node .running
      let idle ← Attempt.call node .idle
      return some { isOffline := isOffline, uptime := uptime, running := running, idle := idle }

/-- Announces and makes the teardown, unless the node is gone by now. -/
def terminate (node : NodeId) (decision : Decision) : Attempt Decision := do
  if ← Attempt.call node .isProvisioned then
    let name ← Attempt.nodeName node
    Attempt.log {
      logger := loggerName
      level := Log.infoLevel
      template := decision.announcement name
      fields := decision.logFields name }
    Attempt.call node .teardown
    return decision
  else return .noAction .nodeAbsent

def act (strategy : Strategy) (node : NodeId) (facts : Facts) : Attempt Decision := do
  let decision ← Attempt.ofExcept (decideRetention strategy.policy facts)
  if decision.shouldTerminate then terminate node decision else return decision

def evaluatePresent (strategy : Strategy) (node : NodeId) : Attempt Decision := do
  let provisioned ← Attempt.call node .isProvisioned
  let idle ← if provisioned then Attempt.call node .isIdle else pure false
  match checkPreconditions strategy.policy provisioned idle strategy.evaluationDisabled with
  | some reason => return .noAction reason
  | none =>
      match ← gatherFacts node with
      | none => return .noAction .fetchFailed
      | some facts => strategy.act node facts

def evaluate (strategy : Strategy) (node : Option NodeId) : Attempt Decision :=
  match node with
  | some present => strategy.evaluatePresent present
  | none => return .noAction .nodeAbsent

def nameOf (node : Option NodeId) : Attempt (Option String) :=
  match node with
  | some present => do return some (← Attempt.nodeName present)
  | none => return none

def nameField (name : Option String) : List (String × Value) :=
  [("node_name", (name.map Value.string).getD .null)]

/-- Runs an evaluation if nobody holds the guard, and gives the guard back however it ends. -/
def guarded (guard : GuardId) (name : Option String) (evaluation : Attempt Decision) :
    Attempt Outcome := do
  if ← Attempt.perform (.enter guard) then
    let result ← evaluation.outcome
    Attempt.perform (.leave guard)
    return .evaluated (← Attempt.ofExcept result)
  else
    Attempt.log {
      logger := guardLoggerName
      level := Log.debugLevel
      template := "Evaluation already in progress, skipping"
      fields := nameField name }
    return .skipped

def tryEvaluate (strategy : Strategy) (node : Option NodeId) : Attempt Outcome := do
  let name ← nameOf node
  guarded strategy.guard name (strategy.evaluate node)

def reportFailure (node : Option NodeId) (failure : Failure) : Attempt Unit := do
  if failure.isOrdinary then
    let name ← nameOf node
    let text ← Attempt.ofExcept failure.text
    Attempt.log {
      logger := loggerName
      level := Log.errorLevel
      template := "Retention check failed for " ++ name.getD "None" ++ ": " ++ text
      fields := nameField name
      failure := some failure }
  else throw failure

/-- The periodic visit; it says when to check again. -/
def check (strategy : Strategy) (node : Option NodeId) : Attempt Nat := do
  match ← (strategy.tryEvaluate node).outcome with
  | .ok _ => return recheckMinutes
  | .error failure => do
      reportFailure node failure
      return recheckMinutes

def start (node : Option NodeId) : Attempt Unit :=
  match node with
  | none => throw .noNode
  | some present => do
      let name ← Attempt.nodeName present
      Attempt.log {
        logger := loggerName
        level := Log.infoLevel
        template := "Start requested for " ++ name
        fields := [("node_name", .string name)] }
      Attempt.call present (.connect false)

end Strategy

end Teardown
