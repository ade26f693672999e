import Teardown.Policy

/-!
# Decisions

Whether a node is torn down, and why or why not. A visit first checks what needs no facts; the
facts then decide: the grace of a booting node comes before everything, and of the enabled
conditions every one must have elapsed.
-/

namespace Teardown

set_option autoImplicit false

inductive Trigger where
  | idle
  | cycle
  | idleAndCycle
  deriving DecidableEq, Repr

namespace Trigger

def text : Trigger → String
  | .idle => "idle"
  | .cycle => "cycle"
  | .idleAndCycle => "idle_and_cycle"

def all : List Trigger := [.idle, .cycle, .idleAndCycle]

def read (value : Value) : Except Failure Trigger :=
  readWord "TerminationTrigger" all text value

end Trigger

inductive SkipReason where
  | nodeAbsent
  | policyDisabled
  | notIdle
  | evaluationDisabled
  | fetchFailed
  | startupGrace
  | conditionsNotMet
  deriving DecidableEq, Repr

namespace SkipReason

def text : SkipReason → String
  | .nodeAbsent => "node_absent"
  | .policyDisabled => "policy_disabled"
  | .notIdle => "not_idle"
  | .evaluationDisabled => "evaluation_disabled"
  | .fetchFailed => "fetch_failed"
  | .startupGrace => "startup_grace"
  | .conditionsNotMet => "conditions_not_met"

def all : List SkipReason :=
  [ .nodeAbsent, .policyDisabled, .notIdle, .evaluationDisabled, .fetchFailed, .startupGrace,
    .conditionsNotMet ]

def read (value : Value) : Except Failure SkipReason :=
  readWord "SkipReason" all text value

end SkipReason

inductive DecisionKind where
  | noAction
  | terminate
  deriving DecidableEq, Repr

namespace DecisionKind

def text : DecisionKind → String
  | .noAction => "no_action"
  | .terminate => "terminate"

def all : List DecisionKind := [.noAction, .terminate]

def read (value : Value) : Except Failure DecisionKind :=
  readWord "DecisionKind" all text value

end DecisionKind

structure Facts where
  isOffline : Bool
  uptime : Duration
  running : Duration
  idle : Duration
  deriving DecidableEq

/-- The durations are reported of the enabled conditions only. -/
structure Decision where
  kind : DecisionKind
  trigger : Option Trigger := none
  skipReason : Option SkipReason := none
  idleDuration : Option Duration := none
  cycleRemaining : Option Duration := none
  deriving DecidableEq

namespace Decision

def noAction (reason : SkipReason) : Decision where
  kind := .noAction
  skipReason := some reason

def shouldTerminate (decision : Decision) : Bool := decision.kind == .terminate

end Decision

def checkPresent (nodePresent : Bool) : Option SkipReason :=
  if nodePresent then none else some .nodeAbsent

def checkEnabled (policy : Policy) : Option SkipReason :=
  if policy.neverTerminates then some .policyDisabled else none

def checkIdle (nodeIdle evaluationDisabled : Bool) : Option SkipReason :=
  if !nodeIdle then some .notIdle
  else if evaluationDisabled then some .evaluationDisabled
  else none

def checkPreconditions (policy : Policy) (nodePresent nodeIdle evaluationDisabled : Bool) :
    Option SkipReason :=
  (checkPresent nodePresent).orElse fun _ =>
    (checkEnabled policy).orElse fun _ => checkIdle nodeIdle evaluationDisabled

/-- The age below which an unreachable node counts as booting. -/
def startupTimeout : Duration := .minutes30

def billingCycle : Duration := .hour

theorem billingCycle_ne_zero : billingCycle.micros ≠ 0 := by decide

def checkStartupGrace (facts : Facts) : Option SkipReason :=
  if facts.isOffline ∧ facts.uptime < startupTimeout then some .startupGrace else none

/-- The time left to the next billing boundary of a cycle of any length but zero. -/
def cycleRemaining (uptime cycle : Duration) : Except Failure Duration :=
  if nonzero : cycle.micros ≠ 0 then .ok (uptime.untilMultiple cycle nonzero)
  else .error .zeroDivisor

def billingRemaining (uptime : Duration) : Duration :=
  uptime.untilMultiple billingCycle billingCycle_ne_zero

theorem cycleRemaining_billingCycle (uptime : Duration) :
    cycleRemaining uptime billingCycle = .ok (billingRemaining uptime) := by
  simp [cycleRemaining, billingCycle_ne_zero, billingRemaining]

/-- The idle time is trusted only of a node that has been running for at least as long. -/
def idleElapsed (policy : Policy) (facts : Facts) : Except Failure Bool := do
  if !policy.idleEnabled then return false
  if facts.running < facts.idle then return false
  return decide ((← policy.idleTimeout) < facts.idle)

def cycleElapsed (policy : Policy) (remaining : Duration) : Except Failure Bool := do
  if !policy.cycleEnabled then return false
  return decide (remaining ≤ (← policy.cycleLead))

/-- The trigger that fires when every enabled condition has elapsed. -/
def triggerOf (idleEnabled cycleEnabled : Bool) : Option Trigger :=
  match idleEnabled, cycleEnabled with
  | true, true => some .idleAndCycle
  | true, false => some .idle
  | false, true => some .cycle
  | false, false => none

def selectTrigger (idleEnabled idleElapsed cycleEnabled cycleElapsed : Bool) : Option Trigger :=
  if (idleEnabled && !idleElapsed) || (cycleEnabled && !cycleElapsed) then none
  else triggerOf idleEnabled cycleEnabled

def decideRetention (policy : Policy) (facts : Facts) : Except Failure Decision := do
  match checkStartupGrace facts with
  | some reason => return .noAction reason
  | none =>
      let remaining := billingRemaining facts.uptime
      let idleDue ← idleElapsed policy facts
      let cycleDue ← cycleElapsed policy remaining
      match selectTrigger policy.idleEnabled idleDue policy.cycleEnabled cycleDue with
      | none => return .noAction .conditionsNotMet
      | some trigger =>
          return {
            kind := .terminate
            trigger := some trigger
            idleDuration := if policy.idleEnabled then some facts.idle else none
            cycleRemaining := if policy.cycleEnabled then some remaining else none }

end Teardown
