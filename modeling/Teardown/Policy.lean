import Teardown.Failure

/-!
# Policies

A policy says after how many idle minutes a node may be torn down, and how many minutes before
the end of a billing cycle. Zero turns a condition off.
-/

namespace Teardown

set_option autoImplicit false

structure Policy where
  idleMinutes : Nat := 0
  cycleMinutes : Nat := 0
  deriving DecidableEq, Repr

namespace Policy

def idleField : String := "idle_termination_minutes"

def cycleField : String := "cycle_termination_minutes"

def refuse (field : String) (minutes : Value) : Except Failure Unit := do
  throw (.retention (← RetentionError.invalidPolicy field minutes) none)

theorem exists_refuse_eq_error (field : String) (minutes : Value) :
    ∃ failure, refuse field minutes = .error failure := by
  cases made : RetentionError.invalidPolicy field minutes with
  | ok error => exact ⟨.retention error none, by rw [refuse, made]; rfl⟩
  | error failure => exact ⟨failure, by rw [refuse, made]; rfl⟩

/-- A policy of the given minutes; the idle minutes are checked first. -/
def ofMinutes (idle cycle : Int) : Except Failure Policy := do
  if idle < 0 then refuse idleField (.int idle)
  if cycle < 0 then refuse cycleField (.int cycle)
  return ⟨idle.toNat, cycle.toNat⟩

theorem ofMinutes_natCast (idle cycle : Nat) :
    ofMinutes idle cycle = .ok ⟨idle, cycle⟩ := by
  have idleSign : ¬ (idle : Int) < 0 := by omega
  have cycleSign : ¬ (cycle : Int) < 0 := by omega
  simp [ofMinutes, idleSign, cycleSign, pure, Except.pure]

def idleEnabled (policy : Policy) : Bool := 0 < policy.idleMinutes

def cycleEnabled (policy : Policy) : Bool := 0 < policy.cycleMinutes

def neverTerminates (policy : Policy) : Bool := !(policy.idleEnabled || policy.cycleEnabled)

/-- The idle time that must be exceeded. -/
def idleTimeout (policy : Policy) : Except Failure Duration :=
  (Duration.ofMinutes policy.idleMinutes).mapError .daysOutOfRange

/-- The time before a billing boundary within which a node may be torn down. -/
def cycleLead (policy : Policy) : Except Failure Duration :=
  (Duration.ofMinutes policy.cycleMinutes).mapError .daysOutOfRange

end Policy

end Teardown
