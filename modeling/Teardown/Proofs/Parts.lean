import Teardown.Proofs.Visit

/-!
# The parts of visits

Many a property of attempts passes from the parts of a sequence to the whole. A visit has such a
property if what it is put together from has it: its requests, its records, and the way it gathers
the facts.
-/

namespace Teardown

set_option autoImplicit false

/-- A sequence of attempts has the property if its parts have it. -/
structure Attempt.Composes (Holds : (Result : Type) → Attempt Result → Prop) : Prop where
  pure : ∀ {Result : Type} (value : Result), Holds Result (Pure.pure value)
  bind : ∀ {First Second : Type} {attempt : Attempt First} {next : First → Attempt Second},
    Holds First attempt → (∀ value, Holds Second (next value)) → Holds Second (attempt >>= next)

namespace Strategy

/-- The property holds of what a failed fetch from the node is told with. -/
structure FetchParts (Holds : (Result : Type) → Attempt Result → Prop) (node : NodeId) : Prop
    extends Attempt.Composes Holds where
  nodeName : Holds String (Attempt.nodeName node)
  note : ∀ error name, Holds Unit (Attempt.perform (.noteNode error name))
  tell : ∀ name error, Holds Unit (Attempt.log (fetchRecord name error))

section Fetch

variable {Holds : (Result : Type) → Attempt Result → Prop} {node : NodeId}

theorem fetch_failed_holds (parts : FetchParts Holds node) (error : RetentionError)
    (identity : Option ErrorId) : Holds (Option Facts) (fetchFailed node error identity) := by
  apply parts.bind parts.nodeName
  intro name
  cases identity with
  | none =>
      apply parts.bind (parts.tell name (error.atNode name))
      exact fun _ => parts.pure none
  | some shared =>
      apply parts.bind (parts.note shared _)
      intro _
      apply parts.bind (parts.tell name (error.atNode name))
      exact fun _ => parts.pure none

theorem wrap_fetch_failure_holds (parts : FetchParts Holds node) (message reason : String) :
    Holds (Option Facts) (wrapFetchFailure node message reason) := by
  apply parts.bind parts.nodeName
  exact fun name => fetch_failed_holds parts _ none

theorem handle_fetch_failure_holds (parts : FetchParts Holds node)
    (ends : ∀ {Result : Type} (given : Except Failure Result), Holds Result (.ofExcept given))
    (asks : Holds Bool (Attempt.perform .cancelRequested)) (failure : Failure) :
    Holds (Option Facts) (handleFetchFailure node failure) := by
  unfold handleFetchFailure
  split
  · split
    · exact fetch_failed_holds parts _ _
    · exact ends (.error _)
  · split
    · apply parts.bind (ends _)
      exact fun text => wrap_fetch_failure_holds parts _ _
    · apply parts.bind asks
      intro requested
      split
      · exact ends (.error _)
      · exact wrap_fetch_failure_holds parts _ _
    · exact ends (.error _)
  · exact ends (.error _)

end Fetch

/-- The property holds of what an evaluation of the node is put together from. Only the facts are
gathered with a call for the uptime. -/
structure EvaluationParts (Holds : (Result : Type) → Attempt Result → Prop) (strategy : Strategy)
    (node : NodeId) : Prop extends Attempt.Composes Holds where
  call : ∀ method : NodeCall, method ≠ .uptime → Holds method.Answer (Attempt.call node method)
  nodeName : Holds String (Attempt.nodeName node)
  gather : Holds (Option Facts) (gatherFacts node)
  decide : ∀ facts, Holds Decision (Attempt.ofExcept (decideRetention strategy.policy facts))
  announce : ∀ name decision, Holds Unit (Attempt.log (announcementRecord name decision))

section Evaluation

variable {Holds : (Result : Type) → Attempt Result → Prop} {strategy : Strategy} {node : NodeId}

theorem terminate_holds (parts : EvaluationParts Holds strategy node) (decision : Decision) :
    Holds Decision (terminate node decision) := by
  apply parts.bind (parts.call .isProvisioned (by decide))
  intro provisioned
  cases provisioned with
  | false => exact parts.pure _
  | true =>
      apply parts.bind parts.nodeName
      intro name
      apply parts.bind (parts.announce name decision)
      intro _
      apply parts.bind (parts.call .teardown (by decide))
      exact fun _ => parts.pure decision

theorem act_holds (parts : EvaluationParts Holds strategy node) (facts : Facts) :
    Holds Decision (strategy.act node facts) := by
  apply parts.bind (parts.decide facts)
  intro decision
  split
  · exact terminate_holds parts decision
  · exact parts.pure decision

theorem evaluate_present_holds (parts : EvaluationParts Holds strategy node) :
    Holds Decision (strategy.evaluatePresent node) := by
  apply parts.bind (parts.call .isProvisioned (by decide))
  intro provisioned
  cases provisioned with
  -- A node that is gone fails the preconditions.
  | false => exact parts.pure _
  | true =>
      apply parts.bind (parts.call .isIdle (by decide))
      intro idle
      cases checked : checkPreconditions strategy.policy true idle strategy.evaluationDisabled with
      | some reason =>
          simp only [checked]
          exact parts.pure _
      | none =>
          simp only [checked]
          apply parts.bind parts.gather
          intro gathered
          cases gathered with
          | none => exact parts.pure _
          | some facts => exact act_holds parts facts

theorem evaluate_holds {visited : Option NodeId} (composes : Attempt.Composes Holds)
    (parts : ∀ present, visited = some present → EvaluationParts Holds strategy present) :
    Holds Decision (strategy.evaluate visited) := by
  cases visited with
  | none => exact composes.pure _
  | some present => exact evaluate_present_holds (parts present rfl)

end Evaluation

end Strategy

namespace Operation

open Strategy

/-- The property holds of what an operation on the node is put together from. Only operations that
can be skipped have to do with the guard. -/
structure Parts (Holds : (Result : Type) → Attempt Result → Prop) (operation : Operation)
    (strategy : Strategy) (node : Option NodeId) : Prop extends Attempt.Composes Holds where
  throw : ∀ {Result : Type} (failure : Failure), Holds Result (MonadExcept.throw failure)
  outcome : ∀ {Result : Type} {attempt : Attempt Result},
    Holds Result attempt → Holds (Except Failure Result) attempt.outcome
  nodeName : ∀ present, node = some present → Holds String (Attempt.nodeName present)
  evaluate : Holds Decision (strategy.evaluate node)
  connect : ∀ present, node = some present → Holds Unit (Attempt.call present (.connect false))
  enter : operation.skipResult ≠ none → Holds Bool (Attempt.perform (.enter strategy.guard))
  leave : operation.skipResult ≠ none → Holds Unit (Attempt.perform (.leave strategy.guard))
  skip : ∀ name, Holds Unit (Attempt.log (skipRecord name))
  report : ∀ name failure text, Holds Unit (Attempt.log (failureRecord name failure text))
  start : ∀ name, Holds Unit (Attempt.log (startRecord name))

variable {Holds : (Result : Type) → Attempt Result → Prop} {operation : Operation}
  {strategy : Strategy} {node : Option NodeId}

theorem Parts.ofExcept (parts : operation.Parts Holds strategy node) {Result : Type}
    (given : Except Failure Result) : Holds Result (Attempt.ofExcept given) := by
  cases given with
  | error failure => exact parts.throw failure
  | ok value => exact parts.pure value

theorem Parts.nameOf (parts : operation.Parts Holds strategy node) :
    Holds (Option String) (nameOf node) := by
  cases node with
  | none => exact parts.pure none
  | some present =>
      apply parts.bind (parts.nodeName present rfl)
      exact fun name => parts.pure (some name)

theorem Parts.tryEvaluate (parts : operation.Parts Holds strategy node)
    (guarded : operation.skipResult ≠ none) : Holds Outcome (strategy.tryEvaluate node) := by
  apply parts.bind parts.nameOf
  intro name
  apply parts.bind (parts.enter guarded)
  intro entered
  cases entered with
  | false =>
      apply parts.bind (parts.skip name)
      exact fun _ => parts.pure Outcome.skipped
  | true =>
      apply parts.bind (parts.outcome parts.evaluate)
      intro result
      apply parts.bind (parts.leave guarded)
      intro _
      apply parts.bind (parts.ofExcept result)
      exact fun decision => parts.pure (Outcome.evaluated decision)

theorem Parts.reportFailure (parts : operation.Parts Holds strategy node) (failure : Failure) :
    Holds Unit (reportFailure node failure) := by
  unfold Strategy.reportFailure
  split
  · apply parts.bind parts.nameOf
    intro name
    apply parts.bind (parts.ofExcept failure.text)
    exact fun text => parts.report name failure text
  · exact parts.throw failure

theorem Parts.check (parts : operation.Parts Holds strategy node)
    (guarded : operation.skipResult ≠ none) : Holds Nat (strategy.check node) := by
  apply parts.bind (parts.outcome (parts.tryEvaluate guarded))
  intro outcome
  cases outcome with
  | ok known => exact parts.pure recheckMinutes
  | error failure =>
      apply parts.bind (parts.reportFailure failure)
      exact fun _ => parts.pure recheckMinutes

theorem Parts.startNode (parts : operation.Parts Holds strategy node) :
    Holds Unit (Strategy.start node) := by
  cases node with
  | none => exact parts.throw .noNode
  | some present =>
      apply parts.bind (parts.nodeName present rfl)
      intro name
      apply parts.bind (parts.start name)
      exact fun _ => parts.connect present rfl

theorem attempt_holds (parts : operation.Parts Holds strategy node) :
    Holds CallResult (operation.attempt strategy node) := by
  cases operation with
  | check =>
      apply parts.bind (parts.check (by simp [skipResult]))
      exact fun minutes => parts.pure (CallResult.recheck minutes)
  | tryEvaluate =>
      apply parts.bind (parts.tryEvaluate (by simp [skipResult]))
      exact fun outcome => parts.pure (CallResult.outcome outcome)
  | evaluate =>
      apply parts.bind parts.evaluate
      exact fun decision => parts.pure (CallResult.decision decision)
  | start =>
      apply parts.bind parts.startNode
      exact fun _ => parts.pure CallResult.started

/-- An operation has nothing to do with the guards of others, and may have nothing to do with its
own. -/
theorem attempt_spares {guard : GuardId}
    (other : operation.skipResult = none ∨ strategy.guard ≠ guard) (node : Option NodeId) :
    (operation.attempt strategy node).Spares guard := by
  have logs : ∀ record, (Attempt.log record).Spares guard := fun record =>
    Attempt.spares_perform (by simp [Exchange.guard?])
  have free : operation.skipResult ≠ none → ∀ answer : Bool,
      Exchange.guard? ⟨.enter strategy.guard, answer⟩ ≠ some guard := by
    intro taken answer
    simpa [Exchange.guard?] using other.resolve_left taken
  exact attempt_holds {
    pure := Attempt.spares_pure guard
    bind := Attempt.spares_bind
    throw := Attempt.spares_throw guard
    outcome := Attempt.spares_outcome
    nodeName := fun present _ => Attempt.spares_perform (by simp [Exchange.guard?])
    evaluate := evaluate_spares guard strategy node
    connect := fun present _ => Attempt.spares_call guard present _
    enter := fun taken => Attempt.spares_perform (free taken)
    leave := fun taken => Attempt.spares_perform fun _ => free taken true
    skip := fun _ => logs _
    report := fun _ _ _ => logs _
    start := fun _ => logs _ }

end Operation

end Teardown
