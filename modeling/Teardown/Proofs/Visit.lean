import Teardown.Proofs.Guard

/-!
# The shape of visits

Every visit that takes the guard has one shape: it reads the node's name and tries to enter. Let in,
it evaluates, leaves, and settles what came of it; refused, it logs that it was skipped. The
operations differ in how they settle only. The records that a visit may log are here as well.
-/

namespace Teardown

set_option autoImplicit false

/-- An error that knows no node takes the name of the one at hand. -/
def RetentionError.atNode (error : RetentionError) (name : String) : RetentionError :=
  let known := error.context.nodeName.getD ""
  { error with context :=
    { error.context with nodeName := some (if known.isEmpty then name else known) } }

namespace Strategy

variable {Result First Second : Type}

def fetchRecord (name : String) (error : RetentionError) : Log.Record where
  logger := loggerName
  level := Log.debugLevel
  template := "Exception while checking host uptime for " ++ name ++
    ", will retry next check: " ++ error.message
  fields := error.logFields

def skipRecord (name : Option String) : Log.Record where
  logger := guardLoggerName
  level := Log.debugLevel
  template := "Evaluation already in progress, skipping"
  fields := nameField name

def failureRecord (name : Option String) (failure : Failure) (text : String) : Log.Record where
  logger := loggerName
  level := Log.errorLevel
  template := "Retention check failed for " ++ name.getD "None" ++ ": " ++ text
  fields := nameField name
  failure := some failure

def startRecord (name : String) : Log.Record where
  logger := loggerName
  level := Log.infoLevel
  template := "Start requested for " ++ name
  fields := [("node_name", .string name)]

def entering (strategy : Strategy) (node : Option NodeId)
    (settle : Except Failure Decision → Program Result) (skipped : Result)
    (name : Option String) (entered : Bool) : Program Result :=
  if entered then
    (strategy.evaluate node).run.bind fun result =>
      .ask (.leave strategy.guard) fun _ => settle result
  else .ask (.log (skipRecord name)) fun _ => .done skipped

/-- A visit that takes the guard, from its start. -/
def enclosed (strategy : Strategy) (node : Option NodeId)
    (settle : Except Failure Decision → Program Result) (skipped : Result) : Program Result :=
  match node with
  | none => .ask (.enter strategy.guard) (strategy.entering node settle skipped none)
  | some present =>
      .ask (.nodeName present) fun name =>
        .ask (.enter strategy.guard) (strategy.entering node settle skipped (some name))

theorem entering_bind (strategy : Strategy) (node : Option NodeId)
    (settle : Except Failure Decision → Program First) {skipped : First} (ended : Second)
    {next : First → Program Second} (same : next skipped = .done ended) (name : Option String)
    (entered : Bool) :
    (strategy.entering node settle skipped name entered).bind next =
      strategy.entering node (fun result => (settle result).bind next) ended name entered := by
  cases entered with
  | true => exact Program.bind_assoc _ _ _
  | false =>
      simp only [entering, Bool.false_eq_true, if_false, Program.bind, same]

theorem enclosed_bind (strategy : Strategy) (node : Option NodeId)
    (settle : Except Failure Decision → Program First) {skipped : First} (ended : Second)
    {next : First → Program Second} (same : next skipped = .done ended) :
    (strategy.enclosed node settle skipped).bind next =
      strategy.enclosed node (fun result => (settle result).bind next) ended := by
  cases node with
  | none =>
      simp only [enclosed, Program.bind, entering_bind _ _ _ _ same]
  | some present =>
      simp only [enclosed, Program.bind, entering_bind _ _ _ _ same]

theorem guarded_run (strategy : Strategy) (node : Option NodeId) (name : Option String) :
    (guarded strategy.guard name (strategy.evaluate node)).run =
      .ask (.enter strategy.guard) (strategy.entering node
        (fun result => .done (result.map .evaluated)) (.ok .skipped) name) := by
  change Program.ask _ _ = _
  congr 1
  funext entered
  cases entered with
  | false => rfl
  | true =>
      refine (Attempt.run_outcome_bind _ _).trans ?_
      congr 1
      funext result
      cases result <;> rfl

theorem try_evaluate_run (strategy : Strategy) (node : Option NodeId) :
    (strategy.tryEvaluate node).run =
      strategy.enclosed node (fun result => .done (result.map .evaluated)) (.ok .skipped) := by
  cases node with
  | none => exact guarded_run strategy none none
  | some present =>
      change Program.ask _ _ = _
      rw [enclosed]
      congr 1
      funext name
      exact guarded_run strategy (some present) (some name)

def checked (node : Option NodeId) : Except Failure Decision → Program (Except Failure Nat)
  | .ok _ => .done (.ok recheckMinutes)
  | .error failure => Attempt.run do
      reportFailure node failure
      return recheckMinutes

theorem check_run (strategy : Strategy) (node : Option NodeId) :
    (strategy.check node).run = strategy.enclosed node (checked node) (.ok recheckMinutes) := by
  refine (Attempt.run_outcome_bind _ _).trans ?_
  rw [try_evaluate_run, enclosed_bind _ _ _ (.ok recheckMinutes)]
  · congr 1
    funext result
    cases result <;> rfl
  · rfl

end Strategy

namespace Operation

/-- What an operation makes of the result of its evaluation. -/
def settle (node : Option NodeId) (result : Except Failure Decision) :
    Operation → Program (Except Failure CallResult)
  | .evaluate => .done (result.map .decision)
  | .tryEvaluate => .done (result.map fun decision => .outcome (.evaluated decision))
  | .check => (Strategy.checked node result).bind fun minutes => .done (minutes.map .recheck)
  | .start => .done (.ok .started)

theorem evaluate_run (strategy : Strategy) (node : Option NodeId) :
    (attempt .evaluate strategy node).run =
      (strategy.evaluate node).run.bind fun result => settle node result .evaluate := by
  change Program.bind _ _ = _
  congr 1
  funext result
  cases result <;> rfl

/-- All visits that take the guard have the same shape. -/
theorem attempt_run_of_guarded {operation : Operation} {skipped : CallResult}
    (known : operation.skipResult = some skipped) (strategy : Strategy) (node : Option NodeId) :
    (operation.attempt strategy node).run =
      strategy.enclosed node (fun result => operation.settle node result) (.ok skipped) := by
  cases operation with
  | evaluate => cases known
  | start => cases known
  | tryEvaluate =>
      cases known
      change (strategy.tryEvaluate node).run.bind _ = _
      rw [Strategy.try_evaluate_run, Strategy.enclosed_bind _ _ _ (.ok (.outcome .skipped))]
      · congr 1
        funext result
        cases result <;> rfl
      · rfl
  | check =>
      cases known
      change (strategy.check node).run.bind _ = _
      rw [Strategy.check_run,
        Strategy.enclosed_bind _ _ _ (.ok (.recheck Strategy.recheckMinutes))]
      · congr 1
        funext result
        rw [settle]
        congr 1
        funext minutes
        cases minutes <;> rfl
      · rfl

end Operation

end Teardown
