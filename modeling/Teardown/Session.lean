import Teardown.Definition
import Teardown.Host
import Teardown.Deployment
import Teardown.Strategy

/-!
# Sessions

A session builds strategies from configurations, definitions, snapshots and other strategies, and
runs their visits as tasks of a host. Every strategy is built with a guard of its own, so a copy
never shares the guard of what it was copied from.
-/

namespace Teardown

set_option autoImplicit false

/-- What a call on a strategy comes to; a repeated one comes to the list of its results. -/
inductive CallResult where
  | recheck (minutes : Nat)
  | outcome (outcome : Outcome)
  | decision (decision : Decision)
  | started
  | repeated (results : List CallResult)

inductive Operation where
  | check
  | tryEvaluate
  | evaluate
  | start
  deriving DecidableEq, Repr

namespace Operation

def attempt (operation : Operation) (strategy : Strategy) (node : Option NodeId) :
    Attempt CallResult :=
  match operation with
  | .check => do return .recheck (← strategy.check node)
  | .tryEvaluate => do return .outcome (← strategy.tryEvaluate node)
  | .evaluate => do return .decision (← strategy.evaluate node)
  | .start => do
      Strategy.start node
      return .started

end Operation

namespace Attempt

def times {Result : Type} (attempt : Attempt Result) : Nat → Attempt (List Result)
  | 0 => return []
  | count + 1 => do
      let first ← attempt
      let rest ← attempt.times count
      return first :: rest

end Attempt

/-- Where a strategy's policy comes from. Settings given explicitly are read together with the
environment; without them the deployment settings count. A restored strategy goes through the
snapshot of another one and keeps nothing else of it, while a copy keeps all but the guard. -/
inductive Source where
  | minutes (idle cycle : Int) (disabled : Bool)
  | config (idle cycle : Option String) (settings : Option (List (String × Value)))
  | definition (stored : Value) (settings : Option (List (String × Value)))
  | snapshot (stored : Value) (settings : Option (List (String × Value)))
  | restored (strategy : String) (settings : Option (List (String × Value)))
  | copy (strategy : String)

structure Session (State : Type) where
  deployment : Deployment := {}
  host : Host State (Except Failure CallResult)
  strategies : List (String × Strategy) := []
  tasks : List (String × TaskId) := []
  guards : Nat := 0

inductive Status where
  | pending
  | cancelled
  | failed (name text : String)
  | done (result : CallResult)

namespace Session

variable {State : Type}

def strategy? (session : Session State) (id : String) : Except Failure Strategy :=
  match session.strategies.lookup id with
  | some strategy => .ok strategy
  | none => .error (.unknownKey (.string id))

def task? (session : Session State) (name : String) : Except Failure TaskId :=
  match session.tasks.lookup name with
  | some task => .ok task
  | none => .error (.unknownKey (.string name))

def logWarnings (session : Session State) (warnings : List Policy.MalformedMinutes) :
    Session State :=
  let world := warnings.foldl
    (fun world warning => world.log {
      logger := Strategy.loggerName
      level := Log.warningLevel
      template := warning.text })
    session.host.world
  { session with host := { session.host with world := world } }

def strategyOf (session : Session State) (policy : Policy) (disabled : Bool) :
    Session State × Strategy :=
  ({ session with guards := session.guards + 1 },
    { policy := policy, evaluationDisabled := disabled, guard := session.guards })

/-- The warnings are logged before the deployment settings are read. -/
def strategyFrom (session : Session State) (given : Option Settings)
    (parsed : Policy × List Policy.MalformedMinutes) : Session State × Except Failure Strategy :=
  let warned := session.logWarnings parsed.2
  match given with
  | some settings =>
      let (built, strategy) := warned.strategyOf parsed.1 settings.retentionDisabled
      (built, .ok strategy)
  | none =>
      let (deployment, settings) := warned.deployment.settings
      let read := { warned with deployment := deployment }
      match settings with
      | .error failure => (read, .error failure)
      | .ok settings =>
          let (built, strategy) := read.strategyOf parsed.1 settings.retentionDisabled
          (built, .ok strategy)

def givenSettings (session : Session State) (settings : Option (List (String × Value))) :
    Except Failure (Option Settings) :=
  match settings with
  | none => .ok none
  | some given => (session.deployment.load given).map some

/-- What a source yields before the deployment settings are consulted. -/
inductive Reading where
  | complete (policy : Policy) (disabled : Bool)
  | parsed (settings : Option Settings) (parsed : Policy × List Policy.MalformedMinutes)

def read (session : Session State) : Source → Except Failure Reading
  | .minutes idle cycle disabled => do return .complete (← Policy.ofMinutes idle cycle) disabled
  | .config idle cycle settings => do
      return .parsed (← session.givenSettings settings) (Policy.parseConfig idle cycle)
  | .definition stored settings => do
      let definition ← Definition.validate stored
      return .parsed (← session.givenSettings settings) definition.toPolicy
  | .snapshot stored settings => do
      let given ← session.givenSettings settings
      return .parsed given (← Policy.ofStored stored)
  | .restored id settings => do
      let strategy ← session.strategy? id
      let given ← session.givenSettings settings
      return .parsed given (← Policy.ofSnapshot (some strategy.policy.toSnapshot))
  | .copy id => do
      let strategy ← session.strategy? id
      return .complete strategy.policy strategy.evaluationDisabled

def construct (session : Session State) (source : Source) :
    Session State × Except Failure Strategy :=
  match session.read source with
  | .error failure => (session, .error failure)
  | .ok (.complete policy disabled) =>
      let (built, strategy) := session.strategyOf policy disabled
      (built, .ok strategy)
  | .ok (.parsed settings parsed) => session.strategyFrom settings parsed

/-- Builds a strategy under a name; a failure leaves the name with its former strategy. -/
def build (session : Session State) (id : String) (source : Source) :
    Session State × Except Failure Strategy :=
  match session.construct source with
  | (built, .ok strategy) =>
      ({ built with
          strategies := (id, strategy) :: built.strategies.filter fun entry => entry.1 != id },
        .ok strategy)
  | (built, .error failure) => (built, .error failure)

def status (session : Session State) (task : TaskId) : Except Failure Status :=
  match session.host.progress? task with
  | some (.finished (.ok result)) => .ok (.done result)
  | some (.finished (.error failure)) =>
      if failure.family = .cancellation then .ok .cancelled
      else failure.text.map (.failed failure.name)
  | _ => .ok .pending

def program (operation : Operation) (strategy : Strategy) (node : Option NodeId)
    (times : Option Nat) : Program (Except Failure CallResult) :=
  let attempt := operation.attempt strategy node
  match times with
  | none => attempt.run
  | some count => Attempt.run do return .repeated (← attempt.times count)

def launch (behaviour : Behaviour State) (session : Session State) (name : Option String)
    (threaded : Bool) (program : Program (Except Failure CallResult)) :
    Session State × TaskId :=
  let (host, task) := session.host.launch behaviour threaded program
  let tasks :=
    match name with
    | none => session.tasks
    | some known => (known, task) :: session.tasks.filter fun entry => entry.1 != known
  ({ session with host := host, tasks := tasks }, task)

def cancel (behaviour : Behaviour State) (session : Session State) (task : TaskId) :
    Session State :=
  { session with host := session.host.cancel behaviour task }

def settings (session : Session State) : Session State × Except Failure Settings :=
  let (deployment, settings) := session.deployment.settings
  ({ session with deployment := deployment }, settings)

def setEnvironment (session : Session State) (environment : List (String × String)) :
    Session State :=
  { session with deployment := session.deployment.setEnvironment environment }

def forgetSettings (session : Session State) : Session State :=
  { session with deployment := session.deployment.forget }

def locked (session : Session State) : List String :=
  ((session.strategies.filter fun entry =>
    session.host.world.held.contains entry.2.guard).map (·.1)).mergeSort

def clearOutput (session : Session State) : Session State :=
  let world := { session.host.world with journal := [], calls := [] }
  { session with host := { session.host with world := world } }

end Session

end Teardown
