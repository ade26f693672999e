import Teardown.Program

/-!
# Hosts

A host runs the visits of its tasks against its nodes. A task runs until its program ends or a call
has to wait; then another one has its turn. Guards, logged records and the contexts of shared
errors belong to the host, so tasks affect each other through them and through the nodes alone.
-/

namespace Teardown

set_option autoImplicit false

/-- How nodes answer, from a state of their own. A call may have to wait, and then the ticket says
for what; a waiting call that is broken off answers in a way of its own. -/
structure Behaviour (State : Type) where
  name : State → String
  waits : State → NodeCall → Option Nat
  answer : State → (method : NodeCall) → State × Except Failure method.Answer
  breakOff : State → (method : NodeCall) → State × Except Failure method.Answer

structure World (State : Type) where
  nodes : NodeId → State
  held : List GuardId := []
  noted : List (ErrorId × String) := []
  journal : List Log.Record := []
  calls : List (String × NodeCall) := []

inductive Progress (Result : Type) where
  | finished (result : Result)
  | waiting (node : NodeId) (method : NodeCall) (ticket : Nat)
      (next : Except Failure method.Answer → Program Result)

namespace World

variable {State Result : Type}

def setNode (world : World State) (node : NodeId) (state : State) : World State :=
  { world with nodes := fun other => if other = node then state else world.nodes other }

def log (world : World State) (record : Log.Record) : World State :=
  { world with journal := world.journal ++ [record] }

def noteCall (behaviour : Behaviour State) (world : World State) (node : NodeId)
    (method : NodeCall) : World State :=
  { world with calls := world.calls ++ [(behaviour.name (world.nodes node), method)] }

/-- A failure as it leaves a call: a shared error has the node that was last noted on it. -/
def raised (world : World State) (failure : Failure) : Failure :=
  match failure.leavingCall with
  | .retention error (some identity) =>
      match world.noted.lookup identity with
      | some name =>
          .retention { error with context := { error.context with nodeName := some name } }
            (some identity)
      | none => .retention error (some identity)
  | other => other

def noteNode (world : World State) (error : ErrorId) (name : String) : World State :=
  { world with noted := (error, name) :: world.noted.filter fun entry => entry.1 != error }

def settle {method : NodeCall} (world : World State) (node : NodeId)
    (reply : State × Except Failure method.Answer) :
    World State × Except Failure method.Answer :=
  (world.setNode node reply.1, reply.2.mapError world.raised)

def answer (behaviour : Behaviour State) (world : World State) (node : NodeId)
    (method : NodeCall) : World State × Except Failure method.Answer :=
  world.settle node (behaviour.answer (world.nodes node) method)

def breakOff (behaviour : Behaviour State) (world : World State) (node : NodeId)
    (method : NodeCall) : World State × Except Failure method.Answer :=
  world.settle node (behaviour.breakOff (world.nodes node) method)

/-- How a program's calls are made. Nothing waits on a thread of its own. -/
structure Turn where
  threaded : Bool := false
  cancelRequested : Bool := false

def ticket? (behaviour : Behaviour State) (turn : Turn) (world : World State) (node : NodeId)
    (method : NodeCall) : Option Nat :=
  if turn.threaded || !method.mayWait then none
  else behaviour.waits (world.nodes node) method

def run (behaviour : Behaviour State) (turn : Turn) :
    Program Result → World State → World State × Progress Result
  | .done result, world => (world, .finished result)
  | .ask (.call node method) next, world =>
      let called := world.noteCall behaviour node method
      match called.ticket? behaviour turn node method with
      | some ticket => (called, .waiting node method ticket next)
      | none =>
          let reply := called.answer behaviour node method
          run behaviour turn (next reply.2) reply.1
  | .ask (.nodeName node) next, world =>
      run behaviour turn (next (behaviour.name (world.nodes node))) world
  | .ask .cancelRequested next, world => run behaviour turn (next turn.cancelRequested) world
  | .ask (.log record) next, world => run behaviour turn (next ()) (world.log record)
  | .ask (.noteNode error name) next, world =>
      run behaviour turn (next ()) (world.noteNode error name)
  | .ask (.enter guard) next, world =>
      if guard ∈ world.held then run behaviour turn (next false) world
      else run behaviour turn (next true) { world with held := guard :: world.held }
  | .ask (.leave guard) next, world =>
      run behaviour turn (next ()) { world with held := world.held.erase guard }

end World

abbrev TaskId := Nat

structure Task (Result : Type) where
  cancelRequests : Nat := 0
  progress : Progress Result

structure Host (State Result : Type) where
  world : World State
  tasks : List (Task Result) := []
  arrivals : List TaskId := []

namespace Host

variable {State Result : Type}

/-- The tasks that wait, in the order in which they began to. -/
def arrive (arrivals : List TaskId) (task : TaskId) (progress : Progress Result) : List TaskId :=
  match progress with
  | .finished _ => arrivals.erase task
  | .waiting _ _ _ _ => arrivals.erase task ++ [task]

def launch (behaviour : Behaviour State) (host : Host State Result) (threaded : Bool)
    (program : Program Result) : Host State Result × TaskId :=
  let ran := host.world.run behaviour { threaded := threaded } program
  let task := host.tasks.length
  ({ world := ran.1
     tasks := host.tasks ++ [{ progress := ran.2 }]
     arrivals := arrive host.arrivals task ran.2 }, task)

/-- Gives a task another turn, from the world that the answer to its call left. -/
def advance (behaviour : Behaviour State) (host : Host State Result) (task : TaskId)
    (cancelRequests : Nat) (world : World State) (program : Program Result) :
    Host State Result :=
  let ran := world.run behaviour { cancelRequested := 0 < cancelRequests } program
  { world := ran.1
    tasks := host.tasks.set task { cancelRequests := cancelRequests, progress := ran.2 }
    arrivals := arrive host.arrivals task ran.2 }

def resume (behaviour : Behaviour State) (host : Host State Result) (task : TaskId) :
    Host State Result :=
  match host.tasks[task]? with
  | some ⟨cancelRequests, .waiting node method _ next⟩ =>
      let reply := host.world.answer behaviour node method
      host.advance behaviour task cancelRequests reply.1 (next reply.2)
  | _ => host

/-- Asks a task to stop: the call that it waits for is broken off. A task that has ended is past
asking. -/
def cancel (behaviour : Behaviour State) (host : Host State Result) (task : TaskId) :
    Host State Result :=
  match host.tasks[task]? with
  | some ⟨cancelRequests, .waiting node method _ next⟩ =>
      let reply := host.world.breakOff behaviour node method
      host.advance behaviour task (cancelRequests + 1) reply.1 (next reply.2)
  | _ => host

def waitsFor (host : Host State Result) (node : NodeId) (ticket : Nat) (task : TaskId) : Bool :=
  match host.tasks[task]? with
  | some ⟨_, .waiting waitingNode _ waitingTicket _⟩ =>
      waitingNode == node && waitingTicket == ticket
  | _ => false

/-- Answers every call that waits for a node's ticket, the first to arrive first. -/
def release (behaviour : Behaviour State) (host : Host State Result) (node : NodeId)
    (ticket : Nat) : Host State Result :=
  (host.arrivals.filter (host.waitsFor node ticket)).foldl (resume behaviour) host

def progress? (host : Host State Result) (task : TaskId) : Option (Progress Result) :=
  (host.tasks[task]?).map (·.progress)

end Host

end Teardown
