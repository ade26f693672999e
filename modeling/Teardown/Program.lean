import Teardown.Log.Record
import Teardown.Node

/-!
# Programs

What a visit does, as a tree: it is done, or it makes a request and goes on with the answer. A
program holds every possible course of a visit, whatever the nodes answer and in whatever order
several visits take turns.
-/

namespace Teardown

set_option autoImplicit false

/-- Names one guard; a guard is held by at most one visit. -/
abbrev GuardId := Nat

inductive Request where
  | call (node : NodeId) (method : NodeCall)
  | nodeName (node : NodeId)
  | cancelRequested
  | log (record : Log.Record)
  | noteNode (error : ErrorId) (name : String)
  | enter (guard : GuardId)
  | leave (guard : GuardId)

namespace Request

/-- A call may fail; entering a guard says whether it was free. -/
abbrev Answer : Request → Type
  | call _ method => Except Failure method.Answer
  | nodeName _ => String
  | cancelRequested | enter _ => Bool
  | log _ | noteNode _ _ | leave _ => Unit

end Request

inductive Program (Result : Type) where
  | done (result : Result)
  | ask (request : Request) (next : request.Answer → Program Result)

namespace Program

variable {First Second Third : Type}

def bind (program : Program First) (next : First → Program Second) : Program Second :=
  match program with
  | done result => next result
  | ask request rest => ask request fun answer => (rest answer).bind next

instance : Monad Program where
  pure := done
  bind := bind

theorem bind_done (program : Program First) : program.bind done = program := by
  induction program with
  | done result => rfl
  | ask request rest ih =>
      simp only [bind]
      congr 1
      funext answer
      exact ih answer

theorem bind_assoc (program : Program First) (next : First → Program Second)
    (last : Second → Program Third) :
    (program.bind next).bind last = program.bind fun result => (next result).bind last := by
  induction program with
  | done result => rfl
  | ask request rest ih =>
      simp only [bind]
      congr 1
      funext answer
      exact ih answer

end Program

abbrev Attempt := ExceptT Failure Program

namespace Attempt

variable {Result : Type}

def run (attempt : Attempt Result) : Program (Except Failure Result) := ExceptT.run attempt

def outcome (attempt : Attempt Result) : Attempt (Except Failure Result) :=
  ExceptT.mk (attempt.run.bind fun result => .done (.ok result))

def ofExcept (result : Except Failure Result) : Attempt Result := ExceptT.mk (.done result)

def perform (request : Request) : Attempt request.Answer :=
  ExceptT.mk (.ask request fun answer => .done (.ok answer))

def call (node : NodeId) (method : NodeCall) : Attempt method.Answer :=
  ExceptT.mk (.ask (.call node method) .done)

def nodeName (node : NodeId) : Attempt String := perform (.nodeName node)

def log (record : Log.Record) : Attempt Unit := perform (.log record)

end Attempt

end Teardown
