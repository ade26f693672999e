import Teardown.Host
import Teardown.Proofs.Course

/-!
# Turns

What a program asks and is answered while a host runs it. The exchanges of a turn are a course of
the program, so what holds of every course holds of whatever a host makes of it.
-/

namespace Teardown

set_option autoImplicit false

namespace Progress

variable {Result : Type}

def remaining : Progress Result → Program Result
  | .finished result => .done result
  | .waiting node method _ next => .ask (.call node method) next

def isWaiting : Progress Result → Bool
  | .finished _ => false
  | .waiting _ _ _ _ => true

end Progress

namespace World

variable {State Result : Type}

def exchanges (behaviour : Behaviour State) (turn : Turn) :
    Program Result → World State → List Exchange
  | .done _, _ => []
  | .ask (.call node method) next, world =>
      let called := world.noteCall behaviour node method
      match called.ticket? behaviour turn node method with
      | some _ => []
      | none =>
          let reply := called.answer behaviour node method
          .reply node method reply.2 :: exchanges behaviour turn (next reply.2) reply.1
  | .ask (.nodeName node) next, world =>
      let name := behaviour.name (world.nodes node)
      ⟨.nodeName node, name⟩ :: exchanges behaviour turn (next name) world
  | .ask .cancelRequested next, world =>
      ⟨.cancelRequested, turn.cancelRequested⟩ ::
        exchanges behaviour turn (next turn.cancelRequested) world
  | .ask (.log record) next, world =>
      ⟨.log record, ()⟩ :: exchanges behaviour turn (next ()) (world.log record)
  | .ask (.noteNode error name) next, world =>
      ⟨.noteNode error name, ()⟩ ::
        exchanges behaviour turn (next ()) (world.noteNode error name)
  | .ask (.enter guard) next, world =>
      if guard ∈ world.held then
        ⟨.enter guard, false⟩ :: exchanges behaviour turn (next false) world
      else
        ⟨.enter guard, true⟩ ::
          exchanges behaviour turn (next true) { world with held := guard :: world.held }
  | .ask (.leave guard) next, world =>
      ⟨.leave guard, ()⟩ ::
        exchanges behaviour turn (next ()) { world with held := world.held.erase guard }

theorem held_answer (behaviour : Behaviour State) (world : World State) (node : NodeId)
    (method : NodeCall) : (world.answer behaviour node method).1.held = world.held := rfl

theorem held_breakOff (behaviour : Behaviour State) (world : World State) (node : NodeId)
    (method : NodeCall) : (world.breakOff behaviour node method).1.held = world.held := rfl

/-- A turn takes its program along a course. -/
theorem run_follows_exchanges (behaviour : Behaviour State) (turn : Turn)
    (program : Program Result) (world : World State) :
    program.Follows (world.exchanges behaviour turn program)
      (world.run behaviour turn program).2.remaining := by
  induction program generalizing world with
  | done result => exact .here _
  | ask request next ih =>
      cases request with
      | call node method =>
          simp only [exchanges, run]
          cases ticket : (world.noteCall behaviour node method).ticket? behaviour turn node
              method with
          | some ticket => exact .here _
          | none => exact .further (ih _ _)
      | enter guard =>
          simp only [exchanges, run]
          by_cases held : guard ∈ world.held
          · simp only [if_pos held]
            exact .further (ih _ _)
          · simp only [if_neg held]
            exact .further (ih _ _)
      | _ => exact .further (ih _ _)

/-- A turn that comes through the first part of a program goes on with the second. -/
theorem run_bind_of_finished {First Second : Type} {behaviour : Behaviour State} {turn : Turn}
    {program : Program First} {world reached : World State} {value : First}
    (ended : world.run behaviour turn program = (reached, .finished value))
    (next : First → Program Second) :
    world.run behaviour turn (program.bind next) = reached.run behaviour turn (next value) := by
  induction program generalizing world with
  | done result =>
      cases ended
      rfl
  | ask request after ih =>
      cases request with
      | call node method =>
          simp only [Program.bind, run] at ended ⊢
          cases ticket : (world.noteCall behaviour node method).ticket? behaviour turn node
              method with
          | some ticket =>
              simp only [ticket] at ended
              cases ended
          | none =>
              simp only [ticket] at ended
              exact ih _ ended
      | enter guard =>
          simp only [Program.bind, run] at ended ⊢
          by_cases held : guard ∈ world.held
          · rw [if_pos held] at ended ⊢
            exact ih _ ended
          · rw [if_neg held] at ended ⊢
            exact ih _ ended
      | _ => exact ih _ ended

theorem turn_bind_of_waiting {First Second : Type} {behaviour : Behaviour State} {turn : Turn}
    {program : Program First} {world reached : World State} {node : NodeId} {method : NodeCall}
    {ticket : Nat} {rest : Except Failure method.Answer → Program First}
    (stopped : world.run behaviour turn program = (reached, .waiting node method ticket rest))
    (next : First → Program Second) :
    world.run behaviour turn (program.bind next) =
        (reached, .waiting node method ticket fun answer => (rest answer).bind next) ∧
      world.exchanges behaviour turn (program.bind next) =
        world.exchanges behaviour turn program := by
  induction program generalizing world with
  | done result => cases stopped
  | ask request after ih =>
      cases request with
      | call asked other =>
          simp only [Program.bind, run, exchanges] at stopped ⊢
          cases given : (world.noteCall behaviour asked other).ticket? behaviour turn asked
              other with
          | some known =>
              simp only [given] at stopped
              cases stopped
              exact ⟨rfl, rfl⟩
          | none =>
              simp only [given] at stopped
              exact (ih _ stopped).imp id (congrArg (_ :: ·))
      | enter guard =>
          simp only [Program.bind, run, exchanges] at stopped ⊢
          by_cases held : guard ∈ world.held
          · simp only [if_pos held] at stopped ⊢
            exact (ih _ stopped).imp id (congrArg (_ :: ·))
          · simp only [if_neg held] at stopped ⊢
            exact (ih _ stopped).imp id (congrArg (_ :: ·))
      | _ => exact (ih _ stopped).imp id (congrArg (_ :: ·))

end World

end Teardown
