import Teardown.Proofs.Exclusion

/-!
# Chronicles

A chronicle sets what a program asks and is answered beside the worlds in which it does so. Between
two exchanges the world may change as it likes; a call that does not wait is answered by the node as
it then is. Every task of a host goes through a chronicle, in whatever order the tasks take turns.
-/

namespace Teardown

set_option autoImplicit false

variable {State Result : Type}

structure Moment (State : Type) where
  world : World State
  exchange : Exchange

/-- A call that never waits is answered by the node as it is at the moment. -/
def Moment.Faithful (behaviour : Behaviour State) (moment : Moment State) : Prop :=
  ∀ (node : NodeId) (method : NodeCall) (answer : Except Failure method.Answer),
    moment.exchange = .reply node method answer → method.mayWait = false →
      answer = (moment.world.answer behaviour node method).2

/-- The program goes through the exchanges at these moments and has the rest still before it. -/
structure Program.Chronicles (behaviour : Behaviour State) (program : Program Result)
    (chronicle : List (Moment State)) (rest : Program Result) : Prop where
  followed : program.Follows (chronicle.map (·.exchange)) rest
  faithful : ∀ moment ∈ chronicle, moment.Faithful behaviour

namespace Program

theorem chronicles_append {behaviour : Behaviour State} {program middle last : Program Result}
    {first later : List (Moment State)} (before : program.Chronicles behaviour first middle)
    (after : middle.Chronicles behaviour later last) :
    program.Chronicles behaviour (first ++ later) last where
  followed := by
    rw [List.map_append]
    exact follows_append before.followed after.followed
  faithful := by
    intro moment present
    rcases List.mem_append.mp present with early | late
    · exact before.faithful moment early
    · exact after.faithful moment late

theorem ask_of_awaited {program : Program Result} {node : NodeId} {method : NodeCall}
    (awaiting : program.awaited = [(node, method)]) :
    ∃ next, program = .ask (.call node method) next := by
  unfold awaited at awaiting
  split at awaiting
  · next after =>
      cases awaiting
      exact ⟨after, rfl⟩
  · cases awaiting

end Program

namespace World

def moments (behaviour : Behaviour State) (turn : Turn) :
    Program Result → World State → List (Moment State)
  | .done _, _ => []
  | .ask (.call node method) next, world =>
      let called := world.noteCall behaviour node method
      match called.ticket? behaviour turn node method with
      | some _ => []
      | none =>
          let reply := called.answer behaviour node method
          ⟨world, .reply node method reply.2⟩ :: moments behaviour turn (next reply.2) reply.1
  | .ask (.nodeName node) next, world =>
      let name := behaviour.name (world.nodes node)
      ⟨world, ⟨.nodeName node, name⟩⟩ :: moments behaviour turn (next name) world
  | .ask .cancelRequested next, world =>
      ⟨world, ⟨.cancelRequested, turn.cancelRequested⟩⟩ ::
        moments behaviour turn (next turn.cancelRequested) world
  | .ask (.log record) next, world =>
      ⟨world, ⟨.log record, ()⟩⟩ :: moments behaviour turn (next ()) (world.log record)
  | .ask (.noteNode error name) next, world =>
      ⟨world, ⟨.noteNode error name, ()⟩⟩ ::
        moments behaviour turn (next ()) (world.noteNode error name)
  | .ask (.enter guard) next, world =>
      if guard ∈ world.held then
        ⟨world, ⟨.enter guard, false⟩⟩ :: moments behaviour turn (next false) world
      else
        ⟨world, ⟨.enter guard, true⟩⟩ ::
          moments behaviour turn (next true) { world with held := guard :: world.held }
  | .ask (.leave guard) next, world =>
      ⟨world, ⟨.leave guard, ()⟩⟩ ::
        moments behaviour turn (next ()) { world with held := world.held.erase guard }

theorem faithful_of_silent (behaviour : Behaviour State) {moment : Moment State}
    (silent : moment.exchange.isReply = false) : moment.Faithful behaviour := by
  intro node method answer same
  rw [same] at silent
  cases silent

theorem faithful_reply (behaviour : Behaviour State) (world : World State) (node : NodeId)
    (method : NodeCall) :
    Moment.Faithful behaviour ⟨world, .reply node method
      ((world.noteCall behaviour node method).answer behaviour node method).2⟩ := by
  intro asked other answer same
  cases same
  exact fun _ => rfl

theorem moments_exchanges (behaviour : Behaviour State) (turn : Turn) (program : Program Result)
    (world : World State) :
    (world.moments behaviour turn program).map (·.exchange) =
      world.exchanges behaviour turn program := by
  induction program generalizing world with
  | done result => simp only [moments, exchanges, List.map_nil]
  | ask request next ih =>
      cases request with
      | call node method =>
          simp only [moments, exchanges]
          cases (world.noteCall behaviour node method).ticket? behaviour turn node method with
          | some ticket => simp only [List.map_nil]
          | none => simp only [List.map_cons, ih]
      | enter guard =>
          simp only [moments, exchanges]
          split <;> simp only [List.map_cons, ih]
      | _ => simp only [moments, exchanges, List.map_cons, ih]

theorem moments_bind_of_finished {First Second : Type} {behaviour : Behaviour State} {turn : Turn}
    {program : Program First} {world reached : World State} {value : First}
    (ended : world.run behaviour turn program = (reached, .finished value))
    (next : First → Program Second) :
    world.moments behaviour turn (program.bind next) =
      world.moments behaviour turn program ++ reached.moments behaviour turn (next value) := by
  induction program generalizing world with
  | done result =>
      cases ended
      rfl
  | ask request after ih =>
      cases request with
      | call node method =>
          simp only [Program.bind, run, moments] at ended ⊢
          cases ticket : (world.noteCall behaviour node method).ticket? behaviour turn node
              method with
          | some ticket =>
              simp only [ticket] at ended
              cases ended
          | none =>
              simp only [ticket] at ended
              exact congrArg (_ :: ·) (ih _ ended)
      | enter guard =>
          simp only [Program.bind, run, moments] at ended ⊢
          by_cases held : guard ∈ world.held
          · rw [if_pos held] at ended ⊢
            rw [if_pos held]
            exact congrArg (_ :: ·) (ih _ ended)
          · rw [if_neg held] at ended ⊢
            rw [if_neg held]
            exact congrArg (_ :: ·) (ih _ ended)
      | _ => exact congrArg (_ :: ·) (ih _ ended)

theorem exchanges_bind_of_finished {First Second : Type} {behaviour : Behaviour State} {turn : Turn}
    {program : Program First} {world reached : World State} {value : First}
    (ended : world.run behaviour turn program = (reached, .finished value))
    (next : First → Program Second) :
    world.exchanges behaviour turn (program.bind next) =
      world.exchanges behaviour turn program ++ reached.exchanges behaviour turn (next value) := by
  simp only [← moments_exchanges, moments_bind_of_finished ended, List.map_append]

theorem moments_faithful (behaviour : Behaviour State) (turn : Turn) (program : Program Result)
    (world : World State) :
    ∀ moment ∈ world.moments behaviour turn program, moment.Faithful behaviour := by
  induction program generalizing world with
  | done result => simp only [moments, List.not_mem_nil, false_imp_iff, implies_true]
  | ask request next ih =>
      cases request with
      | call node method =>
          simp only [moments]
          cases (world.noteCall behaviour node method).ticket? behaviour turn node method with
          | some ticket => simp only [List.not_mem_nil, false_imp_iff, implies_true]
          | none =>
              exact List.forall_mem_cons.mpr ⟨faithful_reply behaviour world node method, ih _ _⟩
      | enter guard =>
          simp only [moments]
          split
          · exact List.forall_mem_cons.mpr ⟨faithful_of_silent behaviour rfl, ih _ _⟩
          · exact List.forall_mem_cons.mpr ⟨faithful_of_silent behaviour rfl, ih _ _⟩
      | _ => exact List.forall_mem_cons.mpr ⟨faithful_of_silent behaviour rfl, ih _ _⟩

/-- A turn of a host takes its program through the moments of the turn. -/
theorem run_chronicles (behaviour : Behaviour State) (turn : Turn) (program : Program Result)
    (world : World State) :
    program.Chronicles behaviour (world.moments behaviour turn program)
      (world.run behaviour turn program).2.remaining where
  followed := by
    rw [moments_exchanges]
    exact run_follows_exchanges behaviour turn program world
  faithful := moments_faithful behaviour turn program world

end World

namespace World

theorem mayWait_of_waiting {behaviour : Behaviour State} {turn : Turn} {program : Program Result}
    {world reached : World State} {node : NodeId} {method : NodeCall} {ticket : Nat}
    {next : Except Failure method.Answer → Program Result}
    (ended : world.run behaviour turn program = (reached, .waiting node method ticket next)) :
    method.mayWait = true := by
  induction program generalizing world with
  | done result => cases ended
  | ask request rest ih =>
      cases request with
      | call asked other =>
          simp only [run] at ended
          cases given : (world.noteCall behaviour asked other).ticket? behaviour turn asked
              other with
          | some known =>
              rw [given] at ended
              cases ended
              unfold ticket? at given
              split at given
              · cases given
              · next waits =>
                  simp only [Bool.or_eq_true, Bool.not_eq_true', not_or] at waits
                  simpa using waits.2
          | none =>
              rw [given] at ended
              exact ih _ ended
      | enter guard =>
          simp only [run] at ended
          split at ended
          · exact ih _ ended
          · exact ih _ ended
      | _ => exact ih _ ended

end World

/-- How a task has gone so far, turn after turn. The call that it waits for is answered or broken
off in a world of any kind, and leaves any world behind. -/
inductive Lived (behaviour : Behaviour State) (program : Program Result) :
    List (Moment State) → Progress Result → Prop where
  | launched (turn : World.Turn) (world : World State) :
      Lived behaviour program (world.moments behaviour turn program)
        (world.run behaviour turn program).2
  | answered {chronicle : List (Moment State)} {node : NodeId} {method : NodeCall} {ticket : Nat}
      {next : Except Failure method.Answer → Program Result}
      (lived : Lived behaviour program chronicle (.waiting node method ticket next))
      (turn : World.Turn) (world : World State)
      (reply : World State × Except Failure method.Answer) :
      Lived behaviour program
        (chronicle ++ ⟨world, .reply node method reply.2⟩ ::
          reply.1.moments behaviour turn (next reply.2))
        (reply.1.run behaviour turn (next reply.2)).2

theorem mayWait_of_lived {behaviour : Behaviour State} {program : Program Result}
    {chronicle : List (Moment State)} {node : NodeId} {method : NodeCall} {ticket : Nat}
    {next : Except Failure method.Answer → Program Result}
    (lived : Lived behaviour program chronicle (.waiting node method ticket next)) :
    method.mayWait = true := by
  generalize known : Progress.waiting node method ticket next = progress at lived
  cases lived with
  | launched turn world => exact World.mayWait_of_waiting (Prod.ext rfl known.symm)
  | answered lived turn world reply => exact World.mayWait_of_waiting (Prod.ext rfl known.symm)

theorem chronicles_of_lived {behaviour : Behaviour State} {program : Program Result}
    {chronicle : List (Moment State)} {progress : Progress Result}
    (lived : Lived behaviour program chronicle progress) :
    program.Chronicles behaviour chronicle progress.remaining := by
  induction lived with
  | launched turn world => exact world.run_chronicles behaviour turn program
  | @answered chronicle node method ticket next lived turn world reply ih =>
      have turned := reply.1.run_chronicles behaviour turn (next reply.2)
      apply Program.chronicles_append ih
      constructor
      · exact .further turned.followed
      · intro moment present
        rcases List.mem_cons.mp present with rfl | later
        · intro asked other answer same atOnce
          cases same
          rw [mayWait_of_lived lived] at atOnce
          cases atOnce
        · exact turned.faithful moment later

namespace Watch

def Recorded (behaviour : Behaviour State) (watch : Watch State) : Prop :=
  ∀ (task : TaskId) (visit : Visit) (known : Task (Except Failure CallResult)),
    watch.visits[task]? = some visit → watch.host.tasks[task]? = some known →
      ∃ chronicle, chronicle.map (·.exchange) = visit.course ∧
        Lived behaviour visit.program chronicle known.progress

theorem recorded_start {behaviour : Behaviour State} {watch : Watch State}
    (aligned : watch.visits.length = watch.host.tasks.length)
    (recorded : watch.Recorded behaviour) (strategy : Strategy) (operation : Operation)
    (node : Option NodeId) (threaded : Bool) (cancelRequests : Nat) :
    (watch.start behaviour strategy operation node threaded cancelRequests).Recorded
      behaviour := by
  intro task visit known present found
  rcases getElem?_concat_cases aligned present found with ⟨formerly, known⟩ | ⟨rfl, rfl⟩
  · exact recorded task visit _ formerly known
  · exact ⟨_, World.moments_exchanges behaviour _ _ _, .launched _ watch.host.world⟩

theorem recorded_advance {behaviour : Behaviour State} {watch : Watch State}
    (recorded : watch.Recorded behaviour) {task : TaskId} {former ticket : Nat} {node : NodeId}
    {method : NodeCall} {next : Except Failure method.Answer → Program (Except Failure CallResult)}
    (found : watch.host.tasks[task]? = some ⟨former, .waiting node method ticket next⟩)
    (cancelRequests : Nat) (reply : World State × Except Failure method.Answer) :
    (watch.advance behaviour task cancelRequests node method reply next).Recorded behaviour := by
  intro other shown known presentLater foundLater
  change (watch.visits.modify task _)[other]? = some shown at presentLater
  change (watch.host.tasks.set task _)[other]? = some known at foundLater
  by_cases this : task = other
  · subst this
    rw [List.getElem?_modify_eq] at presentLater
    rw [List.getElem?_set_self (List.getElem?_eq_some_iff.mp found).1] at foundLater
    obtain ⟨visit, present, rfl⟩ := Option.map_eq_some_iff.mp presentLater
    cases foundLater
    obtain ⟨chronicle, course, lived⟩ := recorded task visit _ present found
    refine ⟨_, ?_, lived.answered _ watch.host.world reply⟩
    rw [List.map_append, course, List.map_cons, World.moments_exchanges]
    rfl
  · rw [List.getElem?_modify_ne _ _ this] at presentLater
    rw [List.getElem?_set_ne this] at foundLater
    exact recorded other shown known presentLater foundLater

theorem recorded_setCancelRequests {behaviour : Behaviour State} {watch : Watch State}
    (recorded : watch.Recorded behaviour) (task : TaskId) (cancelRequests : Nat) :
    (watch.setCancelRequests task cancelRequests).Recorded behaviour := by
  intro other visit known present found
  simp only [setCancelRequests, List.getElem?_modify, Option.map_eq_map, Option.map_eq_some_iff]
    at found
  obtain ⟨former, found, rfl⟩ := found
  have lived := recorded other visit former present found
  split <;> exact lived

/-- In whatever order visits start, are answered and are cancelled, and however the world changes
between their turns, every task lives through what is recorded of it. -/
theorem recorded_of_reached {behaviour : Behaviour State} {watch : Watch State}
    (reached : Reached behaviour watch) : watch.Recorded behaviour := by
  induction reached with
  | opened nodes =>
      intro task visit known present
      simp at present
  | started strategy operation node threaded cancelRequests before recorded =>
      exact recorded_start (ordered_of_reached before).aligned recorded strategy operation node
        threaded cancelRequests
  | resumed task _ recorded =>
      unfold resume
      split
      · next found => exact recorded_advance recorded found _ _
      · exact recorded
  | cancelled task _ recorded =>
      unfold cancel
      split
      · next found => exact recorded_advance recorded found _ _
      · exact recorded
  | askedToStop task cancelRequests _ recorded =>
      exact recorded_setCancelRequests recorded task cancelRequests
  | moved world same _ recorded => exact recorded

def awaits (watch : Watch State) (task : TaskId) : List (NodeId × NodeCall) :=
  match watch.host.tasks[task]? with
  | some known => known.progress.remaining.awaited
  | none => []

/-- An evaluation that waits in a host for a call has come to it through moments of its own. -/
theorem chronicled_of_reached {behaviour : Behaviour State} {watch : Watch State}
    (reached : Reached behaviour watch) {task : TaskId} {visit : Visit}
    (present : watch.visits[task]? = some visit) (evaluates : visit.operation = .evaluate)
    {node : NodeId} {method : NodeCall} (awaiting : watch.awaits task = [(node, method)]) :
    ∃ chronicle next, chronicle.map (·.exchange) = visit.course ∧
      (visit.strategy.evaluate visit.node).run.Chronicles behaviour chronicle
        (.ask (.call node method) next) := by
  unfold awaits at awaiting
  split at awaiting
  · next known found =>
      obtain ⟨chronicle, course, lived⟩ :=
        recorded_of_reached reached task visit known present found
      have chronicled := chronicles_of_lived lived
      obtain ⟨next, comes⟩ := Program.ask_of_awaited awaiting
      have followed := chronicled.followed
      rw [comes, Visit.program, evaluates] at followed
      obtain ⟨middle, within, -⟩ := Program.bind_awaits followed fun result => by
        cases result <;> exact Program.calls_nobody_done _
      exact ⟨chronicle, middle, course, within, chronicled.faithful⟩
  · cases awaiting

end Watch

end Teardown
