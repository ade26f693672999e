import Teardown.Proofs.Exclusion
import Teardown.Proofs.Placement
import Teardown.Proofs.Visit

/-!
# Overlapping visits do not disturb

Two runs of one host side by side: a plain one, and a full one in which further visits are asked for
while their guard is held. Whatever visits are added, and wherever: each visit of the plain run
takes the same course and ends in the same result in the full one, and the same guards are held. An
added visit is skipped and leaves one record.
-/

namespace Teardown

set_option autoImplicit false

def records (course : List Exchange) : List Log.Record :=
  course.filterMap fun
    | ⟨.log record, _⟩ => some record
    | _ => none

namespace World

variable {State Result : Type}

def withJournal (world : World State) (journal : List Log.Record) : World State :=
  { world with journal := journal }

@[simp] theorem ticket_with_journal (behaviour : Behaviour State) (turn : Turn)
    (world : World State) (journal : List Log.Record) (node : NodeId) (method : NodeCall) :
    (world.withJournal journal).ticket? behaviour turn node method =
      world.ticket? behaviour turn node method := rfl

@[simp] theorem answer_with_journal (behaviour : Behaviour State) (world : World State)
    (journal : List Log.Record) (node : NodeId) (method : NodeCall) :
    (world.withJournal journal).answer behaviour node method =
      ((world.answer behaviour node method).1.withJournal journal,
        (world.answer behaviour node method).2) := rfl

@[simp] theorem break_off_with_journal (behaviour : Behaviour State) (world : World State)
    (journal : List Log.Record) (node : NodeId) (method : NodeCall) :
    (world.withJournal journal).breakOff behaviour node method =
      ((world.breakOff behaviour node method).1.withJournal journal,
        (world.breakOff behaviour node method).2) := rfl

theorem exchanges_with_journal (behaviour : Behaviour State) (turn : Turn)
    (program : Program Result) (world : World State) (journal : List Log.Record) :
    (world.withJournal journal).exchanges behaviour turn program =
      world.exchanges behaviour turn program := by
  induction program generalizing world journal with
  | done result => rfl
  | ask request next ih =>
      cases request with
      | call node method =>
          have called : (world.withJournal journal).noteCall behaviour node method =
              (world.noteCall behaviour node method).withJournal journal := rfl
          simp only [exchanges, called, ticket_with_journal, answer_with_journal]
          cases (world.noteCall behaviour node method).ticket? behaviour turn node method with
          | some ticket => rfl
          | none => exact congrArg (_ :: ·) (ih _ _ _)
      | log record => exact congrArg (_ :: ·) (ih _ (world.log record) (journal ++ [record]))
      | enter guard =>
          change ite (guard ∈ world.held) _ _ = ite (guard ∈ world.held) _ _
          by_cases held : guard ∈ world.held
          · simp only [if_pos held]
            exact congrArg (_ :: ·) (ih _ world journal)
          · simp only [if_neg held]
            exact congrArg (_ :: ·) (ih _ { world with held := guard :: world.held } journal)
      | nodeName node => exact congrArg (_ :: ·) (ih _ world journal)
      | cancelRequested => exact congrArg (_ :: ·) (ih _ world journal)
      | noteNode error name => exact congrArg (_ :: ·) (ih _ (world.noteNode error name) journal)
      | leave guard =>
          exact congrArg (_ :: ·) (ih _ { world with held := world.held.erase guard } journal)

/-- What has been logged before stays, and what a turn logs comes after it. -/
theorem run_with_journal (behaviour : Behaviour State) (turn : Turn)
    (program : Program Result) (world : World State) (journal : List Log.Record) :
    (world.withJournal journal).run behaviour turn program =
      ((world.run behaviour turn program).1.withJournal
          (journal ++ records (world.exchanges behaviour turn program)),
        (world.run behaviour turn program).2) := by
  induction program generalizing world journal with
  | done result =>
      simp only [run, exchanges, records, List.filterMap_nil, List.append_nil]
  | ask request next ih =>
      cases request with
      | call node method =>
          have called : (world.withJournal journal).noteCall behaviour node method =
              (world.noteCall behaviour node method).withJournal journal := rfl
          simp only [run, exchanges, called, ticket_with_journal, answer_with_journal]
          cases (world.noteCall behaviour node method).ticket? behaviour turn node method with
          | some ticket => simp only [records, List.filterMap_nil, List.append_nil]
          | none => exact ih _ _ _
      | log record =>
          have later := ih () (world.log record) (journal ++ [record])
          rw [List.append_assoc] at later
          exact later
      | enter guard =>
          simp only [run, exchanges]
          change ite (guard ∈ world.held) _ _ = _
          by_cases held : guard ∈ world.held
          · simp only [if_pos held]
            exact ih _ world journal
          · simp only [if_neg held]
            exact ih _ { world with held := guard :: world.held } journal
      | nodeName node => exact ih _ world journal
      | cancelRequested => exact ih _ world journal
      | noteNode error name => exact ih _ (world.noteNode error name) journal
      | leave guard => exact ih _ { world with held := world.held.erase guard } journal

theorem journal_run (behaviour : Behaviour State) (turn : Turn) (program : Program Result)
    (world : World State) :
    (world.run behaviour turn program).1.journal =
      world.journal ++ records (world.exchanges behaviour turn program) :=
  congrArg (·.1.journal) (run_with_journal behaviour turn program world world.journal)

end World

namespace Operation

section Held

variable {State : Type} (behaviour : Behaviour State) (turn : World.Turn) {world : World State}
  {operation : Operation} {skipped : CallResult} {strategy : Strategy}

theorem run_of_held (known : operation.skipResult = some skipped)
    (held : strategy.guard ∈ world.held) (node : Option NodeId) :
    world.run behaviour turn (operation.attempt strategy node).run =
      (world.log (Strategy.skipRecord (node.map fun present =>
          behaviour.name (world.nodes present))), .finished (.ok skipped)) := by
  rw [attempt_run_of_guarded known]
  cases node with
  | none =>
      simp only [Strategy.enclosed, World.run, if_pos held]
      rfl
  | some present =>
      simp only [Strategy.enclosed, World.run, if_pos held]
      rfl

theorem exchanges_of_held (known : operation.skipResult = some skipped)
    (held : strategy.guard ∈ world.held) (node : Option NodeId) :
    let course := world.exchanges behaviour turn (operation.attempt strategy node).run
    answeredCalls course = [] ∧
      records course = [Strategy.skipRecord (node.map fun present =>
        behaviour.name (world.nodes present))] := by
  rw [attempt_run_of_guarded known]
  cases node with
  | none =>
      simp only [Strategy.enclosed, World.exchanges, if_pos held]
      exact ⟨rfl, rfl⟩
  | some present =>
      simp only [Strategy.enclosed, World.exchanges, if_pos held]
      exact ⟨rfl, rfl⟩

end Held

end Operation

/-- A visit that was skipped: it called no node, left one record, and has ended. -/
structure Visit.Skipped (visit : Visit) (known : Task (Except Failure CallResult)) : Prop where
  uncalled : answeredCalls visit.course = []
  told : ∃ name, records visit.course = [Strategy.skipRecord name]
  ended : ∃ result, visit.operation.skipResult = some result ∧
    known.progress = .finished (.ok result)

/-- The full journal is the plain one with the records of skipped visits put in. -/
structure Interspersed (plain full : List Log.Record) (names : List (Option String)) : Prop where
  ordered : plain.Sublist full
  counted : full.Perm (plain ++ names.map Strategy.skipRecord)

theorem interspersed_append {plain full : List Log.Record} {names : List (Option String)}
    (journals : Interspersed plain full names) (told : List Log.Record) :
    Interspersed (plain ++ told) (full ++ told) names where
  ordered := journals.ordered.append_right told
  counted := by
    have moved : (plain ++ names.map Strategy.skipRecord ++ told).Perm
        (plain ++ told ++ names.map Strategy.skipRecord) := by
      rw [List.append_assoc, List.append_assoc]
      exact List.perm_append_comm.append_left plain
    exact (journals.counted.append_right told).trans moved

theorem interspersed_skip {plain full : List Log.Record} {names : List (Option String)}
    (journals : Interspersed plain full names) (name : Option String) :
    Interspersed plain (full ++ [Strategy.skipRecord name]) (names ++ [name]) where
  ordered := journals.ordered.trans (List.sublist_append_left full _)
  counted := by
    rw [List.map_append, ← List.append_assoc]
    exact journals.counted.append_right _

/-- What may change in a world between two turns: the nodes, what is noted on errors, and what
others log. -/
def World.change {State : Type} (world : World State) (nodes : NodeId → State)
    (noted : List (ErrorId × String)) (told : List Log.Record) : World State :=
  { world with nodes := nodes, noted := noted, journal := world.journal ++ told }

namespace Watch

variable {State : Type}

/-- A plain run and a full one, with the places that the plain run's tasks have in the full one. All
that happens in the plain run happens in the full one too; besides, visits are started there while
their guard is in use. -/
inductive Disturbed (behaviour : Behaviour State) :
    Watch State → Watch State → List TaskId → Prop where
  | opened (nodes : NodeId → State) :
      Disturbed behaviour { host := { world := { nodes := nodes } } }
        { host := { world := { nodes := nodes } } } []
  | started {plain full : Watch State} {places : List TaskId} (strategy : Strategy)
      (operation : Operation) (node : Option NodeId) (threaded : Bool) (cancelRequests : Nat)
      (before : Disturbed behaviour plain full places) :
      Disturbed behaviour (plain.start behaviour strategy operation node threaded cancelRequests)
        (full.start behaviour strategy operation node threaded cancelRequests)
        (places ++ [full.host.tasks.length])
  | resumed {plain full : Watch State} {places : List TaskId} {task place : TaskId}
      (same : places[task]? = some place) (before : Disturbed behaviour plain full places) :
      Disturbed behaviour (plain.resume behaviour task) (full.resume behaviour place) places
  | cancelled {plain full : Watch State} {places : List TaskId} {task place : TaskId}
      (same : places[task]? = some place) (before : Disturbed behaviour plain full places) :
      Disturbed behaviour (plain.cancel behaviour task) (full.cancel behaviour place) places
  | askedToStop {plain full : Watch State} {places : List TaskId} {task place : TaskId}
      (same : places[task]? = some place) (cancelRequests : Nat)
      (before : Disturbed behaviour plain full places) :
      Disturbed behaviour (plain.setCancelRequests task cancelRequests)
        (full.setCancelRequests place cancelRequests) places
  | moved {plain full : Watch State} {places : List TaskId} (nodes : NodeId → State)
      (noted : List (ErrorId × String)) (told : List Log.Record)
      (before : Disturbed behaviour plain full places) :
      Disturbed behaviour (plain.setWorld (plain.host.world.change nodes noted told))
        (full.setWorld (full.host.world.change nodes noted told)) places
  | added {plain full : Watch State} {places : List TaskId} {strategy : Strategy}
      {operation : Operation} (taken : operation.skipResult ≠ none) {task : TaskId}
      (flying : full.InFlight strategy.guard task) (node : Option NodeId) (threaded : Bool)
      (cancelRequests : Nat) (before : Disturbed behaviour plain full places) :
      Disturbed behaviour plain
        (full.start behaviour strategy operation node threaded cancelRequests) places

theorem reached_of_disturbed {behaviour : Behaviour State} {plain full : Watch State}
    {places : List TaskId} (disturbed : Disturbed behaviour plain full places) :
    Reached behaviour plain ∧ Reached behaviour full := by
  induction disturbed with
  | opened nodes => exact ⟨.opened nodes, .opened nodes⟩
  | started strategy operation node threaded cancelRequests _ reached =>
      exact ⟨.started strategy operation node threaded cancelRequests reached.1,
        .started strategy operation node threaded cancelRequests reached.2⟩
  | resumed _ _ reached => exact ⟨.resumed _ reached.1, .resumed _ reached.2⟩
  | cancelled _ _ reached => exact ⟨.cancelled _ reached.1, .cancelled _ reached.2⟩
  | askedToStop _ cancelRequests _ reached =>
      exact ⟨.askedToStop _ cancelRequests reached.1, .askedToStop _ cancelRequests reached.2⟩
  | moved nodes noted told _ reached => exact ⟨.moved _ rfl reached.1, .moved _ rfl reached.2⟩
  | added taken flying node threaded cancelRequests _ reached =>
      exact ⟨reached.1, .started _ _ node threaded cancelRequests reached.2⟩

/-- The tasks of the plain run stand in the full one as they do in the plain one, all others were
skipped, and the worlds differ in the records of those. -/
structure Undisturbed (plain full : Watch State) (places : List TaskId) : Prop where
  world : full.host.world = plain.host.world.withJournal full.host.world.journal
  counted : places.length = plain.host.tasks.length
  distinct : places.Nodup
  tasks : Placed Eq places plain.host.tasks full.host.tasks
  visits : Placed Eq places plain.visits full.visits
  skipped : ∀ (place : TaskId) (visit : Visit) (known : Task (Except Failure CallResult)),
    place ∉ places → full.visits[place]? = some visit → full.host.tasks[place]? = some known →
      visit.Skipped known
  told : ∃ names : List (Option String),
    names.length + plain.host.tasks.length = full.host.tasks.length ∧
      Interspersed plain.host.world.journal full.host.world.journal names

section Steps

variable {behaviour : Behaviour State} {plain full : Watch State} {places : List TaskId}

theorem run_undisturbed (behaviour : Behaviour State) {one other : World State}
    (same : other = one.withJournal other.journal) (turn : World.Turn)
    (program : Program (Except Failure CallResult)) :
    other.run behaviour turn program =
        ((one.run behaviour turn program).1.withJournal
            (other.journal ++ records (one.exchanges behaviour turn program)),
          (one.run behaviour turn program).2) ∧
      other.exchanges behaviour turn program = one.exchanges behaviour turn program := by
  generalize other.journal = journal at same
  subst same
  exact ⟨World.run_with_journal behaviour turn program one journal,
    World.exchanges_with_journal behaviour turn program one journal⟩

theorem interspersed_run (behaviour : Behaviour State) (turn : World.Turn)
    (program : Program (Except Failure CallResult)) {one : World State} {journal : List Log.Record}
    {names : List (Option String)} (journals : Interspersed one.journal journal names) :
    Interspersed (one.run behaviour turn program).1.journal
      (journal ++ records (one.exchanges behaviour turn program)) names := by
  rw [World.journal_run]
  exact interspersed_append journals _

theorem in_flight_iff_of_undisturbed (undisturbed : Undisturbed plain full places)
    (plainOrdered : plain.Ordered) (fullOrdered : full.Ordered) (guard : GuardId) :
    (∃ task, full.InFlight guard task) ↔ ∃ task, plain.InFlight guard task := by
  rw [← held_iff_in_flight plainOrdered, ← held_iff_in_flight fullOrdered, undisturbed.world]
  exact Iff.rfl

theorem undisturbed_start (undisturbed : Undisturbed plain full places)
    (plainOrdered : plain.Ordered) (fullOrdered : full.Ordered) (strategy : Strategy)
    (operation : Operation) (node : Option NodeId) (threaded : Bool) (cancelRequests : Nat) :
    Undisturbed (plain.start behaviour strategy operation node threaded cancelRequests)
      (full.start behaviour strategy operation node threaded cancelRequests)
      (places ++ [full.host.tasks.length]) := by
  let turn : World.Turn := { threaded := threaded, cancelRequested := 0 < cancelRequests }
  let program := (operation.attempt strategy node).run
  let ran := plain.host.world.run behaviour turn program
  let course := plain.host.world.exchanges behaviour turn program
  let task : Task (Except Failure CallResult) := ⟨cancelRequests, ran.2⟩
  let visit : Visit :=
    ⟨strategy, operation, node, ∃ other, plain.InFlight strategy.guard other, course⟩
  obtain ⟨ranFull, asked⟩ := run_undisturbed behaviour undisturbed.world turn program
  -- The guard is in use on both sides or on neither, so the visit is let in on both or on neither.
  have overlapped := propext
    (in_flight_iff_of_undisturbed undisturbed plainOrdered fullOrdered strategy.guard)
  have world : (full.start behaviour strategy operation node threaded cancelRequests).host.world =
      ran.1.withJournal (full.host.world.journal ++ records course) :=
    congrArg Prod.fst ranFull
  have tasks : (full.start behaviour strategy operation node threaded cancelRequests).host.tasks =
      full.host.tasks ++ [task] :=
    congrArg (fun ended => full.host.tasks ++ [⟨cancelRequests, ended⟩]) (congrArg Prod.snd ranFull)
  have visits : (full.start behaviour strategy operation node threaded cancelRequests).visits =
      full.visits ++ [visit] := by
    change full.visits ++ [⟨strategy, operation, node, ∃ other, full.InFlight strategy.guard other,
      full.host.world.exchanges behaviour turn program⟩] = _
    rw [asked, overlapped]
  constructor
  · rw [world]
    rfl
  · change _ = (plain.host.tasks ++ [_]).length
    rw [List.length_append, List.length_append, undisturbed.counted]
    rfl
  · exact places_nodup_concat undisturbed.tasks undisturbed.distinct
  · rw [tasks]
    exact placed_concat undisturbed.tasks undisturbed.counted rfl
  · rw [visits, ← fullOrdered.aligned]
    exact placed_concat undisturbed.visits
      (undisturbed.counted.trans plainOrdered.aligned.symm) rfl
  · rw [tasks, visits]
    intro place shown known new atPlace found
    rw [List.mem_append, List.mem_singleton, not_or] at new
    exact undisturbed.skipped place shown known new.1
      (getElem?_of_concat (fullOrdered.aligned ▸ new.2) atPlace) (getElem?_of_concat new.2 found)
  · obtain ⟨names, counted, journals⟩ := undisturbed.told
    refine ⟨names, ?_, ?_⟩
    · rw [tasks]
      change names.length + (plain.host.tasks ++ [_]).length = _
      rw [List.length_append, List.length_append, ← counted]
      exact (Nat.add_assoc _ _ _).symm
    · rw [world]
      exact interspersed_run behaviour turn program journals

/-- An added visit is skipped, and the plain run does not see it. -/
theorem undisturbed_add (undisturbed : Undisturbed plain full places)
    (fullOrdered : full.Ordered) {strategy : Strategy} {operation : Operation}
    (taken : operation.skipResult ≠ none) {task : TaskId}
    (flying : full.InFlight strategy.guard task) (node : Option NodeId) (threaded : Bool)
    (cancelRequests : Nat) :
    Undisturbed plain (full.start behaviour strategy operation node threaded cancelRequests)
      places := by
  let turn : World.Turn := { threaded := threaded, cancelRequested := 0 < cancelRequests }
  let program := (operation.attempt strategy node).run
  obtain ⟨skipped, known⟩ := Option.ne_none_iff_exists'.mp taken
  have held := (held_iff_in_flight fullOrdered strategy.guard).mpr ⟨task, flying⟩
  have ran := Operation.run_of_held behaviour turn known held node
  obtain ⟨uncalled, told⟩ := Operation.exchanges_of_held behaviour turn known held node
  let name := node.map fun present => behaviour.name (full.host.world.nodes present)
  let full' := full.start behaviour strategy operation node threaded cancelRequests
  have world : full'.host.world = full.host.world.log (Strategy.skipRecord name) :=
    congrArg Prod.fst ran
  have tasks : full'.host.tasks =
      full.host.tasks ++ [⟨cancelRequests, .finished (.ok skipped)⟩] :=
    congrArg (fun ended => full.host.tasks ++ [⟨cancelRequests, ended⟩]) (congrArg Prod.snd ran)
  constructor
  · rw [world]
    exact congrArg (World.log · (Strategy.skipRecord name)) undisturbed.world
  · exact undisturbed.counted
  · exact undisturbed.distinct
  · rw [tasks]
    exact placed_append undisturbed.tasks _
  · exact placed_append undisturbed.visits _
  · intro place shown ended new atPlace found
    rw [tasks] at found
    rcases getElem?_concat_cases fullOrdered.aligned atPlace found with
      ⟨before, foundBefore⟩ | ⟨rfl, rfl⟩
    · exact undisturbed.skipped place shown ended new before foundBefore
    · exact ⟨uncalled, ⟨name, told⟩, ⟨skipped, known, rfl⟩⟩
  · obtain ⟨names, counted, journals⟩ := undisturbed.told
    refine ⟨names ++ [name], ?_, ?_⟩
    · rw [tasks, List.length_append, List.length_append, ← counted]
      simp only [List.length_singleton]
      omega
    · rw [world]
      exact interspersed_skip journals name

theorem undisturbed_advance (undisturbed : Undisturbed plain full places) {task place : TaskId}
    (chosen : places[task]? = some place) (cancelRequests : Nat) {node : NodeId}
    {method : NodeCall} {reply : World State × Except Failure method.Answer}
    (same : reply.1.journal = plain.host.world.journal)
    (next : Except Failure method.Answer → Program (Except Failure CallResult)) :
    Undisturbed (plain.advance behaviour task cancelRequests node method reply next)
      (full.advance behaviour place cancelRequests node method
        (reply.1.withJournal full.host.world.journal, reply.2) next) places := by
  let turn : World.Turn := { cancelRequested := 0 < cancelRequests }
  let program := next reply.2
  let ran := reply.1.run behaviour turn program
  let course := reply.1.exchanges behaviour turn program
  let extended := fun visit : Visit => visit.extend (.reply node method reply.2 :: course)
  let replied := reply.1.withJournal full.host.world.journal
  let fullLater := full.advance behaviour place cancelRequests node method (replied, reply.2) next
  have ranFull : replied.run behaviour turn program =
      (ran.1.withJournal (full.host.world.journal ++ records course), ran.2) :=
    World.run_with_journal behaviour turn program reply.1 full.host.world.journal
  have world : fullLater.host.world =
      ran.1.withJournal (full.host.world.journal ++ records course) :=
    congrArg Prod.fst ranFull
  have tasks : fullLater.host.tasks = full.host.tasks.set place ⟨cancelRequests, ran.2⟩ := by
    change full.host.tasks.set place ⟨_, (replied.run behaviour turn program).2⟩ = _
    rw [ranFull]
  have visits : fullLater.visits = full.visits.modify place extended := by
    change full.visits.modify place (·.extend (.reply node method reply.2 ::
      replied.exchanges behaviour turn program)) = _
    rw [World.exchanges_with_journal]
  constructor
  · rw [world]
    rfl
  · exact undisturbed.counted.trans List.length_set.symm
  · exact undisturbed.distinct
  · rw [tasks]
    exact placed_set undisturbed.tasks undisturbed.distinct chosen rfl
  · rw [visits]
    exact placed_modify undisturbed.visits undisturbed.distinct chosen fun _ _ =>
      congrArg extended
  · rw [tasks, visits]
    intro other shown ended new atPlace found
    have distinct := ne_of_not_mem chosen new
    rw [List.getElem?_set_ne distinct] at found
    rw [List.getElem?_modify_ne _ _ distinct] at atPlace
    exact undisturbed.skipped other shown ended new atPlace found
  · obtain ⟨names, counted, journals⟩ := undisturbed.told
    refine ⟨names, ?_, ?_⟩
    · rw [tasks, List.length_set, ← counted]
      exact congrArg (names.length + ·) List.length_set
    · rw [world]
      rw [← same] at journals
      exact interspersed_run behaviour turn program journals

theorem undisturbed_resume (undisturbed : Undisturbed plain full places) {task place : TaskId}
    (chosen : places[task]? = some place) :
    Undisturbed (plain.resume behaviour task) (full.resume behaviour place) places := by
  obtain ⟨known, _, inPlain, inFull, rfl⟩ := undisturbed.tasks task place chosen
  unfold resume
  rw [inPlain, inFull]
  rcases known with ⟨cancelRequests, _ | ⟨node, method, _, next⟩⟩
  · exact undisturbed
  · have reply := (congrArg (World.answer behaviour · node method) undisturbed.world).trans
      (World.answer_with_journal behaviour plain.host.world full.host.world.journal node method)
    simp only [reply]
    exact undisturbed_advance undisturbed chosen cancelRequests rfl next

theorem undisturbed_cancel (undisturbed : Undisturbed plain full places) {task place : TaskId}
    (chosen : places[task]? = some place) :
    Undisturbed (plain.cancel behaviour task) (full.cancel behaviour place) places := by
  obtain ⟨known, _, inPlain, inFull, rfl⟩ := undisturbed.tasks task place chosen
  unfold cancel
  rw [inPlain, inFull]
  rcases known with ⟨cancelRequests, _ | ⟨node, method, _, next⟩⟩
  · exact undisturbed
  · have reply := (congrArg (World.breakOff behaviour · node method) undisturbed.world).trans
      (World.break_off_with_journal behaviour plain.host.world full.host.world.journal node method)
    simp only [reply]
    exact undisturbed_advance undisturbed chosen (cancelRequests + 1) rfl next

theorem undisturbed_setCancelRequests (undisturbed : Undisturbed plain full places)
    {task place : TaskId} (chosen : places[task]? = some place) (cancelRequests : Nat) :
    Undisturbed (plain.setCancelRequests task cancelRequests)
      (full.setCancelRequests place cancelRequests) places := by
  let change := fun known : Task (Except Failure CallResult) =>
    { known with cancelRequests := cancelRequests }
  constructor
  · exact undisturbed.world
  · exact undisturbed.counted.trans (List.length_modify change _ task).symm
  · exact undisturbed.distinct
  · exact placed_modify undisturbed.tasks undisturbed.distinct chosen fun _ _ => congrArg change
  · exact undisturbed.visits
  · intro other shown ended new atPlace found
    have distinct := ne_of_not_mem chosen new
    exact undisturbed.skipped other shown ended new atPlace
      ((List.getElem?_modify_ne change full.host.tasks distinct).symm.trans found)
  · obtain ⟨names, counted, journals⟩ := undisturbed.told
    refine ⟨names, ?_, journals⟩
    change _ + (plain.host.tasks.modify task change).length =
      (full.host.tasks.modify place change).length
    rw [List.length_modify, List.length_modify, counted]

theorem undisturbed_change (undisturbed : Undisturbed plain full places)
    (nodes : NodeId → State) (noted : List (ErrorId × String)) (told : List Log.Record) :
    Undisturbed (plain.setWorld (plain.host.world.change nodes noted told))
      (full.setWorld (full.host.world.change nodes noted told)) places := by
  obtain ⟨names, counted, journals⟩ := undisturbed.told
  exact
    { world := congrArg (World.change · nodes noted told) undisturbed.world
      counted := undisturbed.counted
      distinct := undisturbed.distinct
      tasks := undisturbed.tasks
      visits := undisturbed.visits
      skipped := undisturbed.skipped
      told := ⟨names, counted, interspersed_append journals told⟩ }

end Steps

/-- Whatever is added to a run leaves it undisturbed. -/
theorem undisturbed_of_disturbed {behaviour : Behaviour State} {plain full : Watch State}
    {places : List TaskId} (disturbed : Disturbed behaviour plain full places) :
    Undisturbed plain full places := by
  induction disturbed with
  | opened nodes =>
      exact
        { world := rfl
          counted := rfl
          distinct := List.nodup_nil
          tasks := placed_nil
          visits := placed_nil
          skipped := fun _ _ _ _ found => by cases found
          told := ⟨[], rfl, .slnil, .nil⟩ }
  | started strategy operation node threaded cancelRequests before undisturbed =>
      have reached := reached_of_disturbed before
      exact undisturbed_start undisturbed (ordered_of_reached reached.1)
        (ordered_of_reached reached.2) strategy operation node threaded cancelRequests
  | resumed chosen _ undisturbed => exact undisturbed_resume undisturbed chosen
  | cancelled chosen _ undisturbed => exact undisturbed_cancel undisturbed chosen
  | askedToStop chosen cancelRequests _ undisturbed =>
      exact undisturbed_setCancelRequests undisturbed chosen cancelRequests
  | moved nodes noted told _ undisturbed =>
      exact undisturbed_change undisturbed nodes noted told
  | added taken flying node threaded cancelRequests before undisturbed =>
      have ordered := ordered_of_reached (reached_of_disturbed before).2
      exact undisturbed_add undisturbed ordered taken flying node threaded cancelRequests

/-- Visits that are asked for while their guard is in use disturb no other visit. Each visit of the
plain run takes the same course in the full one and stands or ends the same, and the guards, the
nodes and the calls are the same. An added visit calls no node, leaves one record for debugging, and
is skipped; the journal is that of the plain run with those records put in. -/
theorem added_visits_do_not_disturb {behaviour : Behaviour State} {plain full : Watch State}
    {places : List TaskId} (disturbed : Disturbed behaviour plain full places) :
    (∀ (task : TaskId) (visit : Visit) (known : Task (Except Failure CallResult)),
        plain.visits[task]? = some visit → plain.host.tasks[task]? = some known →
          ∃ place, places[task]? = some place ∧ full.visits[place]? = some visit ∧
            full.host.tasks[place]? = some known) ∧
      (full.host.world.held = plain.host.world.held ∧
        full.host.world.nodes = plain.host.world.nodes ∧
        full.host.world.noted = plain.host.world.noted ∧
        full.host.world.calls = plain.host.world.calls) ∧
      (∀ (place : TaskId) (visit : Visit) (known : Task (Except Failure CallResult)),
        place ∉ places → full.visits[place]? = some visit →
          full.host.tasks[place]? = some known →
            answeredCalls visit.course = [] ∧
              (∃ record, records visit.course = [record] ∧ record.level = Log.debugLevel) ∧
              (visit.operation = .check →
                known.progress = .finished (.ok (.recheck Strategy.recheckMinutes))) ∧
              (visit.operation = .tryEvaluate →
                known.progress = .finished (.ok (.outcome .skipped)))) ∧
      ∃ skips : List Log.Record, (∀ record ∈ skips, record.level = Log.debugLevel) ∧
        skips.length + plain.host.tasks.length = full.host.tasks.length ∧
        plain.host.world.journal.Sublist full.host.world.journal ∧
        full.host.world.journal.Perm (plain.host.world.journal ++ skips) := by
  have undisturbed := undisturbed_of_disturbed disturbed
  have world := undisturbed.world
  refine ⟨?_, ⟨congrArg (·.held) world, congrArg (·.nodes) world, congrArg (·.noted) world,
    congrArg (·.calls) world⟩, ?_, ?_⟩
  · intro task visit known shown found
    have early : task < places.length := by
      rw [undisturbed.counted]
      exact (List.getElem?_eq_some_iff.mp found).1
    have chosen := List.getElem?_eq_getElem early
    obtain ⟨_, _, inPlain, inFull, rfl⟩ := undisturbed.visits task _ chosen
    obtain ⟨_, _, plainTask, fullTask, rfl⟩ := undisturbed.tasks task _ chosen
    exact ⟨places[task], chosen, inFull.trans (inPlain.symm.trans shown),
      fullTask.trans (plainTask.symm.trans found)⟩
  · intro place visit known new shown found
    obtain ⟨uncalled, ⟨name, told⟩, result, skipped, ended⟩ :=
      undisturbed.skipped place visit known new shown found
    refine ⟨uncalled, ⟨_, told, rfl⟩, ?_, ?_⟩
    · intro checks
      rw [checks] at skipped
      cases skipped
      exact ended
    · intro evaluates
      rw [evaluates] at skipped
      cases skipped
      exact ended
  · obtain ⟨names, counted, journals⟩ := undisturbed.told
    refine ⟨names.map Strategy.skipRecord, ?_, ?_, journals.ordered, journals.counted⟩
    · intro record present
      obtain ⟨name, -, rfl⟩ := List.mem_map.mp present
      rfl
    · rw [List.length_map]
      exact counted

theorem check_of_other_node_does_not_disturb :
    Disturbed Script.behaviour slowVisit twoVisits [0] ∧
      twoVisits.host.world.held = slowVisit.host.world.held ∧
      twoVisits.host.world.calls = slowVisit.host.world.calls ∧
      ∃ visit known, twoVisits.visits[1]? = some visit ∧ twoVisits.host.tasks[1]? = some known ∧
        known.progress = .finished (.ok (.recheck Strategy.recheckMinutes)) := by
  have taken : Operation.check.skipResult ≠ none := by simp [Operation.skipResult]
  have flying : slowVisit.InFlight Strategy.cautious.guard 0 :=
    ⟨_, _, rfl, rfl, ⟨by simp [Operation.skipResult], rfl⟩, by decide +kernel⟩
  have disturbed : Disturbed Script.behaviour slowVisit twoVisits [0] :=
    .added taken flying (some "b") false 0
      (.started Strategy.cautious .tryEvaluate (some "a") false 0 (.opened _))
  obtain ⟨-, ⟨held, -, -, calls⟩, added, -⟩ := added_visits_do_not_disturb disturbed
  exact ⟨disturbed, held, calls, _, _, rfl, rfl, (added 1 _ _ (by decide) rfl rfl).2.2.1 rfl⟩

end Watch

end Teardown
