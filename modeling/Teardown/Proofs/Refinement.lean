import Teardown.Proofs.Chronicle
import Teardown.Proofs.Disturbance
import Teardown.Proofs.Survival

/-!
# The periodic visit refines the single one

Two runs of one host side by side: a plain one, and one in which some single visits are periodic ones
instead. Whatever strategies, nodes and turns there are, a periodic visit asks its node, enters and
leaves its guard, and logs just as the single visit in its place does. Only then does it go on: it
reports a failure that the single visit would have ended in, and says when to check again.
-/

namespace Teardown

set_option autoImplicit false

namespace Program

variable {Result : Type} {allowed : Log.Record → Prop}

/-- The program asks for names and logs records of a kind, and does nothing else. -/
inductive Telling (allowed : Log.Record → Prop) : Program Result → Prop where
  | done (result : Result) : Telling allowed (.done result)
  | named {node : NodeId} {next : String → Program Result}
      (later : ∀ name, Telling allowed (next name)) : Telling allowed (.ask (.nodeName node) next)
  | told {record : Log.Record} {next : Unit → Program Result} (fits : allowed record)
      (later : Telling allowed (next ())) : Telling allowed (.ask (.log record) next)

end Program

theorem records_append (first last : List Exchange) :
    records (first ++ last) = records first ++ records last :=
  List.filterMap_append

section Telling

variable {State Result : Type} {allowed : Log.Record → Prop} {program : Program Result}

theorem run_of_telling (behaviour : Behaviour State) (turn : World.Turn)
    (telling : program.Telling allowed) (world : World State) :
    ∃ result, world.run behaviour turn program =
      (world.withJournal (world.journal ++ records (world.exchanges behaviour turn program)),
        .finished result) := by
  induction telling generalizing world with
  | done result =>
      refine ⟨result, ?_⟩
      simp only [World.run, World.exchanges, records, List.filterMap_nil, List.append_nil]
      rfl
  | named later ih => exact ih _ world
  | @told record next fits later ih =>
      obtain ⟨result, ran⟩ := ih (world.log record)
      refine ⟨result, ?_⟩
      have split : records (world.exchanges behaviour turn (.ask (.log record) next)) =
          record :: records ((world.log record).exchanges behaviour turn (next ())) := rfl
      rw [split, ← List.singleton_append, ← List.append_assoc]
      exact ran

theorem records_of_telling {course : List Exchange} {rest : Program Result}
    (telling : program.Telling allowed) (followed : program.Follows course rest) :
    ∀ record ∈ records course, allowed record := by
  induction telling generalizing course with
  | done result =>
      obtain ⟨rfl, -⟩ := (Program.done_follows_iff _ _ _).mp followed
      exact List.forall_mem_nil _
  | named later ih =>
      rcases (Program.ask_follows_iff _ _ _ _).mp followed with ⟨rfl, -⟩ | ⟨name, after, rfl, rest⟩
      · exact List.forall_mem_nil _
      · have told := ih name rest
        exact told
  | told fits later ih =>
      rcases (Program.ask_follows_iff _ _ _ _).mp followed with ⟨rfl, -⟩ | ⟨_, after, rfl, rest⟩
      · exact List.forall_mem_nil _
      · exact List.forall_mem_cons.mpr ⟨fits, ih rest⟩

end Telling

namespace Strategy

def reportExchanges (node : Option NodeId) (name : String) (failure : Failure) (text : String) :
    List Exchange :=
  match node with
  | none => [⟨.log (failureRecord none failure text), ()⟩]
  | some present =>
      [⟨.nodeName present, name⟩, ⟨.log (failureRecord (some name) failure text), ()⟩]

def afterVisit (node : Option NodeId) :
    Except Failure CallResult → Program (Except Failure CallResult)
  | .ok _ => .done (.ok (.recheck recheckMinutes))
  | .error failure =>
      (checked node (.error failure)).bind fun minutes => .done (minutes.map .recheck)

/-- The periodic visit is the single one and what it goes on with. -/
theorem check_is_try_evaluate_and_more (strategy : Strategy) (node : Option NodeId) :
    (Operation.attempt .check strategy node).run =
      (Operation.attempt .tryEvaluate strategy node).run.bind (afterVisit node) := by
  have checks : Operation.check.skipResult = some (.recheck recheckMinutes) := rfl
  have evaluates : Operation.tryEvaluate.skipResult = some (.outcome .skipped) := rfl
  have skipped : afterVisit node (.ok (.outcome .skipped)) = .done (.ok (.recheck recheckMinutes)) :=
    rfl
  rw [Operation.attempt_run_of_guarded checks, Operation.attempt_run_of_guarded evaluates,
    enclosed_bind _ _ _ _ skipped]
  congr 1
  funext result
  cases result <;> rfl

section Failed

variable {failure : Failure}

theorem after_visit_extraordinary (extraordinary : failure.isOrdinary = false)
    (node : Option NodeId) : afterVisit node (.error failure) = .done (.error failure) := by
  simp only [afterVisit, checked, reportFailure, extraordinary, Bool.false_eq_true, if_false]
  rfl

theorem after_visit_textless {lost : Failure} (ordinary : failure.isOrdinary = true)
    (textless : failure.text = .error lost) (node : Option NodeId) :
    afterVisit node (.error failure) = match node with
      | none => .done (.error lost)
      | some present => .ask (.nodeName present) fun _ => .done (.error lost) := by
  simp only [afterVisit, checked, reportFailure, if_pos ordinary, textless]
  cases node <;> rfl

theorem after_visit_worded {text : String} (ordinary : failure.isOrdinary = true)
    (worded : failure.text = .ok text) (node : Option NodeId) :
    afterVisit node (.error failure) = match node with
      | none => .ask (.log (failureRecord none failure text)) fun _ =>
          .done (.ok (.recheck recheckMinutes))
      | some present => .ask (.nodeName present) fun name =>
          .ask (.log (failureRecord (some name) failure text)) fun _ =>
            .done (.ok (.recheck recheckMinutes)) := by
  simp only [afterVisit, checked, reportFailure, if_pos ordinary, worded]
  cases node <;> rfl

/-- An ordinary failure with a text is reported once, and the visit is to be made again. -/
theorem after_visit_reports {text : String} (ordinary : failure.isOrdinary = true)
    (worded : failure.text = .ok text) {node : Option NodeId} {added : List Exchange}
    {result : Except Failure CallResult}
    (followed : (afterVisit node (.error failure)).Follows added (.done result)) :
    (∃ name, added = reportExchanges node name failure text) ∧
      result = .ok (.recheck recheckMinutes) := by
  rw [after_visit_worded ordinary worded] at followed
  cases node with
  | none =>
      obtain ⟨_, _, rfl, ended⟩ := (Program.ask_follows_done_iff _ _ _ _).mp followed
      obtain ⟨rfl, same⟩ := (Program.done_follows_iff _ _ _).mp ended
      cases same
      exact ⟨⟨"", rfl⟩, rfl⟩
  | some present =>
      obtain ⟨name, _, rfl, told⟩ := (Program.ask_follows_done_iff _ _ _ _).mp followed
      obtain ⟨_, _, rfl, ended⟩ := (Program.ask_follows_done_iff _ _ _ _).mp told
      obtain ⟨rfl, same⟩ := (Program.done_follows_iff _ _ _).mp ended
      cases same
      exact ⟨⟨name, rfl⟩, rfl⟩

end Failed

/-- Whatever a periodic visit adds, it only tells, and only of a failure. -/
theorem after_visit_telling (node : Option NodeId) (result : Except Failure CallResult) :
    (afterVisit node result).Telling (·.level = Log.errorLevel) := by
  cases result with
  | ok value => exact .done _
  | error failure =>
      by_cases ordinary : failure.isOrdinary = true
      · cases words : failure.text with
        | error lost =>
            rw [after_visit_textless ordinary words]
            cases node with
            | none => exact .done _
            | some present => exact .named fun _ => .done _
        | ok text =>
            rw [after_visit_worded ordinary words]
            cases node with
            | none => exact .told rfl (.done _)
            | some present => exact .named fun _ => .told rfl (.done _)
      · rw [after_visit_extraordinary (Bool.eq_false_iff.mpr ordinary)]
        exact .done _

end Strategy

/-- Where a program has come to, and where the longer program in its place has. -/
inductive Progress.Continued {Result : Type} (after : Result → Program Result) :
    Progress Result → List Exchange → Progress Result → Prop where
  | waiting (node : NodeId) (method : NodeCall) (ticket : Nat)
      (next : Except Failure method.Answer → Program Result) :
      Continued after (.waiting node method ticket next) []
        (.waiting node method ticket fun answer => (next answer).bind after)
  | finished {result last : Result} {added : List Exchange}
      (followed : (after result).Follows added (.done last)) :
      Continued after (.finished result) added (.finished last)

namespace Progress

variable {Result : Type} {after : Result → Program Result} {known further : Progress Result}
  {added : List Exchange} {result : Result}

theorem follows_of_continued (continued : known.Continued after added further)
    (ended : known = .finished result) :
    ∃ last, further = .finished last ∧ (after result).Follows added (.done last) := by
  subst ended
  cases continued with
  | finished followed => exact ⟨_, rfl, followed⟩

theorem finished_of_continued (continued : known.Continued after added further)
    (ended : known = .finished result) {last : Result} (settled : after result = .done last) :
    added = [] ∧ further = .finished last := by
  obtain ⟨final, finished, followed⟩ := follows_of_continued continued ended
  rw [settled] at followed
  obtain ⟨silent, same⟩ := (Program.done_follows_iff _ _ _).mp followed
  cases same
  exact ⟨silent, finished⟩

end Progress

theorem turn_continued {State Result : Type} {allowed : Log.Record → Prop}
    {after : Result → Program Result} (telling : ∀ result, (after result).Telling allowed)
    (behaviour : Behaviour State) (turn : World.Turn) (program : Program Result)
    (world : World State) (journal : List Log.Record) :
    ∃ added, (∀ record ∈ records added, allowed record) ∧
      (world.withJournal journal).exchanges behaviour turn (program.bind after) =
        world.exchanges behaviour turn program ++ added ∧
      ((world.withJournal journal).run behaviour turn (program.bind after)).1 =
        (world.run behaviour turn program).1.withJournal
          (journal ++ records (world.exchanges behaviour turn program) ++ records added) ∧
      (world.run behaviour turn program).2.Continued after added
        ((world.withJournal journal).run behaviour turn (program.bind after)).2 := by
  rw [World.exchanges_with_journal, World.run_with_journal]
  -- What comes after the program is reached in this turn only if the program ends in it.
  rcases ran : world.run behaviour turn program with ⟨reached, value | ⟨node, method, ticket, rest⟩⟩
  · obtain ⟨last, ended⟩ := run_of_telling behaviour turn (telling value) reached
    have followed := World.run_follows_exchanges behaviour turn (after value) reached
    rw [ended] at followed
    rw [World.run_bind_of_finished ran, World.exchanges_bind_of_finished ran, ended]
    refine ⟨_, records_of_telling (telling value) followed, rfl, ?_, .finished followed⟩
    rw [records_append, List.append_assoc]
    rfl
  · obtain ⟨same, asked⟩ := World.turn_bind_of_waiting ran after
    rw [same, asked]
    refine ⟨[], List.forall_mem_nil _, (List.append_nil _).symm, ?_, .waiting node method ticket rest⟩
    exact congrArg reached.withJournal (List.append_nil _).symm

/-- The full journal is the plain one with reports of failures put in. -/
def Reported (plain full : List Log.Record) : Prop :=
  ∃ reports : List Log.Record, (∀ record ∈ reports, record.level = Log.errorLevel) ∧
    plain.Sublist full ∧ full.Perm (plain ++ reports)

theorem reported_self (journal : List Log.Record) : Reported journal journal :=
  ⟨[], List.forall_mem_nil _, List.Sublist.refl _, by rw [List.append_nil]⟩

theorem reported_append {plain full : List Log.Record} (journals : Reported plain full)
    (told : List Log.Record) {added : List Log.Record}
    (errors : ∀ record ∈ added, record.level = Log.errorLevel) :
    Reported (plain ++ told) (full ++ told ++ added) := by
  obtain ⟨reports, former, ordered, counted⟩ := journals
  refine ⟨reports ++ added, ?_, ?_, ?_⟩
  · exact List.forall_mem_append.mpr ⟨former, errors⟩
  · exact (ordered.append_right told).trans (List.sublist_append_left _ added)
  · have moved : (plain ++ reports ++ told).Perm (plain ++ told ++ reports) := by
      rw [List.append_assoc, List.append_assoc]
      exact List.perm_append_comm.append_left plain
    rw [← List.append_assoc]
    exact ((counted.append_right told).trans moved).append_right added

namespace Watch

variable {State : Type}

/-- A plain run and one in which periodic visits are made in place of some single ones. All else that
happens, happens in both: other visits, answers, cancellations, and changes of the world. -/
inductive Replaced (behaviour : Behaviour State) : Watch State → Watch State → Prop where
  | opened (world : World State) :
      Replaced behaviour { host := { world := world } } { host := { world := world } }
  | started {plain full : Watch State} (strategy : Strategy) (operation : Operation)
      (node : Option NodeId) (threaded : Bool) (cancelRequests : Nat)
      (before : Replaced behaviour plain full) :
      Replaced behaviour (plain.start behaviour strategy operation node threaded cancelRequests)
        (full.start behaviour strategy operation node threaded cancelRequests)
  | replaced {plain full : Watch State} (strategy : Strategy) (node : Option NodeId)
      (threaded : Bool) (cancelRequests : Nat) (before : Replaced behaviour plain full) :
      Replaced behaviour (plain.start behaviour strategy .tryEvaluate node threaded cancelRequests)
        (full.start behaviour strategy .check node threaded cancelRequests)
  | resumed {plain full : Watch State} (task : TaskId) (before : Replaced behaviour plain full) :
      Replaced behaviour (plain.resume behaviour task) (full.resume behaviour task)
  | cancelled {plain full : Watch State} (task : TaskId) (before : Replaced behaviour plain full) :
      Replaced behaviour (plain.cancel behaviour task) (full.cancel behaviour task)
  | askedToStop {plain full : Watch State} (task : TaskId) (cancelRequests : Nat)
      (before : Replaced behaviour plain full) :
      Replaced behaviour (plain.setCancelRequests task cancelRequests)
        (full.setCancelRequests task cancelRequests)
  | moved {plain full : Watch State} (nodes : NodeId → State) (noted : List (ErrorId × String))
      (told : List Log.Record) (before : Replaced behaviour plain full) :
      Replaced behaviour (plain.setWorld (plain.host.world.change nodes noted told))
        (full.setWorld (full.host.world.change nodes noted told))

/-- How an operation goes on beyond the one in whose place it is: not at all, if it is the same. -/
inductive GoesOn (node : Option NodeId) : Operation → Operation →
    (Except Failure CallResult → Program (Except Failure CallResult)) → Prop where
  | kept (operation : Operation) : GoesOn node operation operation .done
  | checks : GoesOn node .tryEvaluate .check (Strategy.afterVisit node)

/-- A visit and its task, and those in their place in the other run. -/
structure Counterpart (visit : Visit) (known : Task (Except Failure CallResult)) (other : Visit)
    (fellow : Task (Except Failure CallResult)) : Prop where
  strategy : other.strategy = visit.strategy
  node : other.node = visit.node
  cancelRequests : fellow.cancelRequests = known.cancelRequests
  goesOn : ∃ after added, GoesOn visit.node visit.operation other.operation after ∧
    other.course = visit.course ++ added ∧
    known.progress.Continued after added fellow.progress

/-- The runs agree up to the journal, and each visit has its counterpart at its own place. -/
structure Refined (plain full : Watch State) : Prop where
  world : full.host.world = plain.host.world.withJournal full.host.world.journal
  aligned : plain.visits.length = plain.host.tasks.length
  visits : full.visits.length = plain.visits.length
  tasks : full.host.tasks.length = plain.host.tasks.length
  counterpart : ∀ (task : TaskId) (visit : Visit) (known : Task (Except Failure CallResult))
    (other : Visit) (fellow : Task (Except Failure CallResult)),
    plain.visits[task]? = some visit → plain.host.tasks[task]? = some known →
      full.visits[task]? = some other → full.host.tasks[task]? = some fellow →
        Counterpart visit known other fellow
  reported : Reported plain.host.world.journal full.host.world.journal

section Steps

variable {behaviour : Behaviour State} {plain full : Watch State}

theorem goes_on_telling {node : Option NodeId} {operation longer : Operation}
    {after : Except Failure CallResult → Program (Except Failure CallResult)}
    (goesOn : GoesOn node operation longer after) (result : Except Failure CallResult) :
    (after result).Telling (·.level = Log.errorLevel) := by
  cases goesOn with
  | kept => exact .done result
  | checks => exact Strategy.after_visit_telling node result

theorem goes_on_run {node : Option NodeId} {operation longer : Operation}
    {after : Except Failure CallResult → Program (Except Failure CallResult)}
    (goesOn : GoesOn node operation longer after) (strategy : Strategy) :
    (longer.attempt strategy node).run = (operation.attempt strategy node).run.bind after := by
  cases goesOn with
  | kept => exact (Program.bind_done _).symm
  | checks => exact Strategy.check_is_try_evaluate_and_more strategy node

theorem counterpart_concat (refined : Refined plain full) {visit other : Visit}
    {known fellow : Task (Except Failure CallResult)}
    (new : Counterpart visit known other fellow) (task : TaskId) {shown otherShown : Visit}
    {found fellowFound : Task (Except Failure CallResult)}
    (atVisits : (plain.visits ++ [visit])[task]? = some shown)
    (atTasks : (plain.host.tasks ++ [known])[task]? = some found)
    (atOthers : (full.visits ++ [other])[task]? = some otherShown)
    (atFellows : (full.host.tasks ++ [fellow])[task]? = some fellowFound) :
    Counterpart shown found otherShown fellowFound := by
  have aligned := refined.aligned
  have visits := refined.visits
  have tasks := refined.tasks
  rcases Nat.lt_or_ge task plain.visits.length with early | late
  · rw [List.getElem?_append_left (by omega)] at atVisits atTasks atOthers atFellows
    exact refined.counterpart task _ _ _ _ atVisits atTasks atOthers atFellows
  · rw [List.getElem?_append_right (by omega)] at atVisits atTasks atOthers atFellows
    obtain rfl := List.mem_singleton.mp (List.mem_of_getElem? atVisits)
    obtain rfl := List.mem_singleton.mp (List.mem_of_getElem? atTasks)
    obtain rfl := List.mem_singleton.mp (List.mem_of_getElem? atOthers)
    obtain rfl := List.mem_singleton.mp (List.mem_of_getElem? atFellows)
    exact new

theorem counterpart_change (refined : Refined plain full) {task : TaskId} {visit other : Visit}
    {former known fellow : Task (Except Failure CallResult)} {extend extendOther : Visit → Visit}
    (shown : plain.visits[task]? = some visit) (found : plain.host.tasks[task]? = some former)
    (otherShown : full.visits[task]? = some other)
    (changed : Counterpart (extend visit) known (extendOther other) fellow) (index : TaskId)
    {present presentOther : Visit} {running runningFellow : Task (Except Failure CallResult)}
    (atVisits : (plain.visits.modify task extend)[index]? = some present)
    (atTasks : (plain.host.tasks.set task known)[index]? = some running)
    (atOthers : (full.visits.modify task extendOther)[index]? = some presentOther)
    (atFellows : (full.host.tasks.set task fellow)[index]? = some runningFellow) :
    Counterpart present running presentOther runningFellow := by
  by_cases this : task = index
  · subst this
    have bound := (List.getElem?_eq_some_iff.mp found).1
    rw [List.getElem?_modify_eq, shown] at atVisits
    rw [List.getElem?_modify_eq, otherShown] at atOthers
    rw [List.getElem?_set_self bound] at atTasks
    rw [List.getElem?_set_self (by rw [refined.tasks]; exact bound)] at atFellows
    cases atVisits
    cases atOthers
    cases atTasks
    cases atFellows
    exact changed
  · rw [List.getElem?_modify_ne _ _ this] at atVisits atOthers
    rw [List.getElem?_set_ne this] at atTasks atFellows
    exact refined.counterpart index _ _ _ _ atVisits atTasks atOthers atFellows

theorem refined_start (refined : Refined plain full) (strategy : Strategy)
    {operation longer : Operation} {node : Option NodeId}
    {after : Except Failure CallResult → Program (Except Failure CallResult)}
    (goesOn : GoesOn node operation longer after) (threaded : Bool) (cancelRequests : Nat) :
    Refined (plain.start behaviour strategy operation node threaded cancelRequests)
      (full.start behaviour strategy longer node threaded cancelRequests) := by
  let turn : World.Turn := { threaded := threaded, cancelRequested := 0 < cancelRequests }
  let program := (operation.attempt strategy node).run
  let fullLater := full.start behaviour strategy longer node threaded cancelRequests
  obtain ⟨added, errors, asked, reached, continued⟩ :=
    turn_continued (goes_on_telling goesOn) behaviour turn program plain.host.world
      full.host.world.journal
  rw [← refined.world, ← goes_on_run goesOn] at asked reached continued
  have world : fullLater.host.world = (plain.host.world.run behaviour turn program).1.withJournal
      (full.host.world.journal ++ records (plain.host.world.exchanges behaviour turn program) ++
        records added) := reached
  constructor
  · rw [world]
    rfl
  · change (plain.visits ++ [_]).length = (plain.host.tasks ++ [_]).length
    rw [List.length_append, List.length_append, refined.aligned]
    rfl
  · change (full.visits ++ [_]).length = (plain.visits ++ [_]).length
    rw [List.length_append, List.length_append, refined.visits]
    rfl
  · change (full.host.tasks ++ [_]).length = (plain.host.tasks ++ [_]).length
    rw [List.length_append, List.length_append, refined.tasks]
    rfl
  · intro task visit known other fellow shown found otherShown fellowFound
    refine counterpart_concat refined ?_ task shown found otherShown fellowFound
    exact ⟨rfl, rfl, rfl, after, added, goesOn, asked, continued⟩
  · rw [world]
    change Reported (plain.host.world.run behaviour turn program).1.journal _
    rw [World.journal_run]
    exact reported_append refined.reported _ errors

theorem refined_advance (refined : Refined plain full) {task : TaskId} {visit other : Visit}
    {former ticket : Nat} {node : NodeId} {method : NodeCall}
    {next : Except Failure method.Answer → Program (Except Failure CallResult)}
    {after : Except Failure CallResult → Program (Except Failure CallResult)}
    (shown : plain.visits[task]? = some visit)
    (found : plain.host.tasks[task]? = some ⟨former, .waiting node method ticket next⟩)
    (otherShown : full.visits[task]? = some other) (strategy : other.strategy = visit.strategy)
    (same : other.node = visit.node) (course : other.course = visit.course)
    (goesOn : GoesOn visit.node visit.operation other.operation after) (cancelRequests : Nat)
    {reply : World State × Except Failure method.Answer}
    (unlogged : reply.1.journal = plain.host.world.journal) :
    Refined (plain.advance behaviour task cancelRequests node method reply next)
      (full.advance behaviour task cancelRequests node method
        (reply.1.withJournal full.host.world.journal, reply.2)
        fun answer => (next answer).bind after) := by
  let turn : World.Turn := { cancelRequested := 0 < cancelRequests }
  let program := next reply.2
  let fullLater := full.advance behaviour task cancelRequests node method
    (reply.1.withJournal full.host.world.journal, reply.2) fun answer => (next answer).bind after
  obtain ⟨added, errors, asked, reached, continued⟩ :=
    turn_continued (goes_on_telling goesOn) behaviour turn program reply.1 full.host.world.journal
  have world : fullLater.host.world = (reply.1.run behaviour turn program).1.withJournal
      (full.host.world.journal ++ records (reply.1.exchanges behaviour turn program) ++
        records added) := reached
  constructor
  · rw [world]
    rfl
  · change (plain.visits.modify task _).length = (plain.host.tasks.set task _).length
    rw [List.length_modify, List.length_set, refined.aligned]
  · change (full.visits.modify task _).length = (plain.visits.modify task _).length
    rw [List.length_modify, List.length_modify, refined.visits]
  · change (full.host.tasks.set task _).length = (plain.host.tasks.set task _).length
    rw [List.length_set, List.length_set, refined.tasks]
  · intro index present known presentOther fellow atVisits atTasks atOthers atFellows
    refine counterpart_change refined shown found otherShown ?_ index atVisits atTasks atOthers
      atFellows
    refine ⟨strategy, same, rfl, after, added, goesOn, ?_, continued⟩
    change other.course ++ .reply node method reply.2 :: _ =
      (visit.course ++ .reply node method reply.2 :: _) ++ added
    rw [course, List.append_assoc, List.cons_append]
    exact congrArg (fun later => visit.course ++ .reply node method reply.2 :: later) asked
  · rw [world]
    change Reported (reply.1.run behaviour turn program).1.journal _
    rw [World.journal_run, unlogged]
    exact reported_append refined.reported _ errors

theorem counterpart_or_none (refined : Refined plain full) (task : TaskId) :
    (plain.host.tasks[task]? = none ∧ full.host.tasks[task]? = none) ∨
      ∃ visit known other fellow, plain.visits[task]? = some visit ∧
        plain.host.tasks[task]? = some known ∧ full.visits[task]? = some other ∧
        full.host.tasks[task]? = some fellow ∧ Counterpart visit known other fellow := by
  have aligned := refined.aligned
  have visits := refined.visits
  have tasks := refined.tasks
  rcases Nat.lt_or_ge task plain.host.tasks.length with early | late
  · have shown := List.getElem?_eq_getElem (l := plain.visits) (i := task) (by omega)
    have found := List.getElem?_eq_getElem early
    have otherShown := List.getElem?_eq_getElem (l := full.visits) (i := task) (by omega)
    have fellowFound := List.getElem?_eq_getElem (l := full.host.tasks) (i := task) (by omega)
    exact .inr ⟨_, _, _, _, shown, found, otherShown, fellowFound,
      refined.counterpart task _ _ _ _ shown found otherShown fellowFound⟩
  · exact .inl ⟨List.getElem?_eq_none late, List.getElem?_eq_none (by omega)⟩

theorem refined_resume (refined : Refined plain full) (task : TaskId) :
    Refined (plain.resume behaviour task) (full.resume behaviour task) := by
  unfold resume
  rcases counterpart_or_none refined task with
    ⟨found, fellowFound⟩ | ⟨visit, ⟨cancelRequests, progress⟩, other, ⟨fellowRequests, further⟩,
      shown, found, otherShown, fellowFound, counterpart⟩
  · rw [found, fellowFound]
    exact refined
  · obtain ⟨strategy, same, requests, after, added, goesOn, course, continued⟩ := counterpart
    obtain rfl : fellowRequests = cancelRequests := requests
    rw [found, fellowFound]
    cases continued with
    | waiting node method ticket next =>
        rw [List.append_nil] at course
        have reply := (congrArg (World.answer behaviour · node method) refined.world).trans
          (World.answer_with_journal behaviour plain.host.world full.host.world.journal node method)
        simp only [reply]
        exact refined_advance refined shown found otherShown strategy same course goesOn _ rfl
    | finished followed => exact refined

theorem refined_cancel (refined : Refined plain full) (task : TaskId) :
    Refined (plain.cancel behaviour task) (full.cancel behaviour task) := by
  unfold cancel
  rcases counterpart_or_none refined task with
    ⟨found, fellowFound⟩ | ⟨visit, ⟨cancelRequests, progress⟩, other, ⟨fellowRequests, further⟩,
      shown, found, otherShown, fellowFound, counterpart⟩
  · rw [found, fellowFound]
    exact refined
  · obtain ⟨strategy, same, requests, after, added, goesOn, course, continued⟩ := counterpart
    obtain rfl : fellowRequests = cancelRequests := requests
    rw [found, fellowFound]
    cases continued with
    | waiting node method ticket next =>
        rw [List.append_nil] at course
        have reply := (congrArg (World.breakOff behaviour · node method) refined.world).trans
          (World.break_off_with_journal behaviour plain.host.world full.host.world.journal node
            method)
        simp only [reply]
        exact refined_advance refined shown found otherShown strategy same course goesOn _ rfl
    | finished followed => exact refined

theorem refined_setCancelRequests (refined : Refined plain full) (task : TaskId)
    (cancelRequests : Nat) :
    Refined (plain.setCancelRequests task cancelRequests)
      (full.setCancelRequests task cancelRequests) := by
  let change := fun known : Task (Except Failure CallResult) =>
    { known with cancelRequests := cancelRequests }
  constructor
  · exact refined.world
  · exact refined.aligned.trans (List.length_modify change _ task).symm
  · exact refined.visits
  · change (full.host.tasks.modify task change).length = (plain.host.tasks.modify task change).length
    rw [List.length_modify, List.length_modify, refined.tasks]
  · intro index visit known other fellow shown found otherShown fellowFound
    change (plain.host.tasks.modify task change)[index]? = _ at found
    change (full.host.tasks.modify task change)[index]? = _ at fellowFound
    rw [List.getElem?_modify] at found fellowFound
    obtain ⟨former, foundBefore, rfl⟩ := Option.map_eq_some_iff.mp found
    obtain ⟨formerFellow, fellowBefore, rfl⟩ := Option.map_eq_some_iff.mp fellowFound
    have before := refined.counterpart index visit former other formerFellow shown foundBefore
      otherShown fellowBefore
    by_cases this : task = index
    · simp only [if_pos this]
      exact ⟨before.strategy, before.node, rfl, before.goesOn⟩
    · simp only [if_neg this]
      exact before
  · exact refined.reported

theorem refined_change (refined : Refined plain full) (nodes : NodeId → State)
    (noted : List (ErrorId × String)) (told : List Log.Record) :
    Refined (plain.setWorld (plain.host.world.change nodes noted told))
      (full.setWorld (full.host.world.change nodes noted told)) where
  world := congrArg (World.change · nodes noted told) refined.world
  aligned := refined.aligned
  visits := refined.visits
  tasks := refined.tasks
  counterpart := refined.counterpart
  reported := by
    have journals := reported_append refined.reported told (List.forall_mem_nil _)
    rw [List.append_nil] at journals
    exact journals

end Steps

theorem refined_of_replaced {behaviour : Behaviour State} {plain full : Watch State}
    (replaced : Replaced behaviour plain full) : Refined plain full := by
  induction replaced with
  | opened world =>
      exact
        { world := rfl
          aligned := rfl
          visits := rfl
          tasks := rfl
          counterpart := fun _ _ _ _ _ shown => by cases shown
          reported := reported_self _ }
  | started strategy operation node threaded cancelRequests _ refined =>
      exact refined_start refined strategy (.kept operation) threaded cancelRequests
  | replaced strategy node threaded cancelRequests _ refined =>
      exact refined_start refined strategy .checks threaded cancelRequests
  | resumed task _ refined => exact refined_resume refined task
  | cancelled task _ refined => exact refined_cancel refined task
  | askedToStop task cancelRequests _ refined =>
      exact refined_setCancelRequests refined task cancelRequests
  | moved nodes noted told _ refined => exact refined_change refined nodes noted told

theorem counterpart_kept {visit other : Visit} {known fellow : Task (Except Failure CallResult)}
    (counterpart : Counterpart visit known other fellow)
    (kept : other.operation = visit.operation) :
    other.course = visit.course ∧ fellow = known := by
  obtain ⟨-, -, requests, after, added, goesOn, course, continued⟩ := counterpart
  obtain rfl : after = .done := by
    generalize visit.operation = operation at goesOn kept
    generalize other.operation = longer at goesOn kept
    cases goesOn with
    | kept => rfl
    | checks => cases kept
  rcases known with ⟨cancelRequests, progress⟩
  rcases fellow with ⟨fellowRequests, further⟩
  obtain rfl : fellowRequests = cancelRequests := requests
  cases continued with
  | waiting node method ticket next =>
      have ends : (fun answer => (next answer).bind .done) = next :=
        funext fun answer => Program.bind_done (next answer)
      rw [ends]
      exact ⟨course.trans (List.append_nil _), rfl⟩
  | finished followed =>
      obtain ⟨rfl, same⟩ := (Program.done_follows_iff _ _ _).mp followed
      cases same
      exact ⟨course.trans (List.append_nil _), rfl⟩

theorem counterpart_checks {visit other : Visit} {known fellow : Task (Except Failure CallResult)}
    (counterpart : Counterpart visit known other fellow)
    (replaced : other.operation ≠ visit.operation) :
    visit.operation = .tryEvaluate ∧ other.operation = .check ∧
      ∃ added, other.course = visit.course ++ added ∧
        known.progress.Continued (Strategy.afterVisit visit.node) added fellow.progress := by
  obtain ⟨-, -, -, after, added, goesOn, course, continued⟩ := counterpart
  generalize visit.operation = operation at goesOn replaced
  generalize other.operation = longer at goesOn replaced
  cases goesOn with
  | kept => exact absurd rfl replaced
  | checks => exact ⟨rfl, rfl, added, course, continued⟩

/-- Where single visits are made in the plain run and periodic ones in their place: the guards, the
nodes and the calls are the same at every time, every other visit goes and ends the same, and each
periodic visit has the course of the single one. While that one waits, it waits for the same call.
Where that one returns, it says when to check again, with no further record; where that one ends in
an ordinary failure with a text, it logs one further record, an error with the node's name and the
failure, and says when to check again; a cancellation or a fatal failure leaves it as it leaves that
one. -/
theorem check_refines_try_evaluate {behaviour : Behaviour State} {plain full : Watch State}
    (replaced : Replaced behaviour plain full) :
    (full.host.world.held = plain.host.world.held ∧
        full.host.world.nodes = plain.host.world.nodes ∧
        full.host.world.noted = plain.host.world.noted ∧
        full.host.world.calls = plain.host.world.calls) ∧
      Reported plain.host.world.journal full.host.world.journal ∧
      full.visits.length = plain.visits.length ∧
      full.host.tasks.length = plain.host.tasks.length ∧
      ∀ (task : TaskId) (visit : Visit) (known : Task (Except Failure CallResult)) (other : Visit)
        (fellow : Task (Except Failure CallResult)),
        plain.visits[task]? = some visit → plain.host.tasks[task]? = some known →
        full.visits[task]? = some other → full.host.tasks[task]? = some fellow →
          other.strategy = visit.strategy ∧ other.node = visit.node ∧
          (other.operation = visit.operation → other.course = visit.course ∧ fellow = known) ∧
          (other.operation ≠ visit.operation →
            (visit.operation = .tryEvaluate ∧ other.operation = .check) ∧
            (∀ node method ticket next, known.progress = .waiting node method ticket next →
              other.course = visit.course ∧
                ∃ later, fellow.progress = .waiting node method ticket later) ∧
            (∀ result, known.progress = .finished (.ok result) → other.course = visit.course ∧
              fellow.progress = .finished (.ok (.recheck Strategy.recheckMinutes))) ∧
            (∀ failure text, known.progress = .finished (.error failure) →
              failure.isOrdinary = true → failure.text = .ok text →
                (∃ name, other.course =
                  visit.course ++ Strategy.reportExchanges visit.node name failure text) ∧
                fellow.progress = .finished (.ok (.recheck Strategy.recheckMinutes))) ∧
            (∀ failure, known.progress = .finished (.error failure) →
              failure.isOrdinary = false →
                other.course = visit.course ∧ fellow.progress = .finished (.error failure))) := by
  have refined := refined_of_replaced replaced
  have world := refined.world
  refine ⟨⟨congrArg (·.held) world, congrArg (·.nodes) world, congrArg (·.noted) world,
    congrArg (·.calls) world⟩, refined.reported, refined.visits, refined.tasks, ?_⟩
  intro task visit known other fellow shown found otherShown fellowFound
  have counterpart :=
    refined.counterpart task visit known other fellow shown found otherShown fellowFound
  refine ⟨counterpart.strategy, counterpart.node, counterpart_kept counterpart, ?_⟩
  intro differs
  obtain ⟨single, periodic, added, course, continued⟩ := counterpart_checks counterpart differs
  refine ⟨⟨single, periodic⟩, ?_, ?_, ?_, ?_⟩
  · intro node method ticket next waits
    rw [waits] at continued
    generalize fellow.progress = further at continued
    cases continued with
    | waiting => exact ⟨course.trans (List.append_nil _), _, rfl⟩
  · intro result ended
    obtain ⟨rfl, finished⟩ := Progress.finished_of_continued continued ended rfl
    exact ⟨course.trans (List.append_nil _), finished⟩
  · intro failure text ended ordinary worded
    obtain ⟨last, finished, followed⟩ := Progress.follows_of_continued continued ended
    obtain ⟨⟨name, rfl⟩, rfl⟩ := Strategy.after_visit_reports ordinary worded followed
    exact ⟨⟨name, course⟩, finished⟩
  · intro failure ended extraordinary
    obtain ⟨rfl, finished⟩ := Progress.finished_of_continued continued ended
      (Strategy.after_visit_extraordinary extraordinary _)
    exact ⟨course.trans (List.append_nil _), finished⟩

end Watch

namespace Progress

variable {Result : Type}

def failure? : Progress (Except Failure Result) → Option Failure
  | .finished (.error failure) => some failure
  | _ => none

theorem finished_of_failure {progress : Progress (Except Failure Result)} {failure : Failure}
    (ended : progress.failure? = some failure) : progress = .finished (.error failure) := by
  unfold failure? at ended
  split at ended
  · cases ended
    rfl
  · cases ended

end Progress

namespace Watch

def brokenNodes : Watch Script where
  host := { world := { nodes := fun id =>
    { Script.initial id with
      gated := [.uptime], raises := [(.isOffline, .foreign ⟨"ValueError", [.string "lost"]⟩)] } } }

def brokenVisit (operation : Operation) : Watch Script :=
  (brokenNodes.start Script.behaviour Strategy.cautious operation (some "a") false 0).resume
    Script.behaviour 0

theorem check_of_broken_node_reports :
    Replaced Script.behaviour (brokenVisit .tryEvaluate) (brokenVisit .check) ∧
      ∃ visit known other fellow failure, (brokenVisit .tryEvaluate).visits[0]? = some visit ∧
        (brokenVisit .tryEvaluate).host.tasks[0]? = some known ∧
        (brokenVisit .check).visits[0]? = some other ∧
        (brokenVisit .check).host.tasks[0]? = some fellow ∧
        known.progress = .finished (.error failure) ∧ failure.text = .ok "lost" ∧
        (∃ name, other.course =
          visit.course ++ Strategy.reportExchanges (some "a") name failure "lost") ∧
        fellow.progress = .finished (.ok (.recheck Strategy.recheckMinutes)) := by
  have replaced : Replaced Script.behaviour (brokenVisit .tryEvaluate) (brokenVisit .check) :=
    .resumed 0 (.replaced Strategy.cautious (some "a") false 0 (.opened _))
  have visited : (brokenVisit .tryEvaluate).visits[0]?.map (fun visit =>
      (visit.operation, visit.node)) = some (.tryEvaluate, some "a") := by decide +kernel
  have otherVisited : (brokenVisit .check).visits[0]?.map (·.operation) = some .check := by
    decide +kernel
  have failed : ((brokenVisit .tryEvaluate).host.tasks[0]?.bind (·.progress.failure?)).map
      (fun failure => (failure.isOrdinary, failure.text.toOption)) = some (true, some "lost") := by
    decide +kernel
  have fellowStarted : 0 < (brokenVisit .check).host.tasks.length := by decide +kernel
  obtain ⟨visit, shown, asked⟩ := Option.map_eq_some_iff.mp visited
  obtain ⟨other, otherShown, checks⟩ := Option.map_eq_some_iff.mp otherVisited
  obtain ⟨failure, raised, worded⟩ := Option.map_eq_some_iff.mp failed
  obtain ⟨known, found, raised⟩ := Option.bind_eq_some_iff.mp raised
  have fellowFound := List.getElem?_eq_getElem fellowStarted
  have ended := Progress.finished_of_failure raised
  obtain ⟨ordinary, written⟩ := Prod.mk.inj worded
  have worded : failure.text = .ok "lost" := by
    cases words : failure.text with
    | error lost =>
        rw [words] at written
        cases written
    | ok text =>
        rw [words] at written
        cases written
        rfl
  obtain ⟨evaluates, node⟩ := Prod.mk.inj asked
  obtain ⟨-, -, -, -, visits⟩ := check_refines_try_evaluate replaced
  obtain ⟨-, -, -, differs⟩ := visits 0 visit known other _ shown found otherShown fellowFound
  obtain ⟨-, -, -, reported, -⟩ := differs (by rw [checks, evaluates]; decide)
  obtain ⟨course, returned⟩ := reported failure "lost" ended ordinary worded
  rw [node] at course
  exact ⟨replaced, visit, known, other, _, failure, shown, found, otherShown, fellowFound, ended,
    worded, course, returned⟩

end Watch

end Teardown
