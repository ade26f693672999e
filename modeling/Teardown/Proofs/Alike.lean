import Teardown.Proofs.Parts
import Teardown.Proofs.Turn

/-!
# Alike programs

Two programs are alike when they ask the same of the same nodes and of one guard, whatever is noted
meanwhile on errors that nodes share. In worlds that agree on those nodes and that guard, alike
programs take alike turns; and nothing that they do reaches other nodes or other guards. Every visit
is alike to itself.
-/

namespace Teardown

set_option autoImplicit false

/-- A failure without the node that is noted on it, if nodes may share it. -/
def Failure.unnoted : Failure → Failure
  | .retention error (some identity) =>
      .retention { error with context := { error.context with nodeName := none } } (some identity)
  | other => other

theorem Failure.eq_or_shared_of_unnoted {one other : Failure} (same : one.unnoted = other.unnoted) :
    one = other ∨ ∃ error errorOther identity, one = .retention error (some identity) ∧
      other = .retention errorOther (some identity) ∧ error.message = errorOther.message ∧
      error.detail = errorOther.detail := by
  unfold unnoted at same
  split at same
  · next error identity =>
      split at same
      · next errorOther identityOther =>
          simp only [retention.injEq, RetentionError.mk.injEq] at same
          obtain ⟨⟨detail, message, -⟩, identities⟩ := same
          cases identities
          exact .inr ⟨error, errorOther, identity, rfl, rfl, message, detail⟩
      · next unshared => exact (unshared _ _ same.symm).elim
  · next unshared =>
      split at same
      · exact (unshared _ _ same).elim
      · exact .inl same

theorem Failure.told_same_of_unnoted {one other : Failure} (same : one.unnoted = other.unnoted) :
    one.name = other.name ∧ one.text = other.text ∧ one.family = other.family := by
  rcases eq_or_shared_of_unnoted same with
    rfl | ⟨error, errorOther, identity, rfl, rfl, message, detail⟩
  · exact ⟨rfl, rfl, rfl⟩
  · refine ⟨?_, congrArg Except.ok message, rfl⟩
    simp only [name, RetentionError.name, detail]

/-- The same outcome: equal values, or one failure, whatever node is noted on it. -/
inductive SameOutcome {Result : Type} : Except Failure Result → Except Failure Result → Prop where
  | ok (value : Result) : SameOutcome (.ok value) (.ok value)
  | error {one other : Failure} (same : one.unnoted = other.unnoted) :
      SameOutcome (.error one) (.error other)

theorem same_outcome_self {Result : Type} (result : Except Failure Result) :
    SameOutcome result result := by
  cases result with
  | error failure => exact .error rfl
  | ok value => exact .ok value

theorem same_outcome_map {First Second : Type} {one other : Except Failure First}
    (same : SameOutcome one other) (change : First → Second) :
    SameOutcome (one.map change) (other.map change) := by
  cases same with
  | ok value => exact .ok (change value)
  | error failures => exact .error failures

namespace Program

variable {First Second : Type}

/-- The programs ask the same of the nodes in question and of one guard, and end in the same. -/
inductive Alike {Result : Type} (mine : NodeId → Prop) (guard : GuardId)
    (same : Result → Result → Prop) : Program Result → Program Result → Prop where
  | done {one other : Result} (results : same one other) :
      Alike mine guard same (.done one) (.done other)
  | call {node : NodeId} {method : NodeCall}
      {next nextOther : Except Failure method.Answer → Program Result} (inside : mine node)
      (later : ∀ reply replyOther, SameOutcome reply replyOther →
        Alike mine guard same (next reply) (nextOther replyOther)) :
      Alike mine guard same (.ask (.call node method) next) (.ask (.call node method) nextOther)
  | nodeName {node : NodeId} {next nextOther : String → Program Result} (inside : mine node)
      (later : ∀ name, Alike mine guard same (next name) (nextOther name)) :
      Alike mine guard same (.ask (.nodeName node) next) (.ask (.nodeName node) nextOther)
  | cancelRequested {next nextOther : Bool → Program Result}
      (later : ∀ requested, Alike mine guard same (next requested) (nextOther requested)) :
      Alike mine guard same (.ask .cancelRequested next) (.ask .cancelRequested nextOther)
  | log {record recordOther : Log.Record} {next nextOther : Unit → Program Result}
      (later : Alike mine guard same (next ()) (nextOther ())) :
      Alike mine guard same (.ask (.log record) next) (.ask (.log recordOther) nextOther)
  | noteNode {error : ErrorId} {name nameOther : String} {next nextOther : Unit → Program Result}
      (later : Alike mine guard same (next ()) (nextOther ())) :
      Alike mine guard same (.ask (.noteNode error name) next)
        (.ask (.noteNode error nameOther) nextOther)
  | enter {next nextOther : Bool → Program Result}
      (later : ∀ entered, Alike mine guard same (next entered) (nextOther entered)) :
      Alike mine guard same (.ask (.enter guard) next) (.ask (.enter guard) nextOther)
  | leave {next nextOther : Unit → Program Result}
      (later : Alike mine guard same (next ()) (nextOther ())) :
      Alike mine guard same (.ask (.leave guard) next) (.ask (.leave guard) nextOther)

variable {mine : NodeId → Prop} {guard : GuardId}

theorem alike_bind {middle : First → First → Prop} {same : Second → Second → Prop}
    {one other : Program First} {next nextOther : First → Program Second}
    (first : one.Alike mine guard middle other)
    (last : ∀ value valueOther, middle value valueOther →
      (next value).Alike mine guard same (nextOther valueOther)) :
    (one.bind next).Alike mine guard same (other.bind nextOther) := by
  induction first with
  | done results => exact last _ _ results
  | call inside _ ih => exact .call inside ih
  | nodeName inside _ ih => exact .nodeName inside ih
  | cancelRequested _ ih => exact .cancelRequested ih
  | log _ ih => exact .log ih
  | noteNode _ ih => exact .noteNode ih
  | enter _ ih => exact .enter ih
  | leave _ ih => exact .leave ih

/-- A program that is alike to itself stays so along every course. -/
theorem alike_self_of_follows {Result : Type} {same : Result → Result → Prop}
    {program rest : Program Result} {course : List Exchange}
    (followed : program.Follows course rest) (alike : program.Alike mine guard same program) :
    rest.Alike mine guard same rest := by
  induction followed with
  | here => exact alike
  | further _ ih =>
      apply ih
      cases alike with
      | call _ later => exact later _ _ (same_outcome_self _)
      | nodeName _ later => exact later _
      | cancelRequested later => exact later _
      | log later => exact later
      | noteNode later => exact later
      | enter later => exact later _
      | leave later => exact later

theorem alike_waiting {Result : Type} {same : Result → Result → Prop} {node : NodeId}
    {method : NodeCall} {next : Except Failure method.Answer → Program Result}
    {other : Program Result}
    (alike : (ask (.call node method) next).Alike mine guard same other) :
    mine node ∧ ∃ nextOther, other = .ask (.call node method) nextOther ∧
      ∀ reply replyOther, SameOutcome reply replyOther →
        (next reply).Alike mine guard same (nextOther replyOther) := by
  cases alike with
  | call inside later => exact ⟨inside, _, rfl, later⟩

/-- The program concerns other nodes and another guard only. -/
def LeavesAlone {Result : Type} (mine : NodeId → Prop) (guard : GuardId)
    (program : Program (Except Failure Result)) : Prop :=
  ∃ theirs theirGuard, (∀ node, theirs node → ¬ mine node) ∧ theirGuard ≠ guard ∧
    program.Alike theirs theirGuard SameOutcome program

theorem leaves_alone_of_follows {Result : Type} {program rest : Program (Except Failure Result)}
    {course : List Exchange} (followed : program.Follows course rest)
    (apart : program.LeavesAlone mine guard) : rest.LeavesAlone mine guard := by
  obtain ⟨theirs, theirGuard, outside, different, alike⟩ := apart
  exact ⟨theirs, theirGuard, outside, different, alike_self_of_follows followed alike⟩

theorem leaves_alone_of_waiting {Result : Type} {node : NodeId} {method : NodeCall}
    {next : Except Failure method.Answer → Program (Except Failure Result)}
    (apart : (ask (.call node method) next).LeavesAlone mine guard) :
    ¬ mine node ∧ ∀ reply, (next reply).LeavesAlone mine guard := by
  obtain ⟨theirs, theirGuard, outside, different, alike⟩ := apart
  obtain ⟨inside, _, equal, later⟩ := alike_waiting alike
  cases equal
  exact ⟨outside node inside, fun reply =>
    ⟨theirs, theirGuard, outside, different, later reply reply (same_outcome_self reply)⟩⟩

end Program

namespace World

variable {State Result : Type}

/-- The worlds agree on the nodes in question and on how often the guard is held. -/
structure Agrees (mine : NodeId → Prop) (guard : GuardId) (one other : World State) : Prop where
  nodes : ∀ node, mine node → one.nodes node = other.nodes node
  held : one.held.count guard = other.held.count guard

section Agreeing

variable {mine : NodeId → Prop} {guard : GuardId} {one other : World State}

theorem held_iff_of_agrees (agrees : Agrees mine guard one other) :
    guard ∈ one.held ↔ guard ∈ other.held := by
  rw [← List.count_pos_iff, ← List.count_pos_iff, agrees.held]

theorem unnoted_raised (world : World State) (failure : Failure) :
    (world.raised failure).unnoted = failure.leavingCall.unnoted := by
  unfold raised
  split
  · next error identity left =>
      rw [left]
      split <;> rfl
  · rfl

theorem agrees_settle (agrees : Agrees mine guard one other) (node : NodeId) {method : NodeCall}
    (reply : State × Except Failure method.Answer) :
    Agrees mine guard (one.settle node reply).1 (other.settle node reply).1 ∧
      SameOutcome (one.settle node reply).2 (other.settle node reply).2 := by
  constructor
  · constructor
    · intro shown inside
      simp only [settle, setNode]
      split
      · rfl
      · exact agrees.nodes shown inside
    · exact agrees.held
  · obtain ⟨state, result⟩ := reply
    cases result with
    | ok value => exact .ok value
    | error failure =>
        exact .error ((unnoted_raised one failure).trans (unnoted_raised other failure).symm)

theorem settle_keeps_others {others : NodeId → Prop} {base world : World State}
    (agrees : Agrees others guard base world) {node : NodeId} (outside : ¬ others node)
    {method : NodeCall} (reply : State × Except Failure method.Answer) :
    Agrees others guard base (world.settle node reply).1 := by
  constructor
  · intro shown present
    simp only [settle, setNode]
    rw [if_neg]
    · exact agrees.nodes shown present
    · intro equal
      subst equal
      exact outside present
  · exact agrees.held

theorem agrees_answer (agrees : Agrees mine guard one other) (behaviour : Behaviour State)
    {node : NodeId} (inside : mine node) (method : NodeCall) :
    Agrees mine guard (one.answer behaviour node method).1 (other.answer behaviour node method).1 ∧
      SameOutcome (one.answer behaviour node method).2 (other.answer behaviour node method).2 := by
  unfold answer
  rw [agrees.nodes node inside]
  exact agrees_settle agrees node _

theorem agrees_breakOff (agrees : Agrees mine guard one other) (behaviour : Behaviour State)
    {node : NodeId} (inside : mine node) (method : NodeCall) :
    Agrees mine guard (one.breakOff behaviour node method).1
        (other.breakOff behaviour node method).1 ∧
      SameOutcome (one.breakOff behaviour node method).2
        (other.breakOff behaviour node method).2 := by
  unfold breakOff
  rw [agrees.nodes node inside]
  exact agrees_settle agrees node _

/-- Alike programs take alike turns in agreeing worlds: afterwards the worlds agree still, the rests
are alike, and the same calls were answered. -/
theorem run_alike (behaviour : Behaviour State) (turn : Turn) {same : Result → Result → Prop}
    {program programOther : Program Result}
    (alike : program.Alike mine guard same programOther) (agrees : Agrees mine guard one other) :
    Agrees mine guard (one.run behaviour turn program).1
        (other.run behaviour turn programOther).1 ∧
      (one.run behaviour turn program).2.remaining.Alike mine guard same
        (other.run behaviour turn programOther).2.remaining ∧
      answeredCalls (one.exchanges behaviour turn program) =
        answeredCalls (other.exchanges behaviour turn programOther) := by
  induction alike generalizing one other with
  | done results => exact ⟨agrees, .done results, rfl⟩
  | @call node method next nextOther inside later ih =>
      have called : Agrees mine guard (one.noteCall behaviour node method)
          (other.noteCall behaviour node method) := ⟨agrees.nodes, agrees.held⟩
      have waits : (one.noteCall behaviour node method).ticket? behaviour turn node method =
          (other.noteCall behaviour node method).ticket? behaviour turn node method := by
        unfold ticket?
        rw [called.nodes node inside]
      simp only [run, exchanges, ← waits]
      cases (one.noteCall behaviour node method).ticket? behaviour turn node method with
      | some ticket => exact ⟨called, .call inside later, rfl⟩
      | none =>
          obtain ⟨answered, replies⟩ := agrees_answer called behaviour inside method
          obtain ⟨ran, rest, calls⟩ := ih _ _ replies answered
          exact ⟨ran, rest, congrArg ((node, method) :: ·) calls⟩
  | nodeName inside _ ih =>
      simp only [run, exchanges, ← agrees.nodes _ inside]
      exact ih _ agrees
  | cancelRequested _ ih => exact ih _ agrees
  | log _ ih => exact ih ⟨agrees.nodes, agrees.held⟩
  | noteNode _ ih => exact ih ⟨agrees.nodes, agrees.held⟩
  | enter _ ih =>
      -- The guard is held equally often in both worlds, so it lets both in or neither.
      simp only [run, exchanges, ← held_iff_of_agrees agrees]
      by_cases held : guard ∈ one.held
      · simp only [if_pos held]
        exact ih false agrees
      · simp only [if_neg held]
        apply ih true
        constructor
        · exact agrees.nodes
        · rw [List.count_cons_self, List.count_cons_self, agrees.held]
  | leave _ ih =>
      apply ih
      constructor
      · exact agrees.nodes
      · rw [List.count_erase_self, List.count_erase_self, agrees.held]

/-- Nodes and guards that a program does not name are left as they are. -/
theorem run_keeps_others (behaviour : Behaviour State) (turn : Turn)
    {same : Result → Result → Prop} {program programOther : Program Result}
    {base world : World State}
    (alike : program.Alike mine guard same programOther) {others : NodeId → Prop}
    {otherGuard : GuardId} (apart : ∀ node, mine node → ¬ others node)
    (different : guard ≠ otherGuard) (agrees : Agrees others otherGuard base world) :
    Agrees others otherGuard base (world.run behaviour turn program).1 := by
  induction alike generalizing world with
  | done results => exact agrees
  | @call node method next nextOther inside later ih =>
      have called : Agrees others otherGuard base (world.noteCall behaviour node method) :=
        ⟨agrees.nodes, agrees.held⟩
      simp only [run]
      cases (world.noteCall behaviour node method).ticket? behaviour turn node method with
      | some ticket => exact called
      | none =>
          exact ih _ _ (same_outcome_self _)
            (settle_keeps_others called (apart node inside) (behaviour.answer _ method))
  | nodeName _ _ ih => exact ih _ agrees
  | cancelRequested _ ih => exact ih _ agrees
  | log _ ih => exact ih ⟨agrees.nodes, agrees.held⟩
  | noteNode _ ih => exact ih ⟨agrees.nodes, agrees.held⟩
  | enter _ ih =>
      simp only [run]
      by_cases held : guard ∈ world.held
      · simp only [if_pos held]
        exact ih false agrees
      · simp only [if_neg held]
        apply ih true
        constructor
        · exact agrees.nodes
        · rw [agrees.held]
          exact (List.count_cons_of_ne different).symm
  | leave _ ih =>
      apply ih
      constructor
      · exact agrees.nodes
      · rw [agrees.held]
        exact (List.count_erase_of_ne different.symm).symm

theorem run_leaves_alone (behaviour : Behaviour State) (turn : Turn)
    {program : Program (Except Failure Result)} (apart : program.LeavesAlone mine guard)
    {base world : World State} (agrees : Agrees mine guard base world) :
    Agrees mine guard base (world.run behaviour turn program).1 := by
  obtain ⟨theirs, theirGuard, outside, different, alike⟩ := apart
  exact run_keeps_others behaviour turn alike outside different agrees

end Agreeing

end World

namespace Attempt

variable {Result First Second : Type} {mine : NodeId → Prop} {guard : GuardId}

def Alike (mine : NodeId → Prop) (guard : GuardId) (one other : Attempt Result) : Prop :=
  one.run.Alike mine guard SameOutcome other.run

theorem alike_pure (value : Result) :
    Alike mine guard (pure value : Attempt Result) (pure value) :=
  .done (.ok value)

theorem alike_throw {one other : Failure} (same : one.unnoted = other.unnoted) :
    Alike mine guard (throw one : Attempt Result) (throw other) :=
  .done (.error same)

theorem alike_ofExcept (given : Except Failure Result) :
    Alike mine guard (ofExcept given) (ofExcept given) :=
  .done (same_outcome_self given)

theorem alike_call {node : NodeId} (inside : mine node) (method : NodeCall) :
    Alike mine guard (call node method) (call node method) :=
  .call inside fun _ _ same => .done same

theorem alike_nodeName {node : NodeId} (inside : mine node) :
    Alike mine guard (nodeName node) (nodeName node) :=
  .nodeName inside fun name => .done (.ok name)

theorem alike_cancelRequested :
    Alike mine guard (perform .cancelRequested) (perform .cancelRequested) :=
  .cancelRequested fun requested => .done (.ok requested)

theorem alike_log (record recordOther : Log.Record) :
    Alike mine guard (log record) (log recordOther) :=
  .log (.done (.ok ()))

theorem alike_noteNode (error : ErrorId) (name nameOther : String) :
    Alike mine guard (perform (.noteNode error name)) (perform (.noteNode error nameOther)) :=
  .noteNode (.done (.ok ()))

theorem alike_bind {one other : Attempt First} {next nextOther : First → Attempt Second}
    (first : one.Alike mine guard other)
    (last : ∀ value, (next value).Alike mine guard (nextOther value)) :
    (one >>= next).Alike mine guard (other >>= nextOther) := by
  apply Program.alike_bind first
  intro result resultOther same
  cases same with
  | ok value => exact last value
  | error failures => exact .done (.error failures)

theorem alike_composes : Composes fun _ attempt => attempt.Alike mine guard attempt where
  pure := alike_pure
  bind := alike_bind

end Attempt

namespace Strategy

variable {mine : NodeId → Prop} {guard : GuardId} {node : NodeId}

theorem fetch_failed_alike (inside : mine node) {error errorOther : RetentionError}
    (identity : Option ErrorId) :
    (fetchFailed node error identity).Alike mine guard (fetchFailed node errorOther identity) := by
  refine Attempt.alike_bind (Attempt.alike_nodeName inside) ?_
  intro name
  cases identity with
  | none =>
      exact Attempt.alike_bind (Attempt.alike_log _ _) fun _ => Attempt.alike_pure none
  | some shared =>
      exact Attempt.alike_bind (Attempt.alike_noteNode shared _ _) fun _ =>
        Attempt.alike_bind (Attempt.alike_log _ _) fun _ => Attempt.alike_pure none

theorem handle_fetch_failure_alike_self (inside : mine node) (failure : Failure) :
    (handleFetchFailure node failure).Alike mine guard (handleFetchFailure node failure) := by
  have parts : FetchParts (fun _ attempt => attempt.Alike mine guard attempt) node :=
    { Attempt.alike_composes with
      nodeName := Attempt.alike_nodeName inside
      note := fun error name => Attempt.alike_noteNode error name name
      tell := fun name error => Attempt.alike_log _ _ }
  exact handle_fetch_failure_holds parts Attempt.alike_ofExcept Attempt.alike_cancelRequested failure

theorem handle_fetch_failure_alike (inside : mine node) {failure failureOther : Failure}
    (same : failure.unnoted = failureOther.unnoted) :
    (handleFetchFailure node failure).Alike mine guard (handleFetchFailure node failureOther) := by
  rcases Failure.eq_or_shared_of_unnoted same with
    rfl | ⟨error, errorOther, identity, rfl, rfl, -, detail⟩
  · exact handle_fetch_failure_alike_self inside failure
  · have kind : error.isFactFetch = errorOther.isFactFetch := by
      rw [RetentionError.isFactFetch, RetentionError.isFactFetch, detail]
    simp only [handleFetchFailure, ← kind]
    split
    · exact fetch_failed_alike inside (some identity)
    · exact Attempt.alike_throw same

theorem gather_facts_alike (inside : mine node) :
    (gatherFacts node).Alike mine guard (gatherFacts node) := by
  refine .call inside ?_
  intro reply replyOther same
  cases same with
  | error failures => exact handle_fetch_failure_alike inside failures
  | ok uptime =>
      refine Attempt.alike_bind (Attempt.alike_call inside .isOffline) fun isOffline => ?_
      refine Attempt.alike_bind (Attempt.alike_call inside .running) fun running => ?_
      refine Attempt.alike_bind (Attempt.alike_call inside .idle) fun idle => ?_
      exact Attempt.alike_pure _

section Visits

variable {visited : Option NodeId}

theorem evaluate_alike (inside : ∀ present, visited = some present → mine present)
    (strategy : Strategy) :
    (strategy.evaluate visited).Alike mine guard (strategy.evaluate visited) := by
  refine evaluate_holds Attempt.alike_composes fun present same => ?_
  exact { Attempt.alike_composes with
    call := fun method _ => Attempt.alike_call (inside present same) method
    nodeName := Attempt.alike_nodeName (inside present same)
    gather := gather_facts_alike (inside present same)
    decide := fun facts => Attempt.alike_ofExcept _
    announce := fun name decision => Attempt.alike_log _ _ }

theorem name_of_alike (inside : ∀ present, visited = some present → mine present) :
    (nameOf visited).Alike mine guard (nameOf visited) := by
  cases visited with
  | none => exact Attempt.alike_pure none
  | some present =>
      exact Attempt.alike_bind (Attempt.alike_nodeName (inside present rfl)) fun name =>
        Attempt.alike_pure (some name)

theorem report_failure_alike_self (inside : ∀ present, visited = some present → mine present)
    (failure : Failure) :
    (reportFailure visited failure).Alike mine guard (reportFailure visited failure) := by
  unfold reportFailure
  split
  · refine Attempt.alike_bind (name_of_alike inside) fun name => ?_
    exact Attempt.alike_bind (Attempt.alike_ofExcept _) fun text => Attempt.alike_log _ _
  · exact Attempt.alike_throw rfl

/-- A shared error is reported with its message, whatever node is noted on it. -/
theorem report_failure_alike (inside : ∀ present, visited = some present → mine present)
    {failure failureOther : Failure} (same : failure.unnoted = failureOther.unnoted) :
    (reportFailure visited failure).Alike mine guard (reportFailure visited failureOther) := by
  obtain ⟨-, texts, -⟩ := Failure.told_same_of_unnoted same
  rcases Failure.eq_or_shared_of_unnoted same with
    rfl | ⟨error, errorOther, identity, rfl, rfl, -⟩
  · exact report_failure_alike_self inside failure
  · simp only [reportFailure, ← texts]
    refine Attempt.alike_bind (name_of_alike inside) fun name => ?_
    exact Attempt.alike_bind (Attempt.alike_ofExcept _) fun text => Attempt.alike_log _ _

theorem checked_alike (inside : ∀ present, visited = some present → mine present)
    {result resultOther : Except Failure Decision} (same : SameOutcome result resultOther) :
    (checked visited result).Alike mine guard SameOutcome (checked visited resultOther) := by
  cases same with
  | ok decision => exact .done (.ok recheckMinutes)
  | error failures =>
      exact Attempt.alike_bind (report_failure_alike inside failures) fun _ =>
        Attempt.alike_pure recheckMinutes

theorem enclosed_alike {Result : Type}
    (inside : ∀ present, visited = some present → mine present) (strategy : Strategy)
    {settle : Except Failure Decision → Program (Except Failure Result)}
    {skipped : Except Failure Result}
    (settled : ∀ result resultOther, SameOutcome result resultOther →
      (settle result).Alike mine strategy.guard SameOutcome (settle resultOther)) :
    (strategy.enclosed visited settle skipped).Alike mine strategy.guard SameOutcome
      (strategy.enclosed visited settle skipped) := by
  have entered : ∀ name entered,
      (strategy.entering visited settle skipped name entered).Alike mine strategy.guard SameOutcome
        (strategy.entering visited settle skipped name entered) := by
    intro name entered
    cases entered with
    | true =>
        exact Program.alike_bind (evaluate_alike inside strategy) fun _ _ same =>
          .leave (settled _ _ same)
    | false => exact .log (.done (same_outcome_self skipped))
  cases visited with
  | none => exact .enter (entered none)
  | some present => exact .nodeName (inside present rfl) fun name => .enter (entered (some name))

theorem start_alike (inside : ∀ present, visited = some present → mine present) :
    (start visited).Alike mine guard (start visited) := by
  cases visited with
  | none => exact Attempt.alike_throw rfl
  | some present =>
      refine Attempt.alike_bind (Attempt.alike_nodeName (inside present rfl)) fun name => ?_
      exact Attempt.alike_bind (Attempt.alike_log _ _) fun _ =>
        Attempt.alike_call (inside present rfl) (.connect false)

end Visits

end Strategy

namespace Operation

variable {mine : NodeId → Prop} {visited : Option NodeId}

theorem settle_alike (inside : ∀ present, visited = some present → mine present)
    {guard : GuardId} (operation : Operation) {result resultOther : Except Failure Decision}
    (same : SameOutcome result resultOther) :
    (operation.settle visited result).Alike mine guard SameOutcome
      (operation.settle visited resultOther) := by
  cases operation with
  | start => exact .done (.ok CallResult.started)
  | evaluate => exact .done (same_outcome_map same _)
  | tryEvaluate => exact .done (same_outcome_map same _)
  | check =>
      exact Program.alike_bind (Strategy.checked_alike inside same) fun _ _ minutes =>
        .done (same_outcome_map minutes _)

/-- Whatever is asked for, a visit asks of its node and of its strategy's guard only, and what is
noted on errors makes no difference to it. -/
theorem attempt_alike (operation : Operation) (strategy : Strategy)
    (inside : ∀ present, visited = some present → mine present) :
    (operation.attempt strategy visited).Alike mine strategy.guard
      (operation.attempt strategy visited) := by
  cases operation with
  | start =>
      exact Attempt.alike_bind (Strategy.start_alike inside) fun _ =>
        Attempt.alike_pure CallResult.started
  | evaluate =>
      exact Attempt.alike_bind (Strategy.evaluate_alike inside strategy) fun _ =>
        Attempt.alike_pure _
  | check =>
      have known : check.skipResult = some (.recheck Strategy.recheckMinutes) := rfl
      unfold Attempt.Alike
      rw [attempt_run_of_guarded known]
      exact Strategy.enclosed_alike inside strategy fun _ _ => settle_alike inside .check
  | tryEvaluate =>
      have known : tryEvaluate.skipResult = some (.outcome .skipped) := rfl
      unfold Attempt.Alike
      rw [attempt_run_of_guarded known]
      exact Strategy.enclosed_alike inside strategy fun _ _ => settle_alike inside .tryEvaluate

end Operation

end Teardown
