import Teardown.Proofs.Chronicle
import Teardown.Proofs.FetchFailure

/-!
# The account of the failed fetches

Which fetches fail, and what is told of each. A visit tells of a fetch that failed before anybody else
has a turn, so every record belongs to the fetch that failed last. What is noted on a shared error
thereby is on it still when it is raised again.
-/

namespace Teardown

set_option autoImplicit false

/-- Only failed fetches are told of by the strategies' logger and for debugging. -/
def Log.Record.tellsFetch (record : Log.Record) : Bool :=
  record.logger == Strategy.loggerName && record.level == Log.debugLevel

theorem Log.Record.tells_fetch_of_level {record : Log.Record}
    (other : record.level ≠ Log.debugLevel) : record.tellsFetch = false := by
  simp [tellsFetch, other]

/-- A request that has nothing to do with failed fetches. -/
def Request.Plain : Request → Prop
  | .call _ method => method ≠ .uptime
  | .log record => record.tellsFetch = false
  | .noteNode _ _ | .cancelRequested => False
  | .nodeName _ | .enter _ | .leave _ => True

/-- Whenever the program fetches and the fetch fails, it handles the failure at once. Other than that
it notes nothing on errors, tells of no failed fetch and does not ask whether it is to stop. -/
inductive Program.TellsFetches {Result : Type} : Program Result → Prop where
  | done (result : Result) : TellsFetches (.done result)
  | fetch {node : NodeId} {next : Except Failure Duration → Program Result}
      (rest : Failure → Except Failure (Option Facts) → Program Result)
      (handled : ∀ failure, next (.error failure) =
        (Strategy.handleFetchFailure node failure).run.bind (rest failure))
      (failed : ∀ failure result, TellsFetches (rest failure result))
      (fetched : ∀ uptime, TellsFetches (next (.ok uptime))) :
      TellsFetches (.ask (.call node .uptime) next)
  | plain {request : Request} {next : request.Answer → Program Result} (other : request.Plain)
      (later : ∀ answer, TellsFetches (next answer)) : TellsFetches (.ask request next)

theorem Program.tells_fetches_bind {First Second : Type} {program : Program First}
    {next : First → Program Second} (first : program.TellsFetches)
    (last : ∀ value, (next value).TellsFetches) : (program.bind next).TellsFetches := by
  induction first with
  | done value => exact last value
  | fetch rest handled _ _ failed fetched =>
      refine .fetch (fun failure result => (rest failure result).bind next) ?_ failed fetched
      intro failure
      rw [handled, Program.bind_assoc]
  | plain other _ later => exact .plain other later

namespace Attempt

variable {Result First Second : Type}

def TellsFetches (attempt : Attempt Result) : Prop := attempt.run.TellsFetches

theorem tells_fetches_pure (value : Result) : TellsFetches (pure value) := .done _

theorem tells_fetches_throw (failure : Failure) : TellsFetches (throw failure : Attempt Result) :=
  .done _

theorem tells_fetches_ofExcept (given : Except Failure Result) : TellsFetches (ofExcept given) :=
  .done _

theorem tells_fetches_perform (request : Request) (other : request.Plain) :
    TellsFetches (perform request) :=
  .plain other fun _ => .done _

theorem tells_fetches_nodeName (node : NodeId) : TellsFetches (nodeName node) :=
  tells_fetches_perform (.nodeName node) trivial

theorem tells_fetches_log {record : Log.Record} (other : record.tellsFetch = false) :
    TellsFetches (log record) :=
  .plain other fun _ => .done _

theorem tells_fetches_call (node : NodeId) {method : NodeCall} (other : method ≠ .uptime) :
    TellsFetches (call node method) :=
  .plain other fun _ => .done _

theorem tells_fetches_bind {attempt : Attempt First} {next : First → Attempt Second}
    (first : attempt.TellsFetches) (last : ∀ value, (next value).TellsFetches) :
    (attempt >>= next).TellsFetches := by
  apply Program.tells_fetches_bind first
  intro result
  cases result with
  | error failure => exact .done _
  | ok value => exact last value

theorem tells_fetches_outcome {attempt : Attempt Result} (tells : attempt.TellsFetches) :
    attempt.outcome.TellsFetches :=
  Program.tells_fetches_bind tells fun _ => .done _

theorem tells_fetches_composes : Composes fun _ attempt => attempt.TellsFetches where
  pure := tells_fetches_pure
  bind := tells_fetches_bind

end Attempt

namespace Strategy

theorem gather_facts_tells_fetches (node : NodeId) : (gatherFacts node).TellsFetches := by
  refine .fetch (fun _ result => .done result) ?_ (fun _ result => .done result) ?_
  · intro failure
    exact (Program.bind_done _).symm
  · intro uptime
    apply Attempt.tells_fetches_bind (Attempt.tells_fetches_call node (by decide))
    intro isOffline
    apply Attempt.tells_fetches_bind (Attempt.tells_fetches_call node (by decide))
    intro running
    apply Attempt.tells_fetches_bind (Attempt.tells_fetches_call node (by decide))
    intro idle
    exact Attempt.tells_fetches_pure _

theorem evaluate_tells_fetches (strategy : Strategy) (node : Option NodeId) :
    (strategy.evaluate node).TellsFetches := by
  refine evaluate_holds Attempt.tells_fetches_composes fun present _ => ?_
  have announced : Log.infoLevel ≠ Log.debugLevel := by decide
  exact { Attempt.tells_fetches_composes with
    call := fun method other => Attempt.tells_fetches_call present other
    nodeName := Attempt.tells_fetches_nodeName present
    gather := gather_facts_tells_fetches present
    decide := fun facts => Attempt.tells_fetches_ofExcept _
    announce := fun name decision =>
      Attempt.tells_fetches_log (Log.Record.tells_fetch_of_level announced) }

theorem skip_record_tells_no_fetch (name : Option String) : (skipRecord name).tellsFetch = false := by
  have other : guardLoggerName ≠ loggerName := by decide
  simp [Log.Record.tellsFetch, skipRecord, other]

end Strategy

theorem Operation.attempt_tells_fetches (operation : Operation) (strategy : Strategy)
    (node : Option NodeId) : (operation.attempt strategy node).TellsFetches := by
  have failed : Log.errorLevel ≠ Log.debugLevel := by decide
  have requested : Log.infoLevel ≠ Log.debugLevel := by decide
  exact attempt_holds { Attempt.tells_fetches_composes with
    throw := Attempt.tells_fetches_throw
    outcome := Attempt.tells_fetches_outcome
    nodeName := fun present _ => Attempt.tells_fetches_nodeName present
    evaluate := strategy.evaluate_tells_fetches node
    connect := fun present _ => Attempt.tells_fetches_call present (by decide)
    enter := fun _ => Attempt.tells_fetches_perform _ trivial
    leave := fun _ => Attempt.tells_fetches_perform _ trivial
    skip := fun name => Attempt.tells_fetches_log (Strategy.skip_record_tells_no_fetch name)
    report := fun name failure text =>
      Attempt.tells_fetches_log (Log.Record.tells_fetch_of_level failed)
    start := fun name =>
      Attempt.tells_fetches_log (Log.Record.tells_fetch_of_level requested) }

variable {State : Type}

/-- A call for the uptime that failed: the node and its state when it was asked, and the failure.
Whether the caller was asked to stop is known only where that was looked up. Each record that tells of
the fetch stands with the name that the node had then. -/
structure FailedFetch (State : Type) where
  node : NodeId
  state : State
  failure : Failure
  asked : Bool := false
  told : List (String × Log.Record) := []

/-- What a moment adds to the failed fetches so far, the latest of which comes first. -/
def FailedFetch.note (behaviour : Behaviour State) (fetches : List (FailedFetch State))
    (moment : Moment State) : List (FailedFetch State) :=
  match moment.exchange, fetches with
  | ⟨.call node .uptime, .error failure⟩, _ =>
      { node := node, state := moment.world.nodes node, failure := failure } :: fetches
  | ⟨.cancelRequested, asked⟩, fetch :: earlier => { fetch with asked := asked } :: earlier
  | ⟨.log record, _⟩, fetch :: earlier =>
      if record.tellsFetch then
        let name := behaviour.name (moment.world.nodes fetch.node)
        { fetch with told := fetch.told ++ [(name, record)] } :: earlier
      else fetch :: earlier
  | _, fetches => fetches

def failedFetches (behaviour : Behaviour State) (annals : List (Moment State)) :
    List (FailedFetch State) :=
  annals.foldl (FailedFetch.note behaviour) []

def Behaviour.Raises (behaviour : Behaviour State) (state : State) (failure : Failure) : Prop :=
  (behaviour.answer state .uptime).2 = .error failure ∨
    (behaviour.breakOff state .uptime).2 = .error failure

theorem World.raised_shared {world : World State} {failure : Failure} {error : RetentionError}
    {id : ErrorId} (came : world.raised failure = .retention error (some id)) :
    ∃ original, failure = .retention original (some id) ∧
      error.context.nodeName = (world.noted.lookup id).or original.context.nodeName := by
  cases failure with
  | retention original identity =>
      cases identity with
      | none => cases came
      | some shared =>
          simp only [raised, Failure.leavingCall] at came
          cases noted : world.noted.lookup shared with
          | none =>
              rw [noted] at came
              cases came
              exact ⟨_, rfl, by rw [noted, Option.none_or]⟩
          | some name =>
              rw [noted] at came
              cases came
              exact ⟨_, rfl, by rw [noted, Option.some_or]⟩
  | foreign given =>
      obtain ⟨other, left⟩ : ∃ other, (Failure.foreign given).leavingCall = .foreign other := by
        simp only [Failure.leavingCall]
        split <;> exact ⟨_, rfl⟩
      rw [raised, left] at came
      cases came
  | _ => cases came

/-- What a shared error carries comes from what was noted, or from the node that raised it. -/
def Failure.Stands (behaviour : Behaviour State) (noted : List (ErrorId × String)) (state : State)
    (failure : Failure) : Prop :=
  ∀ (error : RetentionError) (id : ErrorId), failure = .retention error (some id) →
    ∃ original, behaviour.Raises state (.retention original (some id)) ∧
      error.context.nodeName = (noted.lookup id).or original.context.nodeName

theorem stands_of_settled {behaviour : Behaviour State} {world : World State} {node : NodeId}
    {state : State} {reply : State × Except Failure Duration} {failure : Failure}
    (raises : ∀ original, reply.2 = .error original → behaviour.Raises state original)
    (failed : (@World.settle State .uptime world node reply).2 = .error failure) :
    failure.Stands behaviour world.noted state := by
  intro error id same
  subst same
  obtain ⟨next, answer⟩ := reply
  cases answer with
  | ok uptime => cases failed
  | error raised =>
      obtain ⟨original, rfl, carried⟩ := World.raised_shared (Except.error.inj failed)
      exact ⟨original, raises _ rfl, carried⟩

theorem stands_of_answered {behaviour : Behaviour State} {world : World State} {node : NodeId}
    {failure : Failure} (failed : (world.answer behaviour node .uptime).2 = .error failure) :
    failure.Stands behaviour world.noted (world.nodes node) :=
  stands_of_settled (fun _ => .inl) failed

theorem stands_of_brokenOff {behaviour : Behaviour State} {world : World State} {node : NodeId}
    {failure : Failure} (failed : (world.breakOff behaviour node .uptime).2 = .error failure) :
    failure.Stands behaviour world.noted (world.nodes node) :=
  stands_of_settled (fun _ => .inr) failed

namespace Failure

/-- The failure is one that is told of. For a broken connection it takes a text. -/
def IsTold (asked : Bool) (failure : Failure) : Prop :=
  failure.IsFetchFailure asked ∧
    (failure.family = .connectivity → ∃ text, failure.text = .ok text)

theorem is_told_retention_iff (asked : Bool) (error : RetentionError) (identity : Option ErrorId) :
    (retention error identity).IsTold asked ↔ error.isFactFetch = true := by
  constructor
  · rintro ⟨⟨reason, detail⟩, -⟩
    rw [RetentionError.isFactFetch, detail]
  · intro isFetch
    cases detail : error.detail with
    | factFetch reason => exact ⟨⟨reason, detail⟩, Family.noConfusion⟩
    | _ => simp [RetentionError.isFactFetch, detail] at isFetch

section Foreign

variable {error : Foreign}

theorem is_told_connectivity_iff (asked : Bool) (family : error.family = .connectivity) :
    (foreign error).IsTold asked ↔ ∃ text, (foreign error).text = .ok text := by
  have known := (Foreign.family_connectivity_iff error).mp family
  exact ⟨fun due => due.2 family, fun worded => ⟨.inl known, fun _ => worded⟩⟩

theorem is_told_cancellation_iff (asked : Bool) (family : error.family = .cancellation) :
    (foreign error).IsTold asked ↔ asked = false := by
  have known := (Foreign.family_cancellation_iff error).mp family
  have unconnected : (foreign error).family ≠ .connectivity := by
    intro connected
    rw [show (foreign error).family = error.family from rfl, family] at connected
    cases connected
  constructor
  · rintro ⟨connected | ⟨-, unasked⟩, -⟩
    · exact absurd ((Foreign.family_connectivity_iff error).mpr connected) unconnected
    · exact unasked
  · intro unasked
    exact ⟨.inr ⟨known, unasked⟩, fun connected => absurd connected unconnected⟩

theorem not_told_of_other_family (asked : Bool) (unconnected : error.family ≠ .connectivity)
    (uncancelled : error.family ≠ .cancellation) : ¬ (foreign error).IsTold asked := by
  rintro ⟨connected | ⟨cancelled, -⟩, -⟩
  · exact unconnected ((Foreign.family_connectivity_iff error).mpr connected)
  · exact uncancelled ((Foreign.family_cancellation_iff error).mpr cancelled)

end Foreign

end Failure

/-- The name of the node that an error is put down to when it makes a fetch fail on a node. -/
def RetentionError.nameAt (error : RetentionError) (name : String) : String :=
  let known := error.context.nodeName.getD ""
  if known.isEmpty then name else known

theorem RetentionError.name_at_unnamed {error : RetentionError}
    (unnamed : error.context.nodeName = none) (name : String) : error.nameAt name = name := by
  simp [nameAt, unnamed]

namespace Strategy

theorem tells_fetch_fetchRecord (name : String) (error : RetentionError) :
    (fetchRecord name error).tellsFetch = true := by
  simp [Log.Record.tellsFetch, fetchRecord]

theorem node_name_fetchRecord (name : String) (error : RetentionError) :
    (fetchRecord name (error.atNode name)).field? "node_name" =
      some (.string (error.nameAt name)) := by
  simp [Log.Record.field?, fetchRecord, RetentionError.logFields, RetentionError.atNode,
    RetentionError.nameAt, List.lookup_cons]

end Strategy

/-- A record for debugging that is about a node of this name. -/
structure Log.Record.Names (record : Log.Record) (name : String) : Prop where
  level : record.level = Log.debugLevel
  field : record.field? "node_name" = some (.string name)

theorem Strategy.fetch_record_names (name : String) (error : RetentionError) :
    (fetchRecord name (error.atNode name)).Names (error.nameAt name) where
  level := rfl
  field := node_name_fetchRecord name error

namespace FailedFetch

theorem note_of_plain {request : Request} (other : request.Plain) (behaviour : Behaviour State)
    (fetches : List (FailedFetch State)) (world : World State) (answer : request.Answer) :
    note behaviour fetches ⟨world, ⟨request, answer⟩⟩ = fetches := by
  cases request with
  | call node method => cases method <;> first | rfl | exact absurd rfl other
  | log record =>
      cases fetches with
      | nil => rfl
      | cons fetch earlier => exact if_neg (Bool.eq_false_iff.mp other)
  | nodeName _ | enter _ | leave _ => cases fetches <;> rfl
  | cancelRequested | noteNode _ _ => exact other.elim

theorem note_of_fetch_record {behaviour : Behaviour State} {fetch : FailedFetch State}
    {earlier : List (FailedFetch State)} {world : World State} {record : Log.Record}
    (tells : record.tellsFetch = true) :
    note behaviour (fetch :: earlier) ⟨world, ⟨.log record, ()⟩⟩ =
      { fetch with told := fetch.told ++ [(behaviour.name (world.nodes fetch.node), record)] } ::
        earlier := by
  simp [note, tells]

end FailedFetch

namespace Strategy

variable (behaviour : Behaviour State) (turn : World.Turn) (world : World State)

theorem turn_of_fetch_failed (error : RetentionError) (identity : Option ErrorId)
    (fetch : FailedFetch State) (earlier : List (FailedFetch State)) {name : String}
    (named : behaviour.name (world.nodes fetch.node) = name) :
    world.run behaviour turn (fetchFailed fetch.node error identity).run =
        (World.log (identity.elim world (world.noteNode · (error.nameAt name)))
            (fetchRecord name (error.atNode name)), .finished (.ok none)) ∧
      (world.moments behaviour turn (fetchFailed fetch.node error identity).run).foldl
          (FailedFetch.note behaviour) (fetch :: earlier) =
        { fetch with told := fetch.told ++ [(name, fetchRecord name (error.atNode name))] } ::
          earlier := by
  subst named
  have tells := tells_fetch_fetchRecord (behaviour.name (world.nodes fetch.node))
    (error.atNode (behaviour.name (world.nodes fetch.node)))
  cases identity with
  | none => exact ⟨rfl, FailedFetch.note_of_fetch_record tells⟩
  | some shared => exact ⟨rfl, FailedFetch.note_of_fetch_record tells⟩

theorem turn_of_wrap_fetch_failure (message reason : String) (fetch : FailedFetch State)
    (earlier : List (FailedFetch State)) {name : String}
    (named : behaviour.name (world.nodes fetch.node) = name) :
    ∃ reached record, world.run behaviour turn (wrapFetchFailure fetch.node message reason).run =
        (reached, .finished (.ok none)) ∧
      (world.moments behaviour turn (wrapFetchFailure fetch.node message reason).run).foldl
          (FailedFetch.note behaviour) (fetch :: earlier) =
        { fetch with told := fetch.told ++ [(name, record)] } :: earlier ∧
      record.Names name ∧ reached.noted = world.noted := by
  have told := turn_of_fetch_failed behaviour turn world
    (.factFetch message reason { nodeName := some name }) none fetch earlier named
  have names := fetch_record_names name (.factFetch message reason { nodeName := some name })
  have same : (RetentionError.factFetch message reason { nodeName := some name }).nameAt name =
      name := by
    simp [RetentionError.nameAt, RetentionError.factFetch]
  rw [same] at names
  subst named
  exact ⟨_, _, told.1, told.2, names, rfl⟩

end Strategy

/-- How a failed fetch is put down to a node, from what was noted on errors before to what is noted
afterwards. -/
inductive FailedFetch.PutDown (behaviour : Behaviour State) :
    List (ErrorId × String) → FailedFetch State → List (ErrorId × String) → Prop where
  | untold {noted : List (ErrorId × String)} {fetch : FailedFetch State}
      (other : ¬ fetch.failure.IsTold fetch.asked) (silent : fetch.told = []) :
      PutDown behaviour noted fetch noted
  | foreign {noted : List (ErrorId × String)} {fetch : FailedFetch State} {error : Foreign}
      {name : String} {record : Log.Record} (about : fetch.failure = .foreign error)
      (due : fetch.failure.IsTold fetch.asked) (told : fetch.told = [(name, record)])
      (names : record.Names name) : PutDown behaviour noted fetch noted
  | own {noted : List (ErrorId × String)} {fetch : FailedFetch State} {error : RetentionError}
      {name : String} {record : Log.Record} (about : fetch.failure = .retention error none)
      (due : fetch.failure.IsTold fetch.asked) (told : fetch.told = [(name, record)])
      (names : record.Names (error.nameAt name)) : PutDown behaviour noted fetch noted
  | shared {noted : List (ErrorId × String)} {fetch : FailedFetch State} {error : RetentionError}
      {id : ErrorId} {name : String} {record : Log.Record}
      (about : fetch.failure = .retention error (some id))
      (due : fetch.failure.IsTold fetch.asked) (told : fetch.told = [(name, record)])
      (names : record.Names (error.nameAt name))
      (stands : fetch.failure.Stands behaviour noted fetch.state) :
      PutDown behaviour noted fetch
        ((id, error.nameAt name) :: noted.filter fun entry => entry.1 != id)

/-- All failed fetches so far are put down to nodes, one after the other. -/
inductive Accounted (behaviour : Behaviour State) :
    List (ErrorId × String) → List (FailedFetch State) → Prop where
  | none : Accounted behaviour [] []
  | next {noted later : List (ErrorId × String)} {fetch : FailedFetch State}
      {earlier : List (FailedFetch State)} (before : Accounted behaviour noted earlier)
      (last : fetch.PutDown behaviour noted later) : Accounted behaviour later (fetch :: earlier)

/-- A turn brings the program to its end, and by then the failed fetch is put down to a node. -/
def FailedFetch.Handled (behaviour : Behaviour State) (turn : World.Turn) (world : World State)
    (fetch : FailedFetch State)
    (program : Program (Except Failure (Option Facts))) : Prop :=
  ∀ earlier, ∃ reached result later,
    world.run behaviour turn program = (reached, .finished result) ∧
    (world.moments behaviour turn program).foldl (FailedFetch.note behaviour) (fetch :: earlier) =
      later :: earlier ∧
    later.PutDown behaviour world.noted reached.noted

namespace Strategy

variable {behaviour : Behaviour State} {turn : World.Turn} {world : World State} {node : NodeId}
  {state : State}

theorem handled_of_untold {failure : Failure} (other : ¬ failure.IsTold false)
    (passedOn : Failure) :
    FailedFetch.Handled behaviour turn world { node := node, state := state, failure := failure }
      (throw passedOn : Attempt (Option Facts)).run :=
  fun _ => ⟨_, _, _, rfl, rfl, .untold other rfl⟩

theorem handled_of_wrapped {fetch : FailedFetch State} {error : Foreign}
    (about : fetch.failure = .foreign error) (silent : fetch.told = [])
    (due : fetch.failure.IsTold fetch.asked) (message reason : String) :
    fetch.Handled behaviour turn world (wrapFetchFailure fetch.node message reason).run := by
  intro earlier
  obtain ⟨reached, record, ran, noted, names, same⟩ :=
    turn_of_wrap_fetch_failure behaviour turn world message reason fetch earlier rfl
  refine ⟨reached, _, _, ran, noted, ?_⟩
  rw [same]
  exact .foreign about due (congrArg (· ++ [_]) silent) names

theorem handled_retention {error : RetentionError} {identity : Option ErrorId}
    (stands : (Failure.retention error identity).Stands behaviour world.noted state) :
    FailedFetch.Handled behaviour turn world
      { node := node, state := state, failure := .retention error identity }
      (handleFetchFailure node (.retention error identity)).run := by
  have told := Failure.is_told_retention_iff false error identity
  by_cases isFetch : error.isFactFetch = true
  · simp only [handleFetchFailure, if_pos isFetch]
    intro earlier
    obtain ⟨ran, noted⟩ := turn_of_fetch_failed behaviour turn world error identity _ earlier rfl
    have names := fetch_record_names (behaviour.name (world.nodes node)) error
    refine ⟨_, _, _, ran, noted, ?_⟩
    cases identity with
    | none => exact .own rfl (told.mpr isFetch) rfl names
    | some shared => exact .shared rfl (told.mpr isFetch) rfl names stands
  · simp only [handleFetchFailure, if_neg isFetch]
    exact handled_of_untold (mt told.mp isFetch) _

theorem handled_connectivity {error : Foreign} (family : error.family = .connectivity) :
    FailedFetch.Handled behaviour turn world
      { node := node, state := state, failure := .foreign error }
      (handleFetchFailure node (.foreign error)).run := by
  have told := Failure.is_told_connectivity_iff false family
  cases worded : (Failure.foreign error).text with
  | error textless =>
      simp only [handleFetchFailure, family, worded]
      refine handled_of_untold (fun due => ?_) textless
      obtain ⟨text, spoken⟩ := told.mp due
      rw [worded] at spoken
      cases spoken
  | ok text =>
      simp only [handleFetchFailure, family, worded]
      exact handled_of_wrapped rfl rfl (told.mpr ⟨text, worded⟩) _ _

theorem handled_cancellation {error : Foreign} (family : error.family = .cancellation) :
    FailedFetch.Handled behaviour turn world
      { node := node, state := state, failure := .foreign error }
      (handleFetchFailure node (.foreign error)).run := by
  simp only [handleFetchFailure, family]
  intro earlier
  obtain ⟨threaded, asked⟩ := turn
  have told := Failure.is_told_cancellation_iff asked family
  -- The answer is noted on the fetch, so what is accounted for is another fetch in each case.
  cases asked with
  | true =>
      refine ⟨_, _, _, rfl, rfl, .untold (fun due => ?_) rfl⟩
      exact absurd (told.mp due) (by decide)
  | false =>
      let fetch : FailedFetch State := { node := node, state := state, failure := .foreign error }
      have wrapped : fetch.Handled behaviour { threaded := threaded, cancelRequested := false }
          world (wrapFetchFailure node "uptime request cancelled" "interrupted").run :=
        handled_of_wrapped rfl rfl (told.mpr rfl) _ _
      obtain ⟨reached, result, later, ran, noted, putDown⟩ := wrapped earlier
      exact ⟨reached, result, later, ran, noted, putDown⟩

theorem handle_fetch_failure_handled {failure : Failure}
    (stands : failure.Stands behaviour world.noted state) :
    FailedFetch.Handled behaviour turn world { node := node, state := state, failure := failure }
      (handleFetchFailure node failure).run := by
  cases failure with
  | retention error identity => exact handled_retention stands
  | foreign error =>
      cases family : error.family with
      | connectivity => exact handled_connectivity family
      | cancellation => exact handled_cancellation family
      | _ =>
          have other := @Failure.not_told_of_other_family error false (by simp [family])
            (by simp [family])
          simp only [handleFetchFailure, family]
          exact handled_of_untold other _
  | _ =>
      refine handled_of_untold ?_ _
      exact fun due => due.1

end Strategy

namespace World

variable {Result : Type}

/-- With the fetches that failed in these moments, all fetches are accounted for, and what is left of
the program tells of failed fetches. -/
structure Accounts (behaviour : Behaviour State) (fetches : List (FailedFetch State))
    (moments : List (Moment State)) (ran : World State × Progress Result) : Prop where
  accounted : Accounted behaviour ran.1.noted (moments.foldl (FailedFetch.note behaviour) fetches)
  remaining : ran.2.remaining.TellsFetches

theorem accounts_plain {behaviour : Behaviour State} {fetches : List (FailedFetch State)}
    {request : Request} (other : request.Plain) {world : World State} {answer : request.Answer}
    {moments : List (Moment State)} {ran : World State × Progress Result}
    (later : Accounts behaviour fetches moments ran) :
    Accounts behaviour fetches (⟨world, ⟨request, answer⟩⟩ :: moments) ran where
  accounted := by
    rw [List.foldl_cons, FailedFetch.note_of_plain other]
    exact later.accounted
  remaining := later.remaining

theorem accounts_failed {behaviour : Behaviour State} {turn : Turn} {world : World State}
    {node : NodeId} {state : State} {failure : Failure} {fetches : List (FailedFetch State)}
    {rest : Except Failure (Option Facts) → Program Result}
    (stands : failure.Stands behaviour world.noted state)
    (accounted : Accounted behaviour world.noted fetches)
    (goesOn : ∀ (result : Except Failure (Option Facts)) (reached : World State)
      (later : List (FailedFetch State)), Accounted behaviour reached.noted later →
        Accounts behaviour later (reached.moments behaviour turn (rest result))
          (reached.run behaviour turn (rest result))) :
    Accounts behaviour ({ node := node, state := state, failure := failure } :: fetches)
      (world.moments behaviour turn ((Strategy.handleFetchFailure node failure).run.bind rest))
      (world.run behaviour turn ((Strategy.handleFetchFailure node failure).run.bind rest)) := by
  obtain ⟨reached, result, fetch, ran, noted, putDown⟩ :=
    Strategy.handle_fetch_failure_handled stands fetches
  have later := goesOn result reached (fetch :: fetches) (.next accounted putDown)
  rw [moments_bind_of_finished ran, run_bind_of_finished ran]
  constructor
  · rw [List.foldl_append, noted]
    exact later.accounted
  · exact later.remaining

/-- Whatever a node replies when it is asked for its uptime, the fetch is accounted for. -/
theorem accounts_fetch {behaviour : Behaviour State} {turn : Turn} {world : World State}
    {node : NodeId} {fetches : List (FailedFetch State)}
    {next : Except Failure Duration → Program Result}
    {rest : Failure → Except Failure (Option Facts) → Program Result}
    (handled : ∀ failure, next (.error failure) =
      (Strategy.handleFetchFailure node failure).run.bind (rest failure))
    {reply : World State × Except Failure Duration}
    (stands : ∀ failure, reply.2 = .error failure →
      failure.Stands behaviour reply.1.noted (world.nodes node))
    (accounted : Accounted behaviour reply.1.noted fetches)
    (failed : ∀ (failure : Failure) (result : Except Failure (Option Facts))
      (reached : World State) (later : List (FailedFetch State)),
        Accounted behaviour reached.noted later →
          Accounts behaviour later (reached.moments behaviour turn (rest failure result))
            (reached.run behaviour turn (rest failure result)))
    (fetched : ∀ uptime, Accounts behaviour fetches
      (reply.1.moments behaviour turn (next (.ok uptime)))
      (reply.1.run behaviour turn (next (.ok uptime)))) :
    Accounts behaviour fetches
      (⟨world, .reply node .uptime reply.2⟩ :: reply.1.moments behaviour turn (next reply.2))
      (reply.1.run behaviour turn (next reply.2)) := by
  obtain ⟨reached, answer⟩ := reply
  cases answer with
  | ok uptime =>
      refine ⟨?_, (fetched uptime).remaining⟩
      cases fetches <;> exact (fetched uptime).accounted
  | error failure =>
      simp only [handled]
      have ended := @accounts_failed _ _ behaviour turn reached node (world.nodes node) failure
        fetches (rest failure) (stands failure rfl) accounted (failed failure)
      exact ⟨ended.accounted, ended.remaining⟩

/-- A turn accounts for the fetches that fail in it. -/
theorem accounts_of_tells_fetches (behaviour : Behaviour State) (turn : Turn)
    {program : Program Result} (tells : program.TellsFetches) {world : World State}
    {fetches : List (FailedFetch State)} (accounted : Accounted behaviour world.noted fetches) :
    Accounts behaviour fetches (world.moments behaviour turn program)
      (world.run behaviour turn program) := by
  induction tells generalizing world fetches with
  | done result => exact ⟨accounted, .done result⟩
  | @fetch node next rest handled failed fetched failedLater fetchedLater =>
      simp only [moments, run]
      cases (world.noteCall behaviour node .uptime).ticket? behaviour turn node .uptime with
      | some ticket => exact ⟨accounted, .fetch rest handled failed fetched⟩
      | none =>
          exact accounts_fetch handled (fun _ => stands_of_answered) accounted
            (fun failure result _ _ => failedLater failure result)
            (fun uptime => fetchedLater uptime accounted)
  | @plain request next other later ih =>
      cases request with
      | call node method =>
          simp only [moments, run]
          cases (world.noteCall behaviour node method).ticket? behaviour turn node method with
          | some ticket => exact ⟨accounted, .plain other later⟩
          | none => exact accounts_plain other (ih _ accounted)
      | nodeName node => exact accounts_plain other (ih _ accounted)
      | cancelRequested => exact other.elim
      | log record => exact accounts_plain other (ih _ accounted)
      | noteNode error name => exact other.elim
      | enter guard =>
          simp only [moments, run]
          split
          · exact accounts_plain other (ih _ accounted)
          · exact accounts_plain other (ih _ accounted)
      | leave guard => exact accounts_plain other (ih _ accounted)

/-- So does a turn that begins with the reply to the call that the program waited for. -/
theorem accounts_replied (behaviour : Behaviour State) (turn : Turn) {node : NodeId}
    {method : NodeCall} {next : Except Failure method.Answer → Program Result}
    (tells : (Program.ask (.call node method) next).TellsFetches) {world : World State}
    {reply : World State × Except Failure method.Answer} (same : reply.1.noted = world.noted)
    (stands : ∀ failure, reply.2 = .error failure → method = .uptime →
      failure.Stands behaviour world.noted (world.nodes node))
    {fetches : List (FailedFetch State)} (accounted : Accounted behaviour world.noted fetches) :
    Accounts behaviour fetches
      (⟨world, .reply node method reply.2⟩ :: reply.1.moments behaviour turn (next reply.2))
      (reply.1.run behaviour turn (next reply.2)) := by
  rw [← same] at accounted stands
  cases tells with
  | plain other later =>
      exact accounts_plain other (accounts_of_tells_fetches behaviour turn (later _) accounted)
  | fetch rest handled failed fetched =>
      exact accounts_fetch handled (fun failure raised => stands failure raised rfl) accounted
        (fun failure result _ _ => accounts_of_tells_fetches behaviour turn (failed failure result))
        (fun uptime => accounts_of_tells_fetches behaviour turn (fetched uptime) accounted)

end World

end Teardown
