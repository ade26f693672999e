import Teardown.Proofs.Exclusion
import Teardown.Proofs.TeardownReport
import Teardown.Proofs.Visit

/-!
# Failed fetches

What becomes of a visit when the call that asks for its uptime fails. A fetch error, a system error,
and a call that was broken off while nobody asked the caller to stop mean that there are no facts
this time; this is logged, and nothing is done. Every other failure is passed on as it is. Either
way no node is called any more and the guard is given back.
-/

namespace Teardown

set_option autoImplicit false

namespace Foreign

def systemNames : List String := "IOError" :: "EnvironmentError" :: connectivityNames

theorem numbered_name_is_connectivity {number : Value} {name : String}
    (named : systemErrorName? number = some name) : name ∈ connectivityNames := by
  have listed : ∀ known : Int, systemErrorNames.lookup known = some name →
      name ∈ connectivityNames := by
    intro known found
    obtain ⟨before, after, split, -⟩ := List.lookup_eq_some_iff.mp found
    have all : ∀ entry ∈ systemErrorNames, entry.2 ∈ connectivityNames := by decide
    exact all (known, name) (by rw [split]; simp)
  cases number with
  | int value => exact listed value named
  | bool flag => exact listed _ named
  | _ => cases named

/-- The names of system errors in general, of which the number tells more. -/
def generalNames : List String := ["OSError", "IOError", "EnvironmentError"]

theorem proper_name_of_general {name : String} (general : name ∈ generalNames)
    (arguments : List Value) : properName name arguments ∈ connectivityNames := by
  have spelled : name = "OSError" ∨ name = "IOError" ∨ name = "EnvironmentError" := by
    simpa [generalNames] using general
  unfold properName
  rw [if_pos spelled]
  split
  · next number _ =>
      split
      · cases named : systemErrorName? number with
        | none => decide
        | some proper => exact numbered_name_is_connectivity named
      · decide
  · decide

theorem proper_name_of_special {name : String} (special : name ∉ generalNames)
    (arguments : List Value) : properName name arguments = name := by
  have spelled : ¬ (name = "OSError" ∨ name = "IOError" ∨ name = "EnvironmentError") := by
    simpa [generalNames] using special
  unfold properName
  rw [if_neg spelled]

/-- A system error is made under any of its names, and may take the name of its number. -/
theorem proper_name_is_connectivity_iff (name : String) (arguments : List Value) :
    properName name arguments ∈ connectivityNames ↔ name ∈ systemNames := by
  by_cases general : name ∈ generalNames
  · have included : ∀ known ∈ generalNames, known ∈ systemNames := by decide
    exact iff_of_true (proper_name_of_general general arguments) (included name general)
  · rw [proper_name_of_special general arguments]
    simp only [generalNames, List.mem_cons, List.not_mem_nil, or_false, not_or] at general
    simp [systemNames, general]

theorem proper_name_is_cancelled_iff (name : String) (arguments : List Value) :
    properName name arguments = "CancelledError" ↔ name = "CancelledError" := by
  by_cases general : name ∈ generalNames
  · have known := proper_name_of_general general arguments
    refine iff_of_false ?_ ?_
    · intro same
      rw [same] at known
      exact absurd known (by decide)
    · intro same
      rw [same] at general
      exact absurd general (by decide)
  · rw [proper_name_of_special general arguments]

theorem name_of_made {name : String} {arguments : List Value} {made : Foreign}
    (ended : make name arguments = .ok made) : made.name = properName name arguments := by
  simp only [make] at ended
  split at ended
  · next blocked =>
      rw [blocked]
      unfold makeBlocked at ended
      split at ended
      · split at ended
        · next number description written rest _ =>
            cases counted : wholeArgument .countOutOfRange written <;> rw [counted] at ended <;>
              cases ended
            rfl
        · cases ended
          rfl
      · cases ended
        rfl
  · split at ended
    · cases ended
    split at ended
    · cases checked : checkCoding (properName name arguments) arguments <;>
        rw [checked] at ended <;> cases ended
      rfl
    split at ended
    · cases checked : checkGrammar arguments <;> rw [checked] at ended <;> cases ended
      rfl
    · cases ended
      rfl

theorem family_connectivity_iff (error : Foreign) :
    error.family = .connectivity ↔ error.name ∈ connectivityNames := by
  unfold family
  split
  · next broken => exact iff_of_false (by simp) (by rw [broken]; decide)
  split
  · next exhausted => exact iff_of_false (by simp) (by rw [exhausted]; decide)
  split
  · next listed => exact iff_of_true rfl (List.contains_iff_mem.mp listed)
  · next other =>
      have unlisted : error.name ∉ connectivityNames := fun listed =>
        other (List.contains_iff_mem.mpr listed)
      refine iff_of_false ?_ unlisted
      split <;> simp

theorem family_cancellation_iff (error : Foreign) :
    error.family = .cancellation ↔ error.name = "CancelledError" := by
  unfold family
  split
  · next broken => exact iff_of_true rfl broken
  · next other =>
      refine iff_of_false ?_ other
      repeat' split
      all_goals simp

end Foreign

theorem RetentionError.at_node_self (message reason name : String) :
    (factFetch message reason { nodeName := some name }).atNode name =
      factFetch message reason { nodeName := some name } := by
  simp [atNode, factFetch]

namespace Failure

/-- A fetch error, a system error, or a call that was broken off while nobody asked the caller to
stop. -/
def IsFetchFailure (asked : Bool) : Failure → Prop
  | .retention error _ => ∃ reason, error.detail = .factFetch reason
  | .foreign error =>
      error.name ∈ Foreign.connectivityNames ∨ (error.name = "CancelledError" ∧ asked = false)
  | _ => False

/-- The error as which a fetch failure is reported: a fetch error itself, any other one inside a
fetch error about the node. -/
inductive ReportedAs (name : String) : Failure → RetentionError → Prop where
  | fetch (error : RetentionError) (identity : Option ErrorId) :
      ReportedAs name (.retention error identity) (error.atNode name)
  | connectivity (error : Foreign) (text : String)
      (known : error.name ∈ Foreign.connectivityNames)
      (worded : (Failure.foreign error).text = .ok text) :
      ReportedAs name (.foreign error)
        (.factFetch (if text.isEmpty then error.name else text)
          (if error.name = "TimeoutError" then "timeout" else "io_error")
          { nodeName := some name })
  | brokenOff (error : Foreign) (known : error.name = "CancelledError") :
      ReportedAs name (.foreign error)
        (.factFetch "uptime request cancelled" "interrupted" { nodeName := some name })

/-- Which errors are fetch failures, by the name under which they are made. -/
theorem made_is_fetch_failure_iff {name : String} {arguments : List Value} {made : Foreign}
    (ended : Foreign.make name arguments = .ok made) (asked : Bool) :
    (Failure.foreign made).IsFetchFailure asked ↔
      name ∈ Foreign.systemNames ∨ (name = "CancelledError" ∧ asked = false) := by
  simp only [IsFetchFailure]
  rw [Foreign.name_of_made ended, Foreign.proper_name_is_connectivity_iff,
    Foreign.proper_name_is_cancelled_iff]

end Failure

/-- Nothing has changed between two worlds but what was logged and what was noted on errors. -/
structure World.OnlyTold {State : Type} (world reached : World State) : Prop where
  nodes : reached.nodes = world.nodes
  held : reached.held = world.held
  calls : reached.calls = world.calls

namespace Strategy

variable {State : Type} (behaviour : Behaviour State) (turn : World.Turn) (world : World State)

theorem run_fetch_failed (node : NodeId) (error : RetentionError) (identity : Option ErrorId)
    {name : String} (named : behaviour.name (world.nodes node) = name) :
    ∃ reached, world.run behaviour turn (fetchFailed node error identity).run =
        (reached, .finished (.ok none)) ∧
      world.OnlyTold reached ∧
      reached.journal = world.journal ++ [fetchRecord name (error.atNode name)] := by
  subst named
  cases identity with
  | none => exact ⟨_, rfl, ⟨rfl, rfl, rfl⟩, rfl⟩
  | some shared => exact ⟨_, rfl, ⟨rfl, rfl, rfl⟩, rfl⟩

theorem run_wrap_fetch_failure (node : NodeId) (message reason : String)
    {name : String} (named : behaviour.name (world.nodes node) = name) :
    ∃ reached, world.run behaviour turn (wrapFetchFailure node message reason).run =
        (reached, .finished (.ok none)) ∧
      world.OnlyTold reached ∧
      reached.journal = world.journal ++
        [fetchRecord name (.factFetch message reason { nodeName := some name })] := by
  have told := run_fetch_failed behaviour turn world node
    (.factFetch message reason { nodeName := some name }) none named
  rw [RetentionError.at_node_self] at told
  subst named
  exact told

theorem run_unless_cancelled (node : NodeId) (failure : Failure) (message reason : String) :
    world.run behaviour turn (Attempt.run (do
      if ← Attempt.perform .cancelRequested then throw failure
      else wrapFetchFailure node message reason)) =
    if turn.cancelRequested then (world, .finished (.error failure))
    else world.run behaviour turn (wrapFetchFailure node message reason).run := by
  change world.run behaviour turn (Attempt.run (if turn.cancelRequested then throw failure
    else wrapFetchFailure node message reason)) = _
  cases turn.cancelRequested <;> rfl

/-- A fetch failure is told and gives no facts. -/
theorem run_handle_fetch_failure {failure : Failure}
    (fetch : failure.IsFetchFailure turn.cancelRequested) {text : String}
    (worded : failure.text = .ok text) (node : NodeId) {name : String}
    (named : behaviour.name (world.nodes node) = name) :
    ∃ reported reached, failure.ReportedAs name reported ∧
      world.run behaviour turn (handleFetchFailure node failure).run =
        (reached, .finished (.ok none)) ∧
      world.OnlyTold reached ∧
      reached.journal = world.journal ++ [fetchRecord name reported] := by
  cases failure with
  | retention error identity =>
      obtain ⟨reason, detail⟩ := fetch
      have isFetch : error.isFactFetch = true := by rw [RetentionError.isFactFetch, detail]
      simp only [handleFetchFailure, if_pos isFetch]
      obtain ⟨reached, ended⟩ := run_fetch_failed behaviour turn world node error identity named
      exact ⟨_, reached, .fetch error identity, ended⟩
  | foreign error =>
      rcases fetch with connected | ⟨cancelled, unasked⟩
      · have family := (Foreign.family_connectivity_iff error).mpr connected
        obtain ⟨reached, ended⟩ := run_wrap_fetch_failure behaviour turn world node
          (if text.isEmpty then error.name else text)
          (if error.name = "TimeoutError" then "timeout" else "io_error") named
        refine ⟨_, reached, .connectivity error text connected worded, ?_⟩
        simp only [handleFetchFailure, family, worded, Foreign.isTimeout, beq_iff_eq]
        exact ended
      · have family := (Foreign.family_cancellation_iff error).mpr cancelled
        obtain ⟨reached, ended⟩ := run_wrap_fetch_failure behaviour turn world node
          "uptime request cancelled" "interrupted" named
        refine ⟨_, reached, .brokenOff error cancelled, ?_⟩
        simp only [handleFetchFailure, family]
        rw [run_unless_cancelled, unasked]
        exact ended
  | _ => exact fetch.elim

theorem run_handle_other_failure {failure : Failure}
    (other : ¬ failure.IsFetchFailure turn.cancelRequested) (node : NodeId) :
    world.run behaviour turn (handleFetchFailure node failure).run =
      (world, .finished (.error failure)) := by
  cases failure with
  | retention error identity =>
      have notFetch : ¬ error.isFactFetch = true := by
        intro isFetch
        cases detail : error.detail with
        | factFetch reason => exact other ⟨reason, detail⟩
        | _ => simp [RetentionError.isFactFetch, detail] at isFetch
      simp only [handleFetchFailure, if_neg notFetch]
      rfl
  | foreign error =>
      simp only [Failure.IsFetchFailure, not_or, not_and, Bool.not_eq_false] at other
      obtain ⟨unconnected, asked⟩ := other
      cases family : error.family with
      | connectivity => exact (unconnected ((Foreign.family_connectivity_iff error).mp family)).elim
      | cancellation =>
          simp only [handleFetchFailure, family]
          rw [run_unless_cancelled, asked ((Foreign.family_cancellation_iff error).mp family)]
          rfl
      | _ =>
          simp only [handleFetchFailure, family]
          rfl
  | _ => rfl

def gathered (node : NodeId) (reply : Except Failure Duration) : Attempt (Option Facts) :=
  match reply with
  | .error failure => handleFetchFailure node failure
  | .ok uptime => do
      let isOffline ← Attempt.call node .isOffline
      let running ← Attempt.call node .running
      let idle ← Attempt.call node .idle
      return some { isOffline := isOffline, uptime := uptime, running := running, idle := idle }

def concluded (strategy : Strategy) (node : NodeId) (reply : Except Failure Duration) :
    Attempt Decision := do
  match ← gathered node reply with
  | none => return .noAction .fetchFailed
  | some facts => strategy.act node facts

theorem calls_before_fetch {methods : List NodeCall}
    (ordered : methods ++ [.uptime] <+: visitOrder) : methods = [.isProvisioned, .isIdle] := by
  match methods with
  | [] => simp [visitOrder, checkOrder] at ordered
  | [first] => simp [visitOrder, checkOrder] at ordered
  | [first, second] =>
      simp only [visitOrder, checkOrder, List.cons_append, List.cons_prefix_cons] at ordered
      rw [ordered.1, ordered.2.1]
  | first :: second :: third :: later =>
      simp only [visitOrder, checkOrder, List.cons_append, List.cons_prefix_cons] at ordered
      have again := ordered.2.2.2.subset (List.mem_append_right later (List.mem_singleton_self _))
      simp at again

theorem evaluate_awaits {strategy : Strategy} {node : Option NodeId} {visited : NodeId}
    {before : List Exchange} {next : Except Failure Duration → Program (Except Failure Decision)}
    (awaiting : (strategy.evaluate node).run.Follows before (.ask (.call visited .uptime) next)) :
    node = some visited ∧ next = fun reply => (strategy.concluded visited reply).run := by
  obtain ⟨-, ordered⟩ := evaluate_calls_prefix awaiting
  have two : (answeredCalls before).map Prod.snd = [.isProvisioned, .isIdle] := by
    apply calls_before_fetch
    simpa [calledMethods, Program.awaited] using ordered
  cases node with
  | none => cases ((Program.done_follows_iff _ _ _).mp awaiting).2
  | some present =>
      rcases Attempt.call_bind_follows_cases awaiting with
        ⟨rfl, -⟩ | ⟨failure, ⟨⟩⟩ | ⟨provisioned, later, rfl, answered⟩
      · cases two
      cases provisioned with
      | false => cases ((Program.done_follows_iff _ _ _).mp answered).2
      | true =>
          rcases Attempt.call_bind_follows_cases answered with
            ⟨rfl, -⟩ | ⟨failure, ⟨⟩⟩ | ⟨idle, later, rfl, asked⟩
          · cases two
          cases checked : checkPreconditions strategy.policy true idle
              strategy.evaluationDisabled with
          | some reason =>
              simp only [checked] at asked
              cases ((Program.done_follows_iff _ _ _).mp asked).2
          | none =>
              simp only [checked] at asked
              rcases (Program.ask_follows_iff _ _ _ _).mp asked with
                ⟨rfl, same⟩ | ⟨answer, later, rfl, -⟩
              · cases same
                exact ⟨rfl, rfl⟩
              · cases two

theorem entering_awaits {Result : Type} {strategy : Strategy} {node : Option NodeId}
    {visited : NodeId} {settle : Except Failure Decision → Program Result} {skipped : Result}
    {name : Option String} {entered : Bool} (uncalled : ∀ result, (settle result).CallsNobody)
    {before : List Exchange} {next : Except Failure Duration → Program Result}
    (awaiting : (strategy.entering node settle skipped name entered).Follows before
      (.ask (.call visited .uptime) next)) :
    node = some visited ∧ next = fun reply => (strategy.concluded visited reply).run.bind
      fun result => .ask (.leave strategy.guard) fun _ => settle result := by
  cases entered with
  | false =>
      have silent : (strategy.entering node settle skipped name false).CallsNobody :=
        Program.calls_nobody_ask rfl fun _ => Program.calls_nobody_done skipped
      cases silent _ _ awaiting
  | true =>
      obtain ⟨middle, inside, rfl⟩ := Program.bind_awaits awaiting fun result =>
        Program.calls_nobody_ask rfl fun _ => uncalled result
      obtain ⟨same, rfl⟩ := evaluate_awaits inside
      exact ⟨same, rfl⟩

theorem enclosed_awaits {Result : Type} {strategy : Strategy} {node : Option NodeId}
    {visited : NodeId} {settle : Except Failure Decision → Program Result} {skipped : Result}
    (uncalled : ∀ result, (settle result).CallsNobody)
    {before : List Exchange} {next : Except Failure Duration → Program Result}
    (awaiting : (strategy.enclosed node settle skipped).Follows before
      (.ask (.call visited .uptime) next)) :
    node = some visited ∧ next = fun reply => (strategy.concluded visited reply).run.bind
      fun result => .ask (.leave strategy.guard) fun _ => settle result := by
  cases node with
  | none =>
      rcases (Program.ask_follows_iff _ _ _ _).mp awaiting with ⟨-, ⟨⟩⟩ | ⟨entered, _, -, rest⟩
      exact entering_awaits uncalled rest
  | some present =>
      rcases (Program.ask_follows_iff _ _ _ _).mp awaiting with ⟨-, ⟨⟩⟩ | ⟨name, _, -, named⟩
      rcases (Program.ask_follows_iff _ _ _ _).mp named with ⟨-, ⟨⟩⟩ | ⟨entered, _, -, rest⟩
      exact entering_awaits uncalled rest

theorem run_concluded_of_fetch_failure {failure : Failure}
    (fetch : failure.IsFetchFailure turn.cancelRequested) {text : String}
    (worded : failure.text = .ok text) (strategy : Strategy) (node : NodeId) {name : String}
    (named : behaviour.name (world.nodes node) = name) :
    ∃ reported reached, failure.ReportedAs name reported ∧
      world.run behaviour turn (strategy.concluded node (.error failure)).run =
        (reached, .finished (.ok (.noAction .fetchFailed))) ∧
      world.OnlyTold reached ∧
      reached.journal = world.journal ++ [fetchRecord name reported] := by
  obtain ⟨reported, reached, known, ended, told⟩ :=
    run_handle_fetch_failure behaviour turn world fetch worded node named
  exact ⟨reported, reached, known, World.run_bind_of_finished ended _, told⟩

theorem run_concluded_of_other_failure {failure : Failure}
    (other : ¬ failure.IsFetchFailure turn.cancelRequested) (strategy : Strategy)
    (node : NodeId) :
    world.run behaviour turn (strategy.concluded node (.error failure)).run =
      (world, .finished (.error failure)) :=
  World.run_bind_of_finished (run_handle_other_failure behaviour turn world other node) _

/-- The periodic visit may still report the failure; nothing else changes. -/
theorem run_checked_of_error {failure : Failure} {text : String}
    (worded : failure.text = .ok text) (node : Option NodeId) :
    ∃ reached result, world.run behaviour turn (checked node (.error failure)) =
        (reached, .finished result) ∧ world.OnlyTold reached := by
  simp only [checked, reportFailure]
  by_cases ordinary : failure.isOrdinary = true
  · simp only [if_pos ordinary, worded]
    cases node with
    | none => exact ⟨_, _, rfl, rfl, rfl, rfl⟩
    | some present => exact ⟨_, _, rfl, rfl, rfl, rfl⟩
  · simp only [if_neg ordinary]
    exact ⟨_, _, rfl, rfl, rfl, rfl⟩

end Strategy

namespace Operation

variable {State : Type} (behaviour : Behaviour State) (turn : World.Turn) (world : World State)

theorem settle_calls_nobody (operation : Operation) (node : Option NodeId)
    (result : Except Failure Decision) : (operation.settle node result).CallsNobody := by
  cases operation with
  | check =>
      refine Program.calls_nobody_bind ?_ fun minutes => Program.calls_nobody_done _
      cases result with
      | ok decision => exact Program.calls_nobody_done _
      | error failure =>
          have reported : Attempt.Within (do
              Strategy.reportFailure node failure
              return Strategy.recheckMinutes) Exchange.Silent fun _ => True :=
            Attempt.within_bind (Strategy.report_failure_within node failure) fun _ _ =>
              Attempt.within_pure trivial
          exact Attempt.calls_nobody_of_within reported fun _ => Exchange.call_none_of_silent
  | _ => exact Program.calls_nobody_done _

/-- How a visit goes on after its fetch: an evaluation by itself settles at once, and any other
visit leaves its guard first. -/
theorem attempt_awaits {operation : Operation} {strategy : Strategy} {node : Option NodeId}
    {visited : NodeId} {before : List Exchange}
    {next : Except Failure Duration → Program (Except Failure CallResult)}
    (awaiting : (operation.attempt strategy node).run.Follows before
      (.ask (.call visited .uptime) next)) :
    node = some visited ∧ next = fun reply => (strategy.concluded visited reply).run.bind
      fun result =>
        if operation = .evaluate then operation.settle node result
        else .ask (.leave strategy.guard) fun _ => operation.settle node result := by
  cases operation with
  | start =>
      -- Asking a node to come online never comes to a call for the uptime.
      cases node with
      | none => cases ((Program.done_follows_iff _ _ _).mp awaiting).2
      | some present =>
          rcases (Program.ask_follows_iff _ _ _ _).mp awaiting with ⟨-, ⟨⟩⟩ | ⟨name, _, -, named⟩
          rcases (Program.ask_follows_iff _ _ _ _).mp named with ⟨-, ⟨⟩⟩ | ⟨_, _, -, told⟩
          rcases (Program.ask_follows_iff _ _ _ _).mp told with ⟨-, ⟨⟩⟩ | ⟨answer, _, -, asked⟩
          cases answer with
          | error failure => cases ((Program.done_follows_iff _ _ _).mp asked).2
          | ok _ => cases ((Program.done_follows_iff _ _ _).mp asked).2
  | evaluate =>
      rw [evaluate_run] at awaiting
      obtain ⟨middle, inside, rfl⟩ := Program.bind_awaits awaiting fun result =>
        settle_calls_nobody .evaluate node result
      obtain ⟨same, rfl⟩ := Strategy.evaluate_awaits inside
      exact ⟨same, rfl⟩
  | check =>
      have known : check.skipResult = some (.recheck Strategy.recheckMinutes) := rfl
      rw [attempt_run_of_guarded known] at awaiting
      exact Strategy.enclosed_awaits (settle_calls_nobody .check node) awaiting
  | tryEvaluate =>
      have known : tryEvaluate.skipResult = some (.outcome .skipped) := rfl
      rw [attempt_run_of_guarded known] at awaiting
      exact Strategy.enclosed_awaits (settle_calls_nobody .tryEvaluate node) awaiting

theorem run_settle_of_error {failure : Failure} {text : String}
    (worded : failure.text = .ok text) (operation : Operation) (node : Option NodeId) :
    ∃ reached result, world.run behaviour turn (operation.settle node (.error failure)) =
        (reached, .finished result) ∧ world.OnlyTold reached := by
  cases operation with
  | check =>
      obtain ⟨reached, result, ended, told⟩ :=
        Strategy.run_checked_of_error behaviour turn world worded node
      have settled := World.run_bind_of_finished ended
        fun minutes => .done (minutes.map CallResult.recheck)
      exact ⟨reached, _, settled, told⟩
  | _ => exact ⟨_, _, rfl, rfl, rfl, rfl⟩

theorem settle_ok (operation : Operation) (node : Option NodeId) (decision : Decision) :
    ∃ value, operation.settle node (.ok decision) = .done (.ok value) := by
  cases operation <;> exact ⟨_, rfl⟩

theorem settle_error {operation : Operation}
    (plain : operation = .evaluate ∨ operation = .tryEvaluate) (node : Option NodeId)
    (failure : Failure) : operation.settle node (.error failure) = .done (.error failure) := by
  rcases plain with rfl | rfl <;> rfl

def afterLeaving (operation : Operation) (strategy : Strategy) (world : World State) :
    World State :=
  if operation = .evaluate then world else { world with held := world.held.erase strategy.guard }

theorem after_leaving_keeps (operation : Operation) (strategy : Strategy) :
    (afterLeaving operation strategy world).nodes = world.nodes ∧
      (afterLeaving operation strategy world).calls = world.calls ∧
      (afterLeaving operation strategy world).journal = world.journal ∧
      (afterLeaving operation strategy world).noted = world.noted := by
  unfold afterLeaving
  split <;> exact ⟨rfl, rfl, rfl, rfl⟩

theorem run_leaving (operation : Operation) (strategy : Strategy)
    (rest : Program (Except Failure CallResult)) :
    world.run behaviour turn
        (if operation = .evaluate then rest else .ask (.leave strategy.guard) fun _ => rest) =
      (afterLeaving operation strategy world).run behaviour turn rest := by
  by_cases plain : operation = .evaluate
  · rw [afterLeaving, if_pos plain, if_pos plain]
  · rw [afterLeaving, if_neg plain, if_neg plain]
    rfl

section Fetching

variable {operation : Operation} {strategy : Strategy} {node : Option NodeId} {visited : NodeId}
  {before : List Exchange} {next : Except Failure Duration → Program (Except Failure CallResult)}
  {failure : Failure} {text : String}

/-- The rest of a visit whose fetch failed, from what its evaluation makes of the failure. -/
theorem run_of_failed_fetch
    (awaiting : (operation.attempt strategy node).run.Follows before
      (.ask (.call visited .uptime) next)) {reached : World State}
    {result : Except Failure Decision}
    (concluded : world.run behaviour turn (strategy.concluded visited (.error failure)).run =
      (reached, .finished result)) :
    world.run behaviour turn (next (.error failure)) =
      (afterLeaving operation strategy reached).run behaviour turn
        (operation.settle node result) := by
  obtain ⟨-, rfl⟩ := attempt_awaits awaiting
  rw [World.run_bind_of_finished concluded, run_leaving]

theorem run_of_fetch_failure
    (awaiting : (operation.attempt strategy node).run.Follows before
      (.ask (.call visited .uptime) next))
    (worded : failure.text = .ok text) (fetch : failure.IsFetchFailure turn.cancelRequested)
    {value : CallResult}
    (settled : operation.settle node (.ok (.noAction .fetchFailed)) = .done (.ok value)) :
    ∃ reported reached, failure.ReportedAs (behaviour.name (world.nodes visited)) reported ∧
      world.run behaviour turn (next (.error failure)) =
        (afterLeaving operation strategy reached, .finished (.ok value)) ∧
      world.OnlyTold reached ∧
      reached.journal = world.journal ++
        [Strategy.fetchRecord (behaviour.name (world.nodes visited)) reported] := by
  obtain ⟨reported, reached, known, concluded, told⟩ :=
    Strategy.run_concluded_of_fetch_failure behaviour turn world fetch worded strategy visited rfl
  have ended := run_of_failed_fetch behaviour turn world awaiting concluded
  rw [settled] at ended
  exact ⟨reported, reached, known, ended, told⟩

theorem run_of_other_failure
    (awaiting : (operation.attempt strategy node).run.Follows before
      (.ask (.call visited .uptime) next))
    (other : ¬ failure.IsFetchFailure turn.cancelRequested) :
    world.run behaviour turn (next (.error failure)) =
      (afterLeaving operation strategy world).run behaviour turn
        (operation.settle node (.error failure)) :=
  run_of_failed_fetch behaviour turn world awaiting
    (Strategy.run_concluded_of_other_failure behaviour turn world other strategy visited)

theorem run_of_other_failure_of_plain
    (awaiting : (operation.attempt strategy node).run.Follows before
      (.ask (.call visited .uptime) next))
    (other : ¬ failure.IsFetchFailure turn.cancelRequested)
    (plain : operation = .evaluate ∨ operation = .tryEvaluate) :
    world.run behaviour turn (next (.error failure)) =
      (afterLeaving operation strategy world, .finished (.error failure)) := by
  rw [run_of_other_failure behaviour turn world awaiting other, settle_error plain]
  rfl

theorem settled_iff_fetch_failure
    (awaiting : (operation.attempt strategy node).run.Follows before
      (.ask (.call visited .uptime) next))
    (worded : failure.text = .ok text) (plain : operation = .evaluate ∨ operation = .tryEvaluate)
    {value : CallResult}
    (settled : operation.settle node (.ok (.noAction .fetchFailed)) = .done (.ok value)) :
    (world.run behaviour turn (next (.error failure))).2 = .finished (.ok value) ↔
      failure.IsFetchFailure turn.cancelRequested := by
  constructor
  · intro ended
    apply Classical.byContradiction
    intro other
    rw [run_of_other_failure_of_plain behaviour turn world awaiting other plain] at ended
    cases ended
  · intro fetch
    obtain ⟨_, _, -, ended, -⟩ :=
      run_of_fetch_failure behaviour turn world awaiting worded fetch settled
    rw [ended]

/-- Whatever failure a visit's fetch ends in: no node is called any more, the visit ends, and the
guard is given back. -/
theorem run_of_failed_fetch_ends
    (awaiting : (operation.attempt strategy node).run.Follows before
      (.ask (.call visited .uptime) next)) (worded : failure.text = .ok text) :
    ∃ reached result, world.run behaviour turn (next (.error failure)) =
        (reached, .finished result) ∧ reached.nodes = world.nodes ∧
      reached.calls = world.calls ∧
      reached.held = (afterLeaving operation strategy world).held := by
  by_cases fetch : failure.IsFetchFailure turn.cancelRequested
  · obtain ⟨value, settled⟩ := settle_ok operation node (.noAction .fetchFailed)
    obtain ⟨_, reached, -, ended, told, -⟩ :=
      run_of_fetch_failure behaviour turn world awaiting worded fetch settled
    have leaving := after_leaving_keeps reached operation strategy
    refine ⟨_, _, ended, leaving.1.trans told.nodes, leaving.2.1.trans told.calls, ?_⟩
    unfold afterLeaving
    split
    · exact told.held
    · exact congrArg (·.erase strategy.guard) told.held
  · have leaving := after_leaving_keeps world operation strategy
    obtain ⟨reached, result, settled, told⟩ := run_settle_of_error behaviour turn
      (afterLeaving operation strategy world) worded operation node
    have ended := (run_of_other_failure behaviour turn world awaiting fetch).trans settled
    exact ⟨_, _, ended, told.nodes.trans leaving.1, told.calls.trans leaving.2.1, told.held⟩

/-- When the call for a node's uptime fails, an evaluation comes to "no facts" just for a fetch
failure: a fetch error, a system error under any of its names, or a call that was broken off while
nobody asked the caller to stop. Then the failure is told in one record. Any other failure comes out
of the evaluation as it is, and nothing is told. In every case the visit ends, no node is called any
more, and the guard is given back; it is free then, since nobody holds a guard twice. -/
theorem failed_fetch_is_classified
    (awaiting : (operation.attempt strategy node).run.Follows before
      (.ask (.call visited .uptime) next)) (worded : failure.text = .ok text) :
    let ran := world.run behaviour turn (next (.error failure))
    let fetch := failure.IsFetchFailure turn.cancelRequested
    (∀ (name : String) (arguments : List Value) (made : Foreign),
        Foreign.make name arguments = .ok made → failure = .foreign made →
          (fetch ↔ name ∈ Foreign.systemNames ∨
            (name = "CancelledError" ∧ turn.cancelRequested = false))) ∧
      (operation = .evaluate →
        (ran.2 = .finished (.ok (.decision (.noAction .fetchFailed))) ↔ fetch)) ∧
      (operation = .tryEvaluate →
        (ran.2 = .finished (.ok (.outcome (.evaluated (.noAction .fetchFailed)))) ↔ fetch)) ∧
      (fetch → ∃ reported record,
        failure.ReportedAs (behaviour.name (world.nodes visited)) reported ∧
          ran.1.journal = world.journal ++ [record] ∧ record.level = Log.debugLevel ∧
          record.fields = reported.logFields) ∧
      (¬ fetch → operation = .evaluate ∨ operation = .tryEvaluate →
        ran.2 = .finished (.error failure) ∧ ran.1.journal = world.journal ∧
          ran.1.noted = world.noted) ∧
      (ran.2.isWaiting = false ∧ ran.1.nodes = world.nodes ∧ ran.1.calls = world.calls) ∧
      (operation ≠ .evaluate → ran.1.held = world.held.erase strategy.guard ∧
        (world.held.Nodup → strategy.guard ∉ ran.1.held)) := by
  intro ran fetch
  obtain ⟨last, result, ended, nodes, calls, held⟩ :=
    run_of_failed_fetch_ends behaviour turn world awaiting worded
  have same : ran = (last, .finished result) := ended
  refine ⟨?_, ?_, ?_, ?_, ?_, ?_, ?_⟩
  · intro name arguments made known raised
    subst raised
    exact Failure.made_is_fetch_failure_iff known _
  · intro plain
    apply settled_iff_fetch_failure behaviour turn world awaiting worded (.inl plain)
    rw [plain]
    rfl
  · intro plain
    apply settled_iff_fetch_failure behaviour turn world awaiting worded (.inr plain)
    rw [plain]
    rfl
  · intro isFetch
    obtain ⟨value, settled⟩ := settle_ok operation node (.noAction .fetchFailed)
    obtain ⟨reported, reached, known, told, -, journal⟩ :=
      run_of_fetch_failure behaviour turn world awaiting worded isFetch settled
    have leaving := after_leaving_keeps reached operation strategy
    refine ⟨reported, Strategy.fetchRecord (behaviour.name (world.nodes visited)) reported, known,
      ?_, rfl, rfl⟩
    exact (congrArg (·.1.journal) told).trans (leaving.2.2.1.trans journal)
  · intro other plain
    have passed : ran = (afterLeaving operation strategy world, .finished (.error failure)) :=
      run_of_other_failure_of_plain behaviour turn world awaiting other plain
    have leaving := after_leaving_keeps world operation strategy
    rw [passed]
    exact ⟨rfl, leaving.2.2.1, leaving.2.2.2⟩
  · rw [same]
    exact ⟨rfl, nodes, calls⟩
  · intro taken
    rw [afterLeaving, if_neg taken] at held
    rw [same, held]
    exact ⟨rfl, fun once => once.not_mem_erase⟩

end Fetching

end Operation

namespace Watch

variable {State : Type}

theorem held_nodup {behaviour : Behaviour State} {watch : Watch State}
    (reached : Reached behaviour watch) : watch.host.world.held.Nodup := by
  have ordered := ordered_of_reached reached
  apply List.nodup_iff_count.mpr
  intro guard
  rw [ordered.counted]
  exact ordered.exclusive guard

theorem timed_out_fetch_is_told :
    let timedOut : Failure := .foreign ⟨"TimeoutError", [.int 110, .string "late"]⟩
    Foreign.make "OSError" [.int 110, .string "late"] =
        .ok ⟨"TimeoutError", [.int 110, .string "late"]⟩ ∧
      slowVisit.host.world.held = [0] ∧
      ∃ next, (Operation.tryEvaluate.attempt Strategy.cautious (some "a")).run.Follows
          [⟨.nodeName "a", "node-1"⟩, ⟨.enter 0, true⟩, .reply "a" .isProvisioned (.ok true),
            .reply "a" .isIdle (.ok true)] (.ask (.call "a" .uptime) next) ∧
        timedOut.IsFetchFailure false ∧
        let ran := slowVisit.host.world.run Script.behaviour {} (next (.error timedOut))
        ran.2 = .finished (.ok (.outcome (.evaluated (.noAction .fetchFailed)))) ∧
          ran.1.journal.length = slowVisit.host.world.journal.length + 1 ∧
          ran.1.calls = slowVisit.host.world.calls ∧ 0 ∉ ran.1.held := by
  intro timedOut
  have reached : Reached Script.behaviour slowVisit :=
    .started Strategy.cautious .tryEvaluate (some "a") false 0 (.opened _)
  have fetch : timedOut.IsFetchFailure false := by
    left
    decide
  have written : Foreign.text? ⟨"TimeoutError", [.int 110, .string "late"]⟩ =
      some "[Errno 110] late" := by
    decide +kernel
  have worded : timedOut.text = .ok "[Errno 110] late" := by
    simp only [timedOut, Failure.text, written]
    rfl
  obtain ⟨next, awaiting⟩ : ∃ next,
      (Operation.tryEvaluate.attempt Strategy.cautious (some "a")).run.Follows
        [⟨.nodeName "a", "node-1"⟩, ⟨.enter 0, true⟩, .reply "a" .isProvisioned (.ok true),
          .reply "a" .isIdle (.ok true)] (.ask (.call "a" .uptime) next) :=
    ⟨_, .further (.further (.further (.further (.here _))))⟩
  obtain ⟨-, -, settled, told, -, silent, free⟩ :=
    Operation.failed_fetch_is_classified Script.behaviour {} slowVisit.host.world awaiting worded
  obtain ⟨reported, record, -, journal, -, -⟩ := told fetch
  refine ⟨rfl, by decide +kernel, next, awaiting, fetch, (settled rfl).mpr fetch, ?_, silent.2.2,
    ?_⟩
  · rw [journal, List.length_append]
    rfl
  · exact (free Operation.noConfusion).2 (held_nodup reached)

end Watch

end Teardown
