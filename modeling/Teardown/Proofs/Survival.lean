import Teardown.Proofs.Parts

/-!
# Survival of the periodic visit

The periodic visit is meant to return whatever happens. It logs a failure by its text, though, and
stops ordinary failures only. So it returns just when no node raised a failure without a text or out
of the ordinary; only a fetch may be broken off, or lose its connection, in any way.
-/

namespace Teardown

set_option autoImplicit false

namespace Failure

/-- The failure can be reported: it is ordinary and has a text. -/
def Reportable (failure : Failure) : Prop :=
  failure.isOrdinary = true ∧ ∃ text, failure.text = .ok text

/-- A lost connection, or a call that was broken off. -/
def IsInterruption (failure : Failure) : Prop :=
  failure.family = .connectivity ∨ failure.family = .cancellation

/-- A failure of a call with which a periodic visit can cope. -/
def Survivable (method : NodeCall) (failure : Failure) : Prop :=
  failure.Reportable ∨ (method = .uptime ∧ failure.IsInterruption)

/-- What stands in the way of a text can itself be reported. -/
theorem reportable_of_text_error {failure other : Failure} (lost : failure.text = .error other) :
    other.Reportable := by
  have known : other = .lostText ∨ other = .numeralTooLong := by
    cases failure with
    | foreign error =>
        simp only [text] at lost
        split at lost
        · cases lost
          exact .inl rfl
        · split at lost
          · cases lost
          · cases lost
            exact .inr rfl
    | unknownKey key =>
        simp only [text] at lost
        split at lost
        · cases lost
        · cases lost
          exact .inr rfl
    | unknownWord given vocabulary =>
        simp only [text] at lost
        split at lost
        · cases lost
        · cases lost
          exact .inr rfl
    | _ => cases lost
  rcases known with rfl | rfl
  · exact ⟨rfl, _, rfl⟩
  · exact ⟨rfl, _, rfl⟩

theorem reportable_of_retention (error : RetentionError) (identity : Option ErrorId) :
    (retention error identity).Reportable :=
  ⟨rfl, _, rfl⟩

end Failure

theorem bind_eq_error {First Second : Type} {given : Except Failure First}
    {next : First → Except Failure Second} {failure : Failure}
    (failed : (given >>= next) = .error failure) :
    given = .error failure ∨ ∃ value, given = .ok value ∧ next value = .error failure := by
  cases given with
  | error other =>
      cases failed
      exact .inl rfl
  | ok value => exact .inr ⟨value, rfl, failed⟩

theorem out_of_range_of_minutes {minutes : Int} {failure : Failure}
    (failed : (Duration.ofMinutes minutes).mapError .daysOutOfRange = .error failure) :
    ∃ error, failure = .daysOutOfRange error := by
  cases made : Duration.ofMinutes minutes with
  | ok duration =>
      rw [made] at failed
      cases failed
  | error error =>
      rw [made] at failed
      cases failed
      exact ⟨error, rfl⟩

theorem out_of_range_of_idle_elapsed {policy : Policy} {facts : Facts} {failure : Failure}
    (failed : idleElapsed policy facts = .error failure) :
    ∃ error, failure = .daysOutOfRange error := by
  unfold idleElapsed at failed
  split at failed
  · cases failed
  · split at failed
    · cases failed
    · rcases bind_eq_error failed with made | ⟨_, -, ⟨⟩⟩
      exact out_of_range_of_minutes made

theorem out_of_range_of_cycle_elapsed {policy : Policy} {remaining : Duration}
    {failure : Failure} (failed : cycleElapsed policy remaining = .error failure) :
    ∃ error, failure = .daysOutOfRange error := by
  unfold cycleElapsed at failed
  split at failed
  · cases failed
  · rcases bind_eq_error failed with made | ⟨_, -, ⟨⟩⟩
    exact out_of_range_of_minutes made

/-- A decision fails only for minutes that are no duration. -/
theorem out_of_range_of_decide_error {policy : Policy} {facts : Facts} {failure : Failure}
    (failed : decideRetention policy facts = .error failure) :
    ∃ error, failure = .daysOutOfRange error := by
  unfold decideRetention at failed
  split at failed
  · cases failed
  · rcases bind_eq_error failed with idle | ⟨_, -, rest⟩
    · exact out_of_range_of_idle_elapsed idle
    rcases bind_eq_error rest with cycle | ⟨_, -, selected⟩
    · exact out_of_range_of_cycle_elapsed cycle
    split at selected <;> cases selected

theorem reportable_of_decide_error {policy : Policy} {facts : Facts} {failure : Failure}
    (failed : decideRetention policy facts = .error failure) : failure.Reportable := by
  obtain ⟨error, rfl⟩ := out_of_range_of_decide_error failed
  exact ⟨rfl, _, rfl⟩

/-- Some node raised a failure with which a periodic visit cannot cope. -/
def Escaped (course : List Exchange) : Prop :=
  ∃ node method failure, .reply node method (.error failure) ∈ course ∧
    ¬ failure.Survivable method

/-- Nobody had asked the caller to stop. -/
def Unasked (course : List Exchange) : Prop := ⟨.cancelRequested, true⟩ ∉ course

/-- The result is a failure that cannot be reported. -/
def Unreported {Result : Type} (result : Except Failure Result) : Prop :=
  ∃ failure, result = .error failure ∧ ¬ failure.Reportable

theorem not_unreported_ok {Result : Type} (value : Result) :
    ¬ Unreported (Except.ok value : Except Failure Result) := by
  intro given
  obtain ⟨failure, ⟨⟩, -⟩ := given

theorem unreported_error_iff {Result : Type} (failure : Failure) :
    Unreported (.error failure : Except Failure Result) ↔ ¬ failure.Reportable := by
  constructor
  · intro given
    obtain ⟨_, ⟨⟩, unreportable⟩ := given
    exact unreportable
  · intro unreportable
    exact ⟨failure, rfl, unreportable⟩

theorem unreported_map_iff {First Second : Type} (given : Except Failure First)
    (change : First → Second) : Unreported (given.map change) ↔ Unreported given := by
  cases given with
  | ok value =>
      exact iff_of_false (not_unreported_ok (change value)) (not_unreported_ok value)
  | error failure =>
      rw [unreported_error_iff]
      exact unreported_error_iff failure

theorem escaped_append_iff (first last : List Exchange) :
    Escaped (first ++ last) ↔ Escaped first ∨ Escaped last := by
  constructor
  · intro given
    obtain ⟨node, method, failure, present, fatal⟩ := given
    rcases List.mem_append.mp present with early | late
    · exact .inl ⟨node, method, failure, early, fatal⟩
    · exact .inr ⟨node, method, failure, late, fatal⟩
  · intro given
    rcases given with
      ⟨node, method, failure, present, fatal⟩ | ⟨node, method, failure, present, fatal⟩
    · exact ⟨node, method, failure, List.mem_append_left last present, fatal⟩
    · exact ⟨node, method, failure, List.mem_append_right first present, fatal⟩

theorem unasked_append_iff (first last : List Exchange) :
    Unasked (first ++ last) ↔ Unasked first ∧ Unasked last := by
  simp [Unasked, not_or]

theorem not_escaped_of_no_reply {course : List Exchange}
    (silent : ∀ exchange ∈ course, exchange.isReply = false) : ¬ Escaped course := by
  intro given
  obtain ⟨node, method, failure, present, -⟩ := given
  cases silent _ present

theorem escaped_reply_iff (node : NodeId) (method : NodeCall)
    (result : Except Failure method.Answer) :
    Escaped [.reply node method result] ↔
      ∃ failure, result = .error failure ∧ ¬ failure.Survivable method := by
  constructor
  · intro given
    obtain ⟨other, called, failure, present, fatal⟩ := given
    cases List.mem_singleton.mp present
    exact ⟨failure, rfl, fatal⟩
  · intro given
    obtain ⟨failure, rfl, fatal⟩ := given
    exact ⟨node, method, failure, List.mem_singleton_self _, fatal⟩

namespace Attempt

variable {Result First Second : Type}

/-- As long as nobody asks to stop, the attempt ends in a failure that cannot be reported just when
a node raised one that escapes. -/
def Relays (attempt : Attempt Result) : Prop :=
  ∀ course result, attempt.Ends course result → Unasked course →
    (Unreported result ↔ Escaped course)

theorem relays_pure (value : Result) : Relays (pure value) := by
  intro course result ended unasked
  obtain ⟨rfl, rfl⟩ := (ends_pure_iff _ _ _).mp ended
  exact iff_of_false (not_unreported_ok value) (not_escaped_of_no_reply (by simp))

theorem relays_ofExcept {given : Except Failure Result} (reported : ¬ Unreported given) :
    Relays (ofExcept given) := by
  intro course result ended unasked
  obtain ⟨rfl, rfl⟩ := (ends_ofExcept_iff _ _ _).mp ended
  exact iff_of_false reported (not_escaped_of_no_reply (by simp))

theorem relays_call (node : NodeId) {method : NodeCall} (other : method ≠ .uptime) :
    Relays (call node method) := by
  intro course result ended unasked
  obtain rfl := (ends_call_iff _ _ _ _).mp ended
  rw [escaped_reply_iff]
  constructor
  · intro given
    obtain ⟨failure, rfl, unreportable⟩ := given
    refine ⟨failure, rfl, ?_⟩
    intro given
    rcases given with reportable | ⟨fetched, -⟩
    · exact unreportable reportable
    · exact other fetched
  · intro given
    obtain ⟨failure, rfl, fatal⟩ := given
    exact ⟨failure, rfl, fun reportable => fatal (.inl reportable)⟩

theorem relays_perform {request : Request}
    (silent : ∀ answer, Exchange.isReply ⟨request, answer⟩ = false) :
    Relays (perform request) := by
  intro course result ended unasked
  obtain ⟨answer, rfl, rfl⟩ := (ends_perform_iff _ _ _).mp ended
  refine iff_of_false (not_unreported_ok answer) (not_escaped_of_no_reply ?_)
  simpa using silent answer

theorem relays_bind {attempt : Attempt First} {next : First → Attempt Second}
    (first : attempt.Relays) (last : ∀ value, (next value).Relays) :
    (attempt >>= next).Relays := by
  intro course result ended unasked
  rcases (ends_bind_iff _ _ _ _).mp ended with
    ⟨failure, failed, rfl⟩ | ⟨before, value, after, rfl, reached, continued⟩
  · rw [unreported_error_iff, ← first course _ failed unasked, unreported_error_iff]
  · obtain ⟨early, late⟩ := (unasked_append_iff _ _).mp unasked
    have spared : ¬ Escaped before := by
      rw [← first before _ reached early]
      exact not_unreported_ok value
    rw [escaped_append_iff, last value after result continued late]
    exact ⟨.inr, fun escaped => escaped.resolve_left spared⟩

theorem relays_composes : Composes fun _ attempt => attempt.Relays where
  pure := relays_pure
  bind := relays_bind

end Attempt

namespace Strategy

theorem fetch_parts_relay (node : NodeId) : FetchParts (fun _ attempt => attempt.Relays) node :=
  { Attempt.relays_composes with
    nodeName := Attempt.relays_perform fun _ => rfl
    note := fun _ _ => Attempt.relays_perform fun _ => rfl
    tell := fun _ _ => Attempt.relays_perform fun _ => rfl }

theorem wrap_fetch_failure_relays (node : NodeId) (message reason : String) :
    (wrapFetchFailure node message reason).Relays :=
  wrap_fetch_failure_holds (fetch_parts_relay node) message reason

/-- A fetch that was broken off is passed on only if the caller was asked to stop. -/
theorem broken_off_relays (node : NodeId) (failure : Failure) (message reason : String) :
    Attempt.Relays (do
      if ← Attempt.perform .cancelRequested then throw failure
      else wrapFetchFailure node message reason) := by
  intro course result ended unasked
  obtain ⟨requested, later, rfl, answered⟩ := (Attempt.ends_perform_bind_iff _ _ _ _).mp ended
  obtain ⟨early, late⟩ := (unasked_append_iff [_] later).mp unasked
  cases requested with
  | true => exact (early (List.mem_singleton_self _)).elim
  | false =>
      have spared : ¬ Escaped [⟨.cancelRequested, false⟩] :=
        not_escaped_of_no_reply (by simp [Exchange.isReply])
      rw [wrap_fetch_failure_relays node message reason later result answered late]
      exact ((escaped_append_iff [_] later).trans (or_iff_right spared)).symm

/-- A failed fetch is either coped with, or passed on like the failure of any other call. -/
theorem handle_fetch_failure_relays_or_throws (node : NodeId) (failure : Failure) :
    (failure.Survivable .uptime ∧ (handleFetchFailure node failure).Relays) ∨
      (¬ failure.IsInterruption ∧ handleFetchFailure node failure = throw failure) := by
  cases failure with
  | retention error identity =>
      by_cases fetch : error.isFactFetch = true
      · refine .inl ⟨.inl (Failure.reportable_of_retention error identity), ?_⟩
        simp only [handleFetchFailure, if_pos fetch]
        exact fetch_failed_holds (fetch_parts_relay node) error identity
      · refine .inr ⟨by simp [Failure.IsInterruption, Failure.family], ?_⟩
        simp only [handleFetchFailure, if_neg fetch]
  | foreign error =>
      cases family : error.family with
      | connectivity =>
          refine .inl ⟨.inr ⟨rfl, .inl family⟩, ?_⟩
          simp only [handleFetchFailure, family]
          have worded : ¬ Unreported (Failure.foreign error).text := by
            intro given
            obtain ⟨other, textless, unreportable⟩ := given
            exact unreportable (Failure.reportable_of_text_error textless)
          apply Attempt.relays_bind (Attempt.relays_ofExcept worded)
          intro text
          exact wrap_fetch_failure_relays node _ _
      | cancellation =>
          refine .inl ⟨.inr ⟨rfl, .inr family⟩, ?_⟩
          simp only [handleFetchFailure, family]
          exact broken_off_relays node _ _ _
      | _ =>
          refine .inr ⟨by simp [Failure.IsInterruption, Failure.family, family], ?_⟩
          simp only [handleFetchFailure, family]
  | _ => exact .inr ⟨by simp [Failure.IsInterruption, Failure.family], rfl⟩

theorem handle_fetch_failure_unreported_iff {node : NodeId} {failure : Failure}
    {course : List Exchange} {result : Except Failure (Option Facts)}
    (ended : (handleFetchFailure node failure).Ends course result) (unasked : Unasked course) :
    Unreported result ↔ ¬ failure.Survivable .uptime := by
  rcases handle_fetch_failure_relays_or_throws node failure with
    ⟨survivable, relays⟩ | ⟨uninterrupted, throws⟩
  · have silent := (handle_fetch_failure_within node failure _ _ ended).1
    rw [relays course result ended unasked]
    refine iff_of_false (not_escaped_of_no_reply ?_) (not_not_intro survivable)
    exact fun exchange present => (silent exchange present).1
  · rw [throws] at ended
    obtain ⟨-, rfl⟩ := (Attempt.ends_throw_iff _ _ _).mp ended
    rw [unreported_error_iff, Failure.Survivable, and_iff_right rfl, or_iff_left uninterrupted]

theorem gather_facts_relays (node : NodeId) : (gatherFacts node).Relays := by
  intro course result ended unasked
  obtain ⟨first, fetched, later, rfl, called, afterUptime⟩ :=
    (Attempt.ends_outcome_bind_iff _ _ _ _).mp ended
  obtain rfl := (Attempt.ends_call_iff _ _ _ _).mp called
  have late := ((unasked_append_iff _ _).mp unasked).2
  rw [escaped_append_iff, escaped_reply_iff]
  -- A failure of the first call is handled here; the failures of the others pass through.
  cases fetched with
  | error failure =>
      have silent := (handle_fetch_failure_within node failure _ _ afterUptime).1
      rw [handle_fetch_failure_unreported_iff afterUptime late,
        or_iff_left (not_escaped_of_no_reply fun exchange present => (silent exchange present).1)]
      simp
  | ok uptime =>
      have others : Attempt.Relays (do
          let isOffline ← Attempt.call node .isOffline
          let running ← Attempt.call node .running
          let idle ← Attempt.call node .idle
          return some (Facts.mk isOffline uptime running idle)) := by
        apply Attempt.relays_bind (Attempt.relays_call node (by decide))
        intro isOffline
        apply Attempt.relays_bind (Attempt.relays_call node (by decide))
        intro running
        apply Attempt.relays_bind (Attempt.relays_call node (by decide))
        intro idle
        exact Attempt.relays_pure _
      rw [others later result afterUptime late]
      simp

theorem decide_not_unreported (policy : Policy) (facts : Facts) :
    ¬ Unreported (decideRetention policy facts) := by
  intro given
  obtain ⟨failure, failed, unreportable⟩ := given
  exact unreportable (reportable_of_decide_error failed)

theorem evaluate_relays (strategy : Strategy) (node : Option NodeId) :
    (strategy.evaluate node).Relays := by
  refine evaluate_holds Attempt.relays_composes fun present _ => ?_
  exact { Attempt.relays_composes with
    call := fun method other => Attempt.relays_call present other
    nodeName := Attempt.relays_perform fun answer => rfl
    gather := gather_facts_relays present
    decide := fun facts => Attempt.relays_ofExcept (decide_not_unreported strategy.policy facts)
    announce := fun name decision => Attempt.relays_perform fun answer => rfl }

theorem name_of_relays (node : Option NodeId) : (nameOf node).Relays := by
  cases node with
  | none => exact Attempt.relays_pure none
  | some present =>
      apply Attempt.relays_bind (Attempt.relays_perform fun answer => rfl)
      intro name
      exact Attempt.relays_pure (some name)

theorem evaluate_and_leave_relays (guard : GuardId) {evaluation : Attempt Decision}
    (relays : evaluation.Relays) :
    Attempt.Relays (do
      let result ← evaluation.outcome
      Attempt.perform (.leave guard)
      return Outcome.evaluated (← Attempt.ofExcept result)) := by
  intro course result ended unasked
  obtain ⟨first, outcome, later, rfl, evaluated, left⟩ :=
    (Attempt.ends_outcome_bind_iff _ _ _ _).mp ended
  obtain ⟨early, -⟩ := (unasked_append_iff _ _).mp unasked
  obtain ⟨answer, rest, rfl, passed⟩ := (Attempt.ends_perform_bind_iff _ _ _ _).mp left
  obtain ⟨rfl, rfl⟩ := (Attempt.ends_ofExcept_map_iff _ _ _ _).mp passed
  have spared : ¬ Escaped [⟨.leave guard, answer⟩] :=
    not_escaped_of_no_reply (by simp [Exchange.isReply])
  rw [escaped_append_iff, or_iff_left spared, unreported_map_iff]
  exact relays first outcome evaluated early

theorem guarded_relays (guard : GuardId) (name : Option String) {evaluation : Attempt Decision}
    (relays : evaluation.Relays) : (guarded guard name evaluation).Relays := by
  apply Attempt.relays_bind (Attempt.relays_perform fun answer => rfl)
  intro entered
  cases entered with
  | true => exact evaluate_and_leave_relays guard relays
  | false =>
      apply Attempt.relays_bind (Attempt.relays_perform fun answer => rfl)
      intro _
      exact Attempt.relays_pure Outcome.skipped

theorem try_evaluate_relays (strategy : Strategy) (node : Option NodeId) :
    (strategy.tryEvaluate node).Relays := by
  apply Attempt.relays_bind (name_of_relays node)
  intro name
  exact guarded_relays strategy.guard name (evaluate_relays strategy node)

theorem report_failure_ok_iff {node : Option NodeId} {failure : Failure}
    {course : List Exchange} {result : Except Failure Unit}
    (ended : (reportFailure node failure).Ends course result) :
    result = .ok () ↔ failure.Reportable := by
  unfold reportFailure at ended
  by_cases ordinary : failure.isOrdinary = true
  · rw [if_pos ordinary] at ended
    obtain ⟨name, later, worded⟩ : ∃ name later, Attempt.Ends (do
        let text ← Attempt.ofExcept failure.text
        Attempt.log (failureRecord name failure text)) later result := by
      cases node with
      | none => exact ⟨none, course, ended⟩
      | some present =>
          obtain ⟨name, later, -, worded⟩ := (Attempt.ends_perform_bind_iff _ _ _ _).mp ended
          exact ⟨some name, later, worded⟩
    rw [Failure.Reportable, and_iff_right ordinary]
    cases known : failure.text with
    | error lost =>
        rw [known] at worded
        obtain ⟨-, rfl⟩ := (Attempt.ends_throw_iff lost later result).mp worded
        simp
    | ok text =>
        rw [known] at worded
        obtain ⟨answer, -, rfl⟩ := (Attempt.ends_perform_iff (.log _) later result).mp worded
        simp
  · rw [if_neg ordinary] at ended
    obtain ⟨-, rfl⟩ := (Attempt.ends_throw_iff _ _ _).mp ended
    exact iff_of_false (by simp) fun reportable => ordinary reportable.1

theorem handled_ok_iff {node : Option NodeId} {failure : Failure} {course : List Exchange}
    {result : Except Failure Nat}
    (ended : Attempt.Ends (do
      reportFailure node failure
      return recheckMinutes) course result) :
    (∀ exchange ∈ course, exchange.isReply = false) ∧
      (result = .ok recheckMinutes ↔ failure.Reportable) := by
  constructor
  · have silent : Attempt.Within (do
        reportFailure node failure
        return recheckMinutes) Exchange.Silent fun _ => True :=
      Attempt.within_bind (report_failure_within node failure) fun _ _ =>
        Attempt.within_pure trivial
    exact fun exchange present => ((silent course result ended).1 exchange present).1
  · rcases (Attempt.ends_bind_iff _ _ _ _).mp ended with
      ⟨raised, failed, rfl⟩ | ⟨first, reported, last, rfl, reached, returned⟩
    · rw [← report_failure_ok_iff failed]
      simp
    · obtain ⟨rfl, rfl⟩ := (Attempt.ends_pure_iff _ _ _).mp returned
      rw [← report_failure_ok_iff reached]
      simp

theorem check_ok_iff_not_escaped {strategy : Strategy} {node : Option NodeId}
    {course : List Exchange} {result : Except Failure Nat}
    (ended : (strategy.check node).Ends course result) (unasked : Unasked course) :
    result = .ok recheckMinutes ↔ ¬ Escaped course := by
  obtain ⟨first, outcome, last, rfl, tried, handled⟩ :=
    (Attempt.ends_outcome_bind_iff _ _ _ _).mp ended
  obtain ⟨early, -⟩ := (unasked_append_iff _ _).mp unasked
  have relayed := try_evaluate_relays strategy node first outcome tried early
  cases outcome with
  | ok known =>
      obtain ⟨rfl, rfl⟩ := (Attempt.ends_pure_iff _ _ _).mp handled
      rw [List.append_nil, ← relayed]
      exact iff_of_true rfl (not_unreported_ok known)
  | error failure =>
      obtain ⟨silent, returned⟩ := handled_ok_iff handled
      rw [returned, escaped_append_iff, or_iff_left (not_escaped_of_no_reply silent), ← relayed,
        unreported_error_iff, Classical.not_not]

/-- As long as nobody asks to stop, the periodic visit returns just when every failure that a node
raised was one with which it can cope: one that can be reported, or an interruption of the fetch. -/
theorem check_returns_iff_survivable (strategy : Strategy) (node : Option NodeId)
    (course : List Exchange) (result : Except Failure Nat)
    (ended : (strategy.check node).Ends course result)
    (unasked : ⟨.cancelRequested, true⟩ ∉ course) :
    result = .ok recheckMinutes ↔
      ∀ visited method failure, .reply visited method (.error failure) ∈ course →
        failure.Survivable method := by
  rw [check_ok_iff_not_escaped ended unasked]
  constructor
  · intro contained visited method failure raised
    apply Classical.byContradiction
    intro fatal
    exact contained ⟨visited, method, failure, raised, fatal⟩
  · intro survivable given
    obtain ⟨visited, method, failure, raised, fatal⟩ := given
    exact fatal (survivable visited method failure raised)

def visitExchanges (strategy : Strategy) (node : NodeId) (name : String)
    (course : List Exchange) : List Exchange :=
  ⟨.nodeName node, name⟩ :: ⟨.enter strategy.guard, true⟩ ::
    (course ++ [⟨.leave strategy.guard, ()⟩])

theorem try_evaluate_takes {strategy : Strategy} {node : NodeId} {course : List Exchange}
    {result : Except Failure Decision}
    (evaluated : (strategy.evaluate (some node)).Ends course result) (name : String) :
    (strategy.tryEvaluate (some node)).Ends (strategy.visitExchanges node name course)
      (result.map .evaluated) := by
  apply (Attempt.ends_perform_bind_iff _ _ _ _).mpr
  refine ⟨name, _, rfl, ?_⟩
  apply (Attempt.ends_perform_bind_iff _ _ _ _).mpr
  refine ⟨true, _, rfl, ?_⟩
  apply (Attempt.ends_outcome_bind_iff _ _ _ _).mpr
  refine ⟨course, result, _, rfl, evaluated, ?_⟩
  apply (Attempt.ends_perform_bind_iff _ _ _ _).mpr
  exact ⟨(), [], rfl, (Attempt.ends_ofExcept_map_iff _ _ _ _).mpr ⟨rfl, rfl⟩⟩

theorem check_takes_unreported {strategy : Strategy} {node : NodeId} {course : List Exchange}
    {failure : Failure} (evaluated : (strategy.evaluate (some node)).Ends course (.error failure))
    (extraordinary : failure.isOrdinary = false) (name : String) :
    (strategy.check (some node)).Ends (strategy.visitExchanges node name course)
      (.error failure) := by
  apply (Attempt.ends_outcome_bind_iff _ _ _ _).mpr
  refine ⟨_, .error failure, [], (List.append_nil _).symm, try_evaluate_takes evaluated name, ?_⟩
  apply (Attempt.ends_bind_iff _ _ _ _).mpr
  refine .inl ⟨failure, ?_, rfl⟩
  have unordinary : ¬ failure.isOrdinary = true := by simp [extraordinary]
  rw [reportFailure, if_neg unordinary]
  exact (Attempt.ends_throw_iff _ _ _).mpr ⟨rfl, rfl⟩

theorem check_takes_reported {strategy : Strategy} {node : NodeId} {course : List Exchange}
    {failure : Failure} {text : String}
    (evaluated : (strategy.evaluate (some node)).Ends course (.error failure))
    (ordinary : failure.isOrdinary = true) (worded : failure.text = .ok text) (name : String) :
    (strategy.check (some node)).Ends
      (strategy.visitExchanges node name course ++
        [⟨.nodeName node, name⟩, ⟨.log (failureRecord (some name) failure text), ()⟩])
      (.ok recheckMinutes) := by
  apply (Attempt.ends_outcome_bind_iff _ _ _ _).mpr
  refine ⟨_, .error failure, _, rfl, try_evaluate_takes evaluated name, ?_⟩
  simp only [reportFailure, if_pos ordinary, worded]
  apply (Attempt.ends_perform_bind_iff _ _ _ _).mpr
  refine ⟨name, _, rfl, ?_⟩
  apply (Attempt.ends_perform_bind_iff _ _ _ _).mpr
  exact ⟨(), [], rfl, (Attempt.ends_pure_iff _ _ _).mpr ⟨rfl, rfl⟩⟩

theorem check_takes_textless {strategy : Strategy} {node : NodeId} {course : List Exchange}
    {failure lost : Failure}
    (evaluated : (strategy.evaluate (some node)).Ends course (.error failure))
    (ordinary : failure.isOrdinary = true) (textless : failure.text = .error lost)
    (name : String) :
    (strategy.check (some node)).Ends
      (strategy.visitExchanges node name course ++ [⟨.nodeName node, name⟩]) (.error lost) := by
  apply (Attempt.ends_outcome_bind_iff _ _ _ _).mpr
  refine ⟨_, .error failure, _, rfl, try_evaluate_takes evaluated name, ?_⟩
  simp only [reportFailure, if_pos ordinary, textless]
  apply (Attempt.ends_perform_bind_iff _ _ _ _).mpr
  exact ⟨name, [], rfl, (Attempt.ends_throw_iff _ _ _).mpr ⟨rfl, rfl⟩⟩

theorem text_of_long_numeral {number : Int} (long : Nat.pow 10 Text.digitLimit ≤ number.natAbs) :
    (Failure.foreign ⟨"ValueError", [.int number]⟩).text = .error .numeralTooLong := by
  have written : Foreign.text? ⟨"ValueError", [.int number]⟩ = Text.writeNumeral? number := by
    simp [Foreign.text?, Foreign.grammarNames, Foreign.codingNames, Foreign.family,
      Foreign.connectivityNames, Foreign.fatalNames, Foreign.argumentText?, Value.text?,
      Value.nestedText?]
  have unwritten := Text.writeNumeral?_eq_none_iff.mpr long
  have beginning : Foreign.pointsBeforeText ⟨"ValueError", [.int number]⟩ = false := rfl
  simp only [Failure.text, beginning, written, unwritten, Bool.false_eq_true, if_false]

def tearingDown (answer : Except Failure Unit) : List Exchange :=
  cautious.visitExchanges "a" "node-1"
    (heard "a" lateIdleFacts ++ teardownExchanges "a" lateIdleDecision "node-1" answer)

theorem tearing_down_raised {answer : Except Failure Unit} {visited : NodeId}
    {method : NodeCall} {failure : Failure}
    (raised : .reply visited method (.error failure) ∈ tearingDown answer) :
    method = .teardown ∧ answer = .error failure := by
  simp [tearingDown, visitExchanges, heard, observed, teardownExchanges, Exchange.reply] at raised
  rcases raised with ⟨⟨-, rfl⟩, same⟩ | ⟨⟨-, rfl⟩, same⟩ | ⟨⟨-, rfl⟩, same⟩ |
      ⟨⟨-, rfl⟩, same⟩ | ⟨⟨-, rfl⟩, same⟩ | ⟨⟨-, rfl⟩, same⟩ | ⟨⟨-, rfl⟩, same⟩ |
      ⟨⟨-, rfl⟩, same⟩ <;>
    cases same
  exact ⟨rfl, rfl⟩

theorem tearing_down_unasked (answer : Except Failure Unit) :
    ⟨.cancelRequested, true⟩ ∉ tearingDown answer := by
  simp [tearingDown, visitExchanges, heard, observed, teardownExchanges, Exchange.reply]

/-- A teardown that is refused with a text does not keep the visit from returning. -/
theorem check_returns_of_refused_teardown :
    ∃ course, (cautious.check (some "a")).Ends course (.ok recheckMinutes) ∧
      ⟨.cancelRequested, true⟩ ∉ course ∧
      .reply "a" .teardown (.error (.foreign ⟨"ValueError", [.string "refused"]⟩)) ∈ course ∧
      ∀ visited method failure, .reply visited method (.error failure) ∈ course →
        failure.Survivable method := by
  let refused : Failure := .foreign ⟨"ValueError", [.string "refused"]⟩
  have worded : refused.text = .ok "refused" := rfl
  have taken := check_takes_reported (cautious_takes_teardown (.error refused)) rfl worded "node-1"
  have unasked : ⟨.cancelRequested, true⟩ ∉ tearingDown (.error refused) ++
      [⟨.nodeName "a", "node-1"⟩,
        ⟨.log (failureRecord (some "node-1") refused "refused"), ()⟩] := by
    simp [tearing_down_unasked]
  refine ⟨_, taken, unasked, ?_, ?_⟩
  · simp [visitExchanges, teardownExchanges, refused]
  · exact (check_returns_iff_survivable cautious (some "a") _ _ taken unasked).mp rfl

/-- The periodic visit need not return even if nobody asks to stop: a teardown that was broken off
ends it, and so does an ordinary failure without a text. -/
theorem check_ends_in_failure :
    (∃ course, (cautious.check (some "a")).Ends course (.error .cancelled) ∧
        ⟨.cancelRequested, true⟩ ∉ course ∧
        ∀ visited method failure, .reply visited method (.error failure) ∈ course →
          method = .teardown ∧ failure = .cancelled) ∧
      ∃ course failure, (cautious.check (some "a")).Ends course (.error .numeralTooLong) ∧
        ⟨.cancelRequested, true⟩ ∉ course ∧ failure.isOrdinary = true ∧
        ∀ visited method raised, .reply visited method (.error raised) ∈ course →
          method = .isProvisioned ∧ raised = failure := by
  constructor
  · refine ⟨tearingDown (.error .cancelled), ?_, tearing_down_unasked _, ?_⟩
    · exact check_takes_unreported (cautious_takes_teardown (.error .cancelled)) rfl "node-1"
    · intro visited method failure raised
      obtain ⟨last, same⟩ := tearing_down_raised raised
      cases same
      exact ⟨last, rfl⟩
  · let number : Int := ((Nat.pow 10 Text.digitLimit : Nat) : Int)
    let endless : Failure := .foreign ⟨"ValueError", [.int number]⟩
    have textless : endless.text = .error .numeralTooLong :=
      text_of_long_numeral (Nat.le_of_eq (Int.natAbs_natCast _).symm)
    have evaluated : (cautious.evaluate (some "a")).Ends
        [.reply "a" .isProvisioned (.error endless)] (.error endless) :=
      (Attempt.ends_call_bind_iff _ _ _ _ _).mpr (.inl ⟨endless, rfl, rfl⟩)
    refine ⟨_, endless, check_takes_textless evaluated rfl textless "node-1", ?_, rfl, ?_⟩
    · simp [visitExchanges, Exchange.reply]
    · intro visited method raised present
      simp [visitExchanges, Exchange.reply] at present
      obtain ⟨⟨-, rfl⟩, same⟩ := present
      cases same
      exact ⟨rfl, rfl⟩

end Strategy

end Teardown
