import Teardown.Strategy
import Teardown.Proofs.Boundary
import Teardown.Proofs.Course

/-!
# Courses of an evaluation

An evaluation calls a node in one fixed order and may break off after each call. It either carries a
teardown out, with all facts gathered and announced, or it abstains: then there is neither a
teardown nor an announcement in its course. Both kinds of course are described completely here.
-/

namespace Teardown

set_option autoImplicit false

namespace Exchange

def isTeardown : Exchange → Bool
  | ⟨.call _ .teardown, _⟩ => true
  | _ => false

/-- Announcements are the only records of their level that an evaluation logs. -/
def isAnnouncement : Exchange → Bool
  | ⟨.log record, _⟩ => record.level = Log.infoLevel
  | _ => false

def guard? : Exchange → Option GuardId
  | ⟨.enter guard, _⟩ | ⟨.leave guard, _⟩ => some guard
  | _ => none

/-- Neither a call on a node nor an announcement, and no use of a guard. -/
def Silent (exchange : Exchange) : Prop :=
  exchange.isReply = false ∧ exchange.isAnnouncement = false ∧ exchange.guard? = none

/-- Neither a teardown nor an announcement, and no use of a guard. -/
def Quiet (exchange : Exchange) : Prop :=
  exchange.isTeardown = false ∧ exchange.isAnnouncement = false ∧ exchange.guard? = none

theorem call_none_of_silent {exchange : Exchange} (silent : exchange.Silent) :
    exchange.call? = none := by
  obtain ⟨request, answer⟩ := exchange
  cases request with
  | call node method => cases silent.1
  | _ => rfl

theorem quiet_of_silent {exchange : Exchange} (silent : exchange.Silent) : exchange.Quiet := by
  refine ⟨?_, silent.2⟩
  obtain ⟨request, answer⟩ := exchange
  cases request with
  | call node method => cases silent.1
  | _ => rfl

theorem reply_inj {node : NodeId} {method : NodeCall}
    {first second : Except Failure method.Answer} :
    reply node method first = reply node method second ↔ first = second := by
  constructor
  · intro same
    cases same
    rfl
  · intro same
    subst same
    rfl

theorem quiet_reply {node : NodeId} {method : NodeCall} {result : Except Failure method.Answer}
    (other : method ≠ .teardown) : (reply node method result).Quiet := by
  refine ⟨?_, rfl, rfl⟩
  cases method with
  | teardown => exact (other rfl).elim
  | _ => rfl

end Exchange

theorem answered_calls_of_silent {course : List Exchange}
    (silent : ∀ exchange ∈ course, exchange.Silent) : answeredCalls course = [] := by
  apply List.filterMap_eq_nil_iff.mpr
  intro exchange present
  exact Exchange.call_none_of_silent (silent exchange present)

theorem replies_nil : replies [] = [] := rfl

theorem replies_cons_reply (node : NodeId) (method : NodeCall)
    (result : Except Failure method.Answer) (course : List Exchange) :
    replies (.reply node method result :: course) =
      .reply node method result :: replies course := by
  rfl

/-- A course without a teardown and without an announcement, which calls the node in the given
order and may leave off early. -/
structure Abstains (node : NodeId) (order : List NodeCall) (course : List Exchange) : Prop where
  quiet : ∀ exchange ∈ course, exchange.Quiet
  ordered : answeredCalls course <+: order.map (node, ·)

theorem abstains_silent (node : NodeId) (order : List NodeCall) {course : List Exchange}
    (silent : ∀ exchange ∈ course, exchange.Silent) : Abstains node order course where
  quiet := fun exchange present => Exchange.quiet_of_silent (silent exchange present)
  ordered := by
    rw [answered_calls_of_silent silent]
    exact List.nil_prefix

theorem abstains_nil (node : NodeId) (order : List NodeCall) : Abstains node order [] :=
  abstains_silent node order (by simp)

theorem abstains_cons {node : NodeId} {method : NodeCall} {order : List NodeCall}
    {course : List Exchange} (result : Except Failure method.Answer)
    (other : method ≠ .teardown) (later : Abstains node order course) :
    Abstains node (method :: order) (.reply node method result :: course) where
  quiet := by
    intro exchange present
    rcases List.mem_cons.mp present with rfl | present
    · exact Exchange.quiet_reply other
    · exact later.quiet exchange present
  ordered := by
    change (node, method) :: answeredCalls course <+: (node, method) :: order.map (node, ·)
    exact (List.prefix_cons_inj _).mpr later.ordered

theorem abstains_extend {node : NodeId} {order : List NodeCall} {course : List Exchange}
    (more : List NodeCall) (abstains : Abstains node order course) :
    Abstains node (order ++ more) course where
  quiet := abstains.quiet
  ordered := by
    rw [List.map_append]
    exact abstains.ordered.trans (List.prefix_append _ _)

namespace Strategy

theorem fetch_failed_within (node : NodeId) (error : RetentionError)
    (identity : Option ErrorId) :
    (fetchFailed node error identity).Within Exchange.Silent (· = none) := by
  have debug : ∀ record : Log.Record, record.level = Log.debugLevel →
      (Attempt.log record).Within Exchange.Silent fun _ => True := by
    intro record level
    apply Attempt.within_perform
    intro answer
    refine ⟨rfl, ?_, rfl⟩
    rw [Exchange.isAnnouncement, level]
    decide
  unfold fetchFailed
  apply Attempt.within_bind (Attempt.within_perform fun answer => ⟨rfl, rfl, rfl⟩)
  intro name _
  cases identity with
  | none => exact Attempt.within_bind (debug _ rfl) fun _ _ => Attempt.within_pure rfl
  | some shared =>
      apply Attempt.within_bind (Attempt.within_perform fun answer => ⟨rfl, rfl, rfl⟩)
      intro _ _
      exact Attempt.within_bind (debug _ rfl) fun _ _ => Attempt.within_pure rfl

theorem wrap_fetch_failure_within (node : NodeId) (message reason : String) :
    (wrapFetchFailure node message reason).Within Exchange.Silent (· = none) := by
  apply Attempt.within_bind (Attempt.within_perform fun answer => ⟨rfl, rfl, rfl⟩)
  intro name _
  exact fetch_failed_within node _ none

theorem handle_fetch_failure_within (node : NodeId) (failure : Failure) :
    (handleFetchFailure node failure).Within Exchange.Silent (· = none) := by
  unfold handleFetchFailure
  split
  · split
    · exact fetch_failed_within node _ _
    · exact Attempt.within_throw _ _
  · split
    · apply Attempt.within_bind (Attempt.within_ofExcept _)
      intro text _
      exact wrap_fetch_failure_within node _ _
    · apply Attempt.within_bind (Attempt.within_perform fun answer => ⟨rfl, rfl, rfl⟩)
      intro requested _
      split
      · exact Attempt.within_throw _ _
      · exact wrap_fetch_failure_within node _ _
    · exact Attempt.within_throw _ _
  · exact Attempt.within_throw _ _

def observed (node : NodeId) (facts : Facts) : List Exchange :=
  [ .reply node .uptime (.ok facts.uptime), .reply node .isOffline (.ok facts.isOffline),
    .reply node .running (.ok facts.running), .reply node .idle (.ok facts.idle) ]

def factOrder : List NodeCall := [.uptime, .isOffline, .running, .idle]

/-- Gathering yields facts just when all four calls were answered; otherwise it leaves off at the
call that failed. -/
theorem gather_facts_ends {node : NodeId} {course : List Exchange}
    {result : Except Failure (Option Facts)} (ended : (gatherFacts node).Ends course result) :
    (∃ facts, course = observed node facts ∧ result = .ok (some facts)) ∨
      Abstains node factOrder course ∧ (∀ facts, ¬ observed node facts <+: replies course) ∧
        ∀ facts, result ≠ .ok (some facts) := by
  obtain ⟨first, fetched, later, rfl, called, afterUptime⟩ :=
    (Attempt.ends_outcome_bind_iff _ _ _ _).mp ended
  obtain rfl := (Attempt.ends_call_iff _ _ _ _).mp called
  rw [List.singleton_append]
  cases fetched with
  | error failure =>
      have kept := handle_fetch_failure_within node failure _ _ afterUptime
      refine .inr ⟨abstains_cons _ (by decide) (abstains_silent _ _ kept.1), ?_, ?_⟩
      · intro facts heard
        simp [observed, replies_cons_reply, Exchange.reply_inj] at heard
      · intro facts same
        cases kept.2 _ same
  | ok uptime =>
      -- Whichever call fails: its answer stands where a fact would have been observed.
      rcases (Attempt.ends_call_bind_iff _ _ _ _ _).mp afterUptime with
        ⟨failure, rfl, rfl⟩ | ⟨isOffline, later, rfl, afterOffline⟩
      · refine .inr ⟨abstains_cons _ (by decide) (abstains_cons _ (by decide)
          (abstains_nil _ _)), ?_, by simp⟩
        intro facts heard
        simp [observed, replies_cons_reply, Exchange.reply_inj] at heard
      rcases (Attempt.ends_call_bind_iff _ _ _ _ _).mp afterOffline with
        ⟨failure, rfl, rfl⟩ | ⟨running, later, rfl, afterRunning⟩
      · refine .inr ⟨abstains_cons _ (by decide) (abstains_cons _ (by decide)
          (abstains_cons _ (by decide) (abstains_nil _ _))), ?_, by simp⟩
        intro facts heard
        simp [observed, replies_cons_reply, Exchange.reply_inj] at heard
      rcases (Attempt.ends_call_bind_iff _ _ _ _ _).mp afterRunning with
        ⟨failure, rfl, rfl⟩ | ⟨idle, later, rfl, afterIdle⟩
      · refine .inr ⟨abstains_cons _ (by decide) (abstains_cons _ (by decide)
          (abstains_cons _ (by decide) (abstains_cons _ (by decide) (abstains_nil _ _)))), ?_,
          by simp⟩
        intro facts heard
        simp [observed, replies_cons_reply, Exchange.reply_inj] at heard
      obtain ⟨rfl, rfl⟩ := (Attempt.ends_pure_iff _ _ _).mp afterIdle
      exact .inl ⟨⟨isOffline, uptime, running, idle⟩, rfl, rfl⟩

def announcementRecord (name : String) (decision : Decision) : Log.Record where
  logger := loggerName
  level := Log.infoLevel
  template := decision.announcement name
  fields := decision.logFields name

/-- A teardown with its answer, as it follows upon a decision: the node is still there, its name is
read, and the announcement comes right before the call. -/
def teardownExchanges (node : NodeId) (decision : Decision) (name : String)
    (answer : Except Failure Unit) : List Exchange :=
  [ .reply node .isProvisioned (.ok true), ⟨.nodeName node, name⟩,
    ⟨.log (announcementRecord name decision), ()⟩, .reply node .teardown answer ]

theorem terminate_ends {node : NodeId} {decision : Decision} {course : List Exchange}
    {result : Except Failure Decision} (ended : (terminate node decision).Ends course result) :
    (∃ name answer, course = teardownExchanges node decision name answer ∧
        result = answer.map fun _ => decision) ∨
      ∃ answer, answer ≠ .ok true ∧ course = [.reply node .isProvisioned answer] ∧
        result = answer.map fun _ => .noAction .nodeAbsent := by
  rcases (Attempt.ends_call_bind_iff _ _ _ _ _).mp ended with
    ⟨failure, rfl, rfl⟩ | ⟨provisioned, later, rfl, answered⟩
  · exact .inr ⟨.error failure, by simp, rfl, rfl⟩
  cases provisioned with
  | false =>
      obtain ⟨rfl, rfl⟩ := (Attempt.ends_pure_iff _ _ _).mp answered
      exact .inr ⟨.ok false, by simp, rfl, rfl⟩
  | true =>
      obtain ⟨name, later, rfl, named⟩ := (Attempt.ends_perform_bind_iff _ _ _ _).mp answered
      obtain ⟨⟨⟩, later, rfl, logged⟩ := (Attempt.ends_perform_bind_iff _ _ _ _).mp named
      rcases (Attempt.ends_call_bind_iff _ _ _ _ _).mp logged with
        ⟨failure, rfl, rfl⟩ | ⟨⟨⟩, later, rfl, torn⟩
      · exact .inl ⟨name, .error failure, rfl, rfl⟩
      · obtain ⟨rfl, rfl⟩ := (Attempt.ends_pure_iff _ _ _).mp torn
        exact .inl ⟨name, .ok (), rfl, rfl⟩

theorem no_action_of_not_terminate {decision : Decision} (rests : decision.kind ≠ .terminate) :
    decision.kind = .noAction := by
  cases kind : decision.kind with
  | noAction => rfl
  | terminate => exact (rests kind).elim

theorem act_ends {strategy : Strategy} {node : NodeId} {facts : Facts} {course : List Exchange}
    {result : Except Failure Decision} (ended : (strategy.act node facts).Ends course result) :
    (course = [] ∧ result = decideRetention strategy.policy facts ∧
        ∀ decision, result = .ok decision → decision.kind = .noAction) ∨
      ∃ decision, decideRetention strategy.policy facts = .ok decision ∧
        decision.kind = .terminate ∧ (terminate node decision).Ends course result := by
  rcases (Attempt.ends_bind_iff _ _ _ _).mp ended with
    ⟨failure, failed, rfl⟩ | ⟨first, decision, later, rfl, decided, continued⟩
  · obtain ⟨rfl, same⟩ := (Attempt.ends_ofExcept_iff _ _ _).mp failed
    exact .inl ⟨rfl, same, by simp⟩
  obtain ⟨rfl, same⟩ := (Attempt.ends_ofExcept_iff _ _ _).mp decided
  by_cases due : decision.kind = .terminate
  · have acts : decision.shouldTerminate = true := by simp [Decision.shouldTerminate, due]
    rw [if_pos acts] at continued
    exact .inr ⟨decision, same.symm, due, continued⟩
  · have rests : ¬ decision.shouldTerminate = true := by simp [Decision.shouldTerminate, due]
    rw [if_neg rests] at continued
    obtain ⟨rfl, rfl⟩ := (Attempt.ends_pure_iff _ _ _).mp continued
    refine .inl ⟨rfl, same, ?_⟩
    intro _ same
    cases same
    exact no_action_of_not_terminate due

theorem check_preconditions_none_iff (policy : Policy) (nodePresent nodeIdle disabled : Bool) :
    checkPreconditions policy nodePresent nodeIdle disabled = none ↔
      nodePresent = true ∧ policy.neverTerminates = false ∧ nodeIdle = true ∧
        disabled = false := by
  simp only [checkPreconditions, checkPresent, checkEnabled, checkIdle]
  cases nodePresent <;> cases policy.neverTerminates <;> cases nodeIdle <;> cases disabled <;>
    simp

def checkOrder : List NodeCall :=
  [.isProvisioned, .isIdle, .uptime, .isOffline, .running, .idle, .isProvisioned]

/-- The calls of an evaluation, in the only order in which they are made. -/
def visitOrder : List NodeCall := checkOrder ++ [.teardown]

def heard (node : NodeId) (facts : Facts) : List Exchange :=
  .reply node .isProvisioned (.ok true) :: .reply node .isIdle (.ok true) :: observed node facts

/-- The courses that an evaluation of a node takes. It may be broken off before the facts are
complete; the facts may not call for a teardown; the node may be gone when it is to be torn down; or
the teardown is made. -/
inductive EvaluationCourse (strategy : Strategy) (node : NodeId) :
    List Exchange → Except Failure Decision → Prop where
  | brokenOff (course : List Exchange) (result : Except Failure Decision)
      (abstains : Abstains node checkOrder course)
      (unheard : ∀ facts, ¬ heard node facts <+: replies course)
      (kept : ∀ decision, result = .ok decision → decision.kind = .noAction) :
      EvaluationCourse strategy node course result
  | undue (facts : Facts)
      (kept : ∀ decision, decideRetention strategy.policy facts = .ok decision →
        decision.kind = .noAction) :
      EvaluationCourse strategy node (heard node facts) (decideRetention strategy.policy facts)
  | gone (facts : Facts) (decision : Decision) (answer : Except Failure Bool)
      (decided : decideRetention strategy.policy facts = .ok decision)
      (due : decision.kind = .terminate) (absent : answer ≠ .ok true) :
      EvaluationCourse strategy node
        (heard node facts ++ [.reply node .isProvisioned answer])
        (answer.map fun _ => .noAction .nodeAbsent)
  | carriedOut (facts : Facts) (decision : Decision) (name : String)
      (answer : Except Failure Unit)
      (enabled : strategy.evaluationDisabled = false)
      (decided : decideRetention strategy.policy facts = .ok decision)
      (due : decision.kind = .terminate) :
      EvaluationCourse strategy node
        (heard node facts ++ teardownExchanges node decision name answer)
        (answer.map fun _ => decision)

theorem heard_inj {node : NodeId} {facts others : Facts} {later : List Exchange}
    (given : heard node facts <+: replies (heard node others ++ later)) : facts = others := by
  obtain ⟨isOffline, uptime, running, idle⟩ := facts
  simp only [heard, observed, List.cons_append, replies_cons_reply, List.cons_prefix_cons,
    Exchange.reply_inj, Except.ok.injEq] at given
  obtain ⟨-, -, rfl, rfl, rfl, rfl, -⟩ := given
  rfl

theorem abstains_heard {node : NodeId} {order : List NodeCall} {course : List Exchange}
    (facts : Facts) (later : Abstains node order course) :
    Abstains node ([.isProvisioned, .isIdle] ++ factOrder ++ order)
      (heard node facts ++ course) := by
  apply abstains_cons _ (by decide)
  apply abstains_cons _ (by decide)
  apply abstains_cons _ (by decide)
  apply abstains_cons _ (by decide)
  apply abstains_cons _ (by decide)
  exact abstains_cons _ (by decide) later

theorem act_course {strategy : Strategy} {node : NodeId} {facts : Facts}
    {course : List Exchange} {result : Except Failure Decision}
    (enabled : strategy.evaluationDisabled = false)
    (ended : (strategy.act node facts).Ends course result) :
    EvaluationCourse strategy node (heard node facts ++ course) result := by
  rcases act_ends ended with ⟨rfl, rfl, kept⟩ | ⟨decision, decided, due, terminated⟩
  · rw [List.append_nil]
    exact .undue facts kept
  · rcases terminate_ends terminated with ⟨name, answer, rfl, rfl⟩ | ⟨answer, absent, rfl, rfl⟩
    · exact .carriedOut facts decision name answer enabled decided due
    · exact .gone facts decision answer decided due absent

theorem broken_off_while_gathering {strategy : Strategy} {node : NodeId} {course : List Exchange}
    {result : Except Failure Decision} (abstains : Abstains node factOrder course)
    (unheard : ∀ facts, ¬ observed node facts <+: replies course)
    (kept : ∀ decision, result = .ok decision → decision.kind = .noAction) :
    EvaluationCourse strategy node
      (.reply node .isProvisioned (.ok true) :: .reply node .isIdle (.ok true) :: course)
      result := by
  apply EvaluationCourse.brokenOff _ _ _ _ kept
  · exact abstains_cons _ (by decide)
      (abstains_cons _ (by decide) (abstains_extend [.isProvisioned] abstains))
  · intro facts given
    apply unheard facts
    simpa [heard, replies_cons_reply] using given

/-- Before the facts are gathered, fewer answers are heard than there are facts. -/
theorem broken_off_early {strategy : Strategy} {node : NodeId} {course : List Exchange}
    {result : Except Failure Decision} (abstains : Abstains node checkOrder course)
    (short : (replies course).length < 6)
    (kept : ∀ decision, result = .ok decision → decision.kind = .noAction) :
    EvaluationCourse strategy node course result :=
  .brokenOff course result abstains
    (fun _ given => absurd given.length_le (Nat.not_le_of_lt short)) kept

theorem gather_and_act_course {strategy : Strategy} {node : NodeId} {course : List Exchange}
    {result : Except Failure Decision} (enabled : strategy.evaluationDisabled = false)
    (ended : Attempt.Ends (do
      match ← gatherFacts node with
      | none => return .noAction .fetchFailed
      | some facts => strategy.act node facts) course result) :
    EvaluationCourse strategy node
      (.reply node .isProvisioned (.ok true) :: .reply node .isIdle (.ok true) :: course)
      result := by
  rcases (Attempt.ends_bind_iff _ _ _ _).mp ended with
    ⟨failure, failed, rfl⟩ | ⟨gathered, value, later, rfl, reached, continued⟩
  · rcases gather_facts_ends failed with ⟨facts, -, same⟩ | ⟨abstains, unheard, -⟩
    · cases same
    · exact broken_off_while_gathering abstains unheard (by simp)
  cases value with
  | none =>
      obtain ⟨rfl, rfl⟩ := (Attempt.ends_pure_iff _ _ _).mp continued
      rw [List.append_nil]
      rcases gather_facts_ends reached with ⟨facts, -, same⟩ | ⟨abstains, unheard, -⟩
      · cases same
      · apply broken_off_while_gathering abstains unheard
        intro _ same
        cases same
        rfl
  | some facts =>
      rcases gather_facts_ends reached with ⟨others, rfl, same⟩ | ⟨-, -, none⟩
      · cases same
        exact act_course enabled continued
      · exact (none facts rfl).elim

/-- An evaluation takes no other course. -/
theorem evaluate_present_course {strategy : Strategy} {node : NodeId} {course : List Exchange}
    {result : Except Failure Decision}
    (ended : (strategy.evaluatePresent node).Ends course result) :
    EvaluationCourse strategy node course result := by
  rcases (Attempt.ends_call_bind_iff _ _ _ _ _).mp ended with
    ⟨failure, rfl, rfl⟩ | ⟨provisioned, later, rfl, present⟩
  · exact broken_off_early (abstains_cons _ (by decide) (abstains_nil _ _))
      (by simp [replies_cons_reply, replies_nil]) (by simp)
  cases provisioned with
  | false =>
      obtain ⟨rfl, rfl⟩ := (Attempt.ends_pure_iff _ _ _).mp present
      apply broken_off_early (abstains_cons _ (by decide) (abstains_nil _ _))
        (by simp [replies_cons_reply, replies_nil])
      intro _ same
      cases same
      rfl
  | true =>
      rcases (Attempt.ends_call_bind_iff _ _ _ _ _).mp present with
        ⟨failure, rfl, rfl⟩ | ⟨idle, later, rfl, asked⟩
      · exact broken_off_early
          (abstains_cons _ (by decide) (abstains_cons _ (by decide) (abstains_nil _ _)))
          (by simp [replies_cons_reply, replies_nil]) (by simp)
      cases checked : checkPreconditions strategy.policy true idle
          strategy.evaluationDisabled with
      | some reason =>
          simp only [checked] at asked
          obtain ⟨rfl, rfl⟩ := (Attempt.ends_pure_iff _ _ _).mp asked
          apply broken_off_early
            (abstains_cons _ (by decide) (abstains_cons _ (by decide) (abstains_nil _ _)))
            (by simp [replies_cons_reply, replies_nil])
          intro _ same
          cases same
          rfl
      | none =>
          simp only [checked] at asked
          obtain ⟨-, -, rfl, enabled⟩ := (check_preconditions_none_iff _ _ _ _).mp checked
          exact gather_and_act_course enabled asked

/-- No evaluation enters or leaves a guard; only a visit around it does. -/
theorem evaluation_course_spares_guards {strategy : Strategy} {node : NodeId}
    {course : List Exchange} {result : Except Failure Decision}
    (taken : EvaluationCourse strategy node course result) :
    ∀ exchange ∈ course, exchange.guard? = none := by
  cases taken with
  | brokenOff _ _ abstains unheard kept =>
      intro exchange present
      exact (abstains.quiet exchange present).2.2
  | _ => simp [heard, observed, teardownExchanges, Exchange.reply, Exchange.guard?]

/-- A decision for a teardown was made on both conditions, and they selected its trigger. -/
theorem selected_of_decided {policy : Policy} {facts : Facts} {decision : Decision}
    (decided : decideRetention policy facts = .ok decision)
    (due : decision.kind = .terminate) :
    ∃ idleDue cycleDue trigger, idleElapsed policy facts = .ok idleDue ∧
      cycleElapsed policy (billingRemaining facts.uptime) = .ok cycleDue ∧
      selectTrigger policy.idleEnabled idleDue policy.cycleEnabled cycleDue = some trigger := by
  rcases decided_cases decided with
    ⟨reason, rfl⟩ | ⟨idleDue, cycleDue, trigger, idle, cycle, selected, -⟩
  · cases due
  · exact ⟨idleDue, cycleDue, trigger, idle, cycle, selected⟩

theorem never_terminates_of_decided {policy : Policy} {facts : Facts} {decision : Decision}
    (decided : decideRetention policy facts = .ok decision)
    (due : decision.kind = .terminate) : policy.neverTerminates = false := by
  obtain ⟨idleDue, cycleDue, trigger, -, -, selected⟩ := selected_of_decided decided due
  unfold Policy.neverTerminates
  cases idle : policy.idleEnabled <;> cases cycle : policy.cycleEnabled <;>
    simp [idle, cycle, selectTrigger, triggerOf] at selected ⊢

theorem terminate_takes_teardown (node : NodeId) (decision : Decision) (name : String)
    (answer : Except Failure Unit) :
    (terminate node decision).Ends (teardownExchanges node decision name answer)
      (answer.map fun _ => decision) := by
  apply (Attempt.ends_call_bind_iff _ _ _ _ _).mpr
  refine .inr ⟨true, _, rfl, ?_⟩
  apply (Attempt.ends_perform_bind_iff _ _ _ _).mpr
  refine ⟨name, _, rfl, ?_⟩
  apply (Attempt.ends_perform_bind_iff _ _ _ _).mpr
  refine ⟨(), _, rfl, ?_⟩
  apply (Attempt.ends_call_bind_iff _ _ _ _ _).mpr
  cases answer with
  | error failure => exact .inl ⟨failure, rfl, rfl⟩
  | ok done => exact .inr ⟨done, [], rfl, (Attempt.ends_pure_iff _ _ _).mpr ⟨rfl, rfl⟩⟩

theorem gather_facts_takes_observed (node : NodeId) (facts : Facts) :
    (gatherFacts node).Ends (observed node facts) (.ok (some facts)) := by
  apply (Attempt.ends_outcome_bind_iff _ _ _ _).mpr
  refine ⟨[.reply node .uptime (.ok facts.uptime)], .ok facts.uptime, _, rfl, ?_, ?_⟩
  · exact (Attempt.ends_call_iff _ _ _ _).mpr rfl
  · apply (Attempt.ends_call_bind_iff _ _ _ _ _).mpr
    refine .inr ⟨facts.isOffline, _, rfl, ?_⟩
    apply (Attempt.ends_call_bind_iff _ _ _ _ _).mpr
    refine .inr ⟨facts.running, _, rfl, ?_⟩
    apply (Attempt.ends_call_bind_iff _ _ _ _ _).mpr
    refine .inr ⟨facts.idle, _, rfl, ?_⟩
    exact (Attempt.ends_pure_iff _ _ _).mpr ⟨rfl, rfl⟩

/-- Once a node is there and idle, and gives all its facts, the evaluation goes on to act on
them. -/
theorem evaluate_present_takes_act {strategy : Strategy} {facts : Facts} {node : NodeId}
    {course : List Exchange} {result : Except Failure Decision}
    (enabled : strategy.evaluationDisabled = false)
    (active : strategy.policy.neverTerminates = false)
    (ended : (strategy.act node facts).Ends course result) :
    (strategy.evaluatePresent node).Ends (heard node facts ++ course) result := by
  have unhindered : checkPreconditions strategy.policy true true strategy.evaluationDisabled
      = none :=
    (check_preconditions_none_iff _ _ _ _).mpr ⟨rfl, active, rfl, enabled⟩
  apply (Attempt.ends_call_bind_iff _ _ _ _ _).mpr
  refine .inr ⟨true, _, rfl, ?_⟩
  apply (Attempt.ends_call_bind_iff _ _ _ _ _).mpr
  refine .inr ⟨true, _, rfl, ?_⟩
  simp only [unhindered]
  apply (Attempt.ends_bind_iff _ _ _ _).mpr
  exact .inr ⟨_, some facts, _, rfl, gather_facts_takes_observed node facts, ended⟩

/-- A teardown that the facts call for is made, whatever the node is named and answers to it. -/
theorem evaluate_present_takes_teardown {strategy : Strategy} {facts : Facts}
    {decision : Decision} (enabled : strategy.evaluationDisabled = false)
    (decided : decideRetention strategy.policy facts = .ok decision)
    (due : decision.kind = .terminate) (node : NodeId) (name : String)
    (answer : Except Failure Unit) :
    (strategy.evaluatePresent node).Ends
      (heard node facts ++ teardownExchanges node decision name answer)
      (answer.map fun _ => decision) := by
  apply evaluate_present_takes_act enabled (never_terminates_of_decided decided due)
  apply (Attempt.ends_bind_iff _ _ _ _).mpr
  refine .inr ⟨[], decision, _, rfl,
    (Attempt.ends_ofExcept_iff _ _ _).mpr ⟨rfl, decided.symm⟩, ?_⟩
  have acts : decision.shouldTerminate = true := by simp [Decision.shouldTerminate, due]
  rw [if_pos acts]
  exact terminate_takes_teardown node decision name answer

def lateIdleFacts : Facts where
  isOffline := false
  uptime := ⟨116 * Duration.microsPerMinute, by decide⟩
  running := .twoHours
  idle := ⟨20 * Duration.microsPerMinute, by decide⟩

def lateIdleDecision : Decision where
  kind := .terminate
  trigger := some .idleAndCycle
  idleDuration := some ⟨20 * Duration.microsPerMinute, by decide⟩
  cycleRemaining := some ⟨4 * Duration.microsPerMinute, by decide⟩

def cautious : Strategy where
  policy := ⟨15, 5⟩
  evaluationDisabled := false
  guard := 0

theorem cautious_decides :
    decideRetention cautious.policy lateIdleFacts = .ok lateIdleDecision := by
  rfl

theorem cautious_takes_teardown (answer : Except Failure Unit) :
    (cautious.evaluate (some "a")).Ends
      (heard "a" lateIdleFacts ++ teardownExchanges "a" lateIdleDecision "node-1" answer)
      (answer.map fun _ => lateIdleDecision) :=
  evaluate_present_takes_teardown rfl cautious_decides rfl "a" "node-1" answer

end Strategy

end Teardown
