import Teardown.Proofs.Evaluation

/-!
# Teardowns and what is said about them

An evaluation tears a node down at most once, as the last thing that it asks of it, and exactly when
every answer calls for it. It announces the teardown right before it, and its result says whether
the teardown went through.
-/

namespace Teardown

set_option autoImplicit false

/-- The methods that were called on nodes in a course, one that is still waited for included. -/
def calledMethods {Result : Type} (course : List Exchange) (rest : Program Result) :
    List NodeCall :=
  (answeredCalls course ++ rest.awaited).map Prod.snd

theorem split_at_last {Item : Type} {item last : Item} {before after known : List Item}
    (split : before ++ item :: after = known ++ [last]) (absent : item ∉ known) :
    before = known ∧ item = last ∧ after = [] := by
  rcases List.eq_nil_or_concat after with rfl | ⟨later, final, rfl⟩
  · obtain ⟨same, sameLast⟩ := List.append_inj' split rfl
    exact ⟨same, List.singleton_inj.mp sameLast, rfl⟩
  · have shifted : (before ++ item :: later) ++ [final] = known ++ [last] := by
      simpa using split
    obtain ⟨rfl, -⟩ := List.append_inj' shifted rfl
    exact (absent (by simp)).elim

namespace Strategy

theorem evaluate_none_ends {strategy : Strategy} {course : List Exchange}
    {result : Except Failure Decision} (ended : (strategy.evaluate none).Ends course result) :
    course = [] ∧ result = .ok (.noAction .nodeAbsent) :=
  (Attempt.ends_pure_iff _ _ _).mp ended

theorem evaluation_course_calls {strategy : Strategy} {node : NodeId} {course : List Exchange}
    {result : Except Failure Decision} (taken : EvaluationCourse strategy node course result) :
    answeredCalls course <+: visitOrder.map (node, ·) := by
  cases taken with
  | brokenOff _ _ abstains unheard kept =>
      exact (abstains_extend [.teardown] abstains).ordered
  | undue facts kept =>
      exact List.prefix_append (answeredCalls (heard node facts)) _
  | gone facts decision answer decided due absent =>
      exact List.prefix_append (checkOrder.map (node, ·)) _
  | carriedOut facts decision name answer enabled decided due => exact List.prefix_rfl

theorem evaluate_calls_prefix {strategy : Strategy} {node : Option NodeId}
    {course : List Exchange} {rest : Program (Except Failure Decision)}
    (followed : (strategy.evaluate node).run.Follows course rest) :
    (∀ call ∈ answeredCalls course ++ rest.awaited, node = some call.1) ∧
      calledMethods course rest <+: visitOrder := by
  obtain ⟨later, result, ended, awaited⟩ := rest.exists_continuation
  have whole : (strategy.evaluate node).Ends (course ++ later) result :=
    Program.follows_append followed ended
  have reaching : answeredCalls course ++ rest.awaited <+: answeredCalls (course ++ later) := by
    rw [answered_calls_append]
    exact (List.prefix_append_right_inj _).mpr awaited
  cases node with
  | none =>
      obtain ⟨nothing, -⟩ := evaluate_none_ends whole
      rw [nothing] at reaching
      have empty := List.prefix_nil.mp reaching
      rw [calledMethods, empty]
      exact ⟨by simp, List.nil_prefix⟩
  | some present =>
      have ordered := reaching.trans (evaluation_course_calls (evaluate_present_course whole))
      constructor
      · intro call made
        obtain ⟨method, -, rfl⟩ := List.mem_map.mp (ordered.subset made)
        rfl
      · have methods := ordered.map Prod.snd
        simpa [calledMethods, Function.comp_def] using methods

/-- A teardown among calls that keep to the order is the last of them. -/
theorem teardown_last_of_prefix {methods before after : List NodeCall}
    (ordered : methods <+: visitOrder) (split : methods = before ++ .teardown :: after) :
    before = checkOrder ∧ after = [] := by
  obtain ⟨later, whole⟩ := ordered
  have shape : before ++ .teardown :: (after ++ later) = checkOrder ++ [.teardown] := by
    rw [← List.cons_append, ← List.append_assoc, ← split]
    exact whole
  obtain ⟨same, -, nothing⟩ := split_at_last shape (by decide)
  exact ⟨same, (List.append_eq_nil_iff.mp nothing).1⟩

theorem no_teardown_of_ordered {node : NodeId} {course : List Exchange}
    (ordered : answeredCalls course <+: checkOrder.map (node, ·)) :
    .teardown ∉ (answeredCalls course).map Prod.snd := by
  intro made
  obtain ⟨call, called, same⟩ := List.mem_map.mp made
  obtain ⟨method, known, rfl⟩ := List.mem_map.mp (ordered.subset called)
  cases same
  exact absurd known (by decide)

theorem evaluation_course_teardown_iff {strategy : Strategy} {node : NodeId}
    {course : List Exchange} {result : Except Failure Decision}
    (taken : EvaluationCourse strategy node course result) :
    .teardown ∈ (answeredCalls course).map Prod.snd ↔
      strategy.evaluationDisabled = false ∧ ∃ facts decision,
        heard node facts <+: replies course ∧
        decideRetention strategy.policy facts = .ok decision ∧ decision.kind = .terminate ∧
        ∀ answer, .reply node .isProvisioned answer ∈ course → answer = .ok true := by
  cases taken with
  | brokenOff _ _ abstains unheard kept =>
      refine iff_of_false (no_teardown_of_ordered abstains.ordered) ?_
      intro given
      obtain ⟨-, facts, decision, given, -⟩ := given
      exact unheard facts given
  | undue facts kept =>
      refine iff_of_false (no_teardown_of_ordered (List.prefix_append _ _)) ?_
      intro given
      obtain ⟨-, others, decision, given, decided, due, -⟩ := given
      -- What was heard determines the facts.
      rw [← List.append_nil (heard node facts)] at given
      obtain rfl := heard_inj given
      rw [kept decision decided] at due
      cases due
  | gone facts decision answer decided due absent =>
      refine iff_of_false (no_teardown_of_ordered List.prefix_rfl) ?_
      intro given
      obtain ⟨-, -, -, -, -, -, provisioned⟩ := given
      exact absent (provisioned answer (by simp))
  | carriedOut facts decision name answer enabled decided due =>
      refine iff_of_true (by simp [answeredCalls, heard, teardownExchanges, observed,
        Exchange.call?, Exchange.reply]) ⟨enabled, facts, decision, ?_, decided, due, ?_⟩
      · exact List.prefix_append _ _
      · intro other present
        simp [heard, teardownExchanges, observed, Exchange.reply] at present
        exact present

/-- Every evaluation keeps to one order of calls, in which the teardown stands last, whatever the
node answers, raises or changes; and a finished one has called it just when both times the node was
there, it was idle, evaluation is enabled, all facts were given, and they call for a teardown. -/
theorem evaluate_calls_teardown_iff (strategy : Strategy) (node : Option NodeId)
    (course : List Exchange) (rest : Program (Except Failure Decision))
    (followed : (strategy.evaluate node).run.Follows course rest) :
    ((∀ call ∈ answeredCalls course ++ rest.awaited, node = some call.1) ∧
        calledMethods course rest <+: visitOrder) ∧
      (∀ before after, calledMethods course rest = before ++ .teardown :: after →
        .teardown ∉ before ∧ after = []) ∧
      ∀ result, rest = .done result →
        (.teardown ∈ calledMethods course rest ↔
          strategy.evaluationDisabled = false ∧ ∃ present facts decision,
            node = some present ∧ heard present facts <+: replies course ∧
            decideRetention strategy.policy facts = .ok decision ∧
            decision.kind = .terminate ∧
            ∀ answer, .reply present .isProvisioned answer ∈ course → answer = .ok true) := by
  have ordered := evaluate_calls_prefix followed
  refine ⟨ordered, ?_, ?_⟩
  · intro before after split
    obtain ⟨rfl, nothing⟩ := teardown_last_of_prefix ordered.2 split
    exact ⟨by decide, nothing⟩
  · intro result same
    subst same
    have nothing : (Program.done result).awaited = [] := rfl
    rw [calledMethods, nothing, List.append_nil]
    cases node with
    | none =>
        obtain ⟨rfl, -⟩ := evaluate_none_ends followed
        simp [answeredCalls]
    | some present =>
        rw [evaluation_course_teardown_iff (evaluate_present_course followed)]
        simp

theorem evaluate_calls_teardown_of_late_idle_node :
    (cautious.evaluate (some "a")).run.Follows
        (heard "a" lateIdleFacts ++ teardownExchanges "a" lateIdleDecision "node-1" (.ok ()))
        (.done (.ok lateIdleDecision)) ∧
      .teardown ∈ calledMethods
        (heard "a" lateIdleFacts ++ teardownExchanges "a" lateIdleDecision "node-1" (.ok ()))
        (.done (Except.ok lateIdleDecision : Except Failure Decision)) := by
  have taken := cautious_takes_teardown (.ok ())
  refine ⟨taken, ?_⟩
  apply ((evaluate_calls_teardown_iff cautious (some "a") _ _ taken).2.2 _ rfl).mpr
  refine ⟨rfl, "a", lateIdleFacts, lateIdleDecision, rfl, List.prefix_append _ _,
    cautious_decides, rfl, ?_⟩
  intro answer present
  simp [heard, teardownExchanges, observed, Exchange.reply] at present
  exact present

theorem quiet_heard (node : NodeId) (facts : Facts) {course : List Exchange}
    (quiet : ∀ exchange ∈ course, exchange.Quiet) :
    ∀ exchange ∈ heard node facts ++ course, exchange.Quiet := by
  intro exchange present
  rcases List.mem_append.mp present with early | late
  · have known := abstains_heard facts (abstains_nil node [])
    exact known.quiet exchange (by simpa using early)
  · exact quiet exchange late

/-- An evaluation either says and does nothing of a teardown, and does not report one, or takes the
whole course of a teardown. -/
theorem evaluation_course_quiet_or_carried_out {strategy : Strategy} {node : NodeId}
    {course : List Exchange} {result : Except Failure Decision}
    (taken : EvaluationCourse strategy node course result) :
    ((∀ exchange ∈ course, exchange.Quiet) ∧
        ∀ decision, result = .ok decision → decision.kind = .noAction) ∨
      ∃ facts decision name answer, decideRetention strategy.policy facts = .ok decision ∧
        decision.kind = .terminate ∧
        course = heard node facts ++ teardownExchanges node decision name answer ∧
        result = answer.map fun _ => decision := by
  cases taken with
  | brokenOff _ _ abstains unheard kept => exact .inl ⟨abstains.quiet, kept⟩
  | undue facts kept =>
      refine .inl ⟨?_, kept⟩
      rw [← List.append_nil (heard node facts)]
      exact quiet_heard node facts (by simp)
  | gone facts decision answer decided due absent =>
      refine .inl ⟨quiet_heard node facts ?_, ?_⟩
      · intro exchange present
        obtain rfl := List.mem_singleton.mp present
        exact Exchange.quiet_reply (by decide)
      · intro _ same
        cases answer with
        | error failure => cases same
        | ok provisioned =>
            cases same
            rfl
  | carriedOut facts decision name answer enabled decided due =>
      exact .inr ⟨facts, decision, name, answer, decided, due, rfl, rfl⟩

theorem filter_teardown_of_quiet {course : List Exchange}
    (quiet : ∀ exchange ∈ course, exchange.Quiet) : course.filter Exchange.isTeardown = [] := by
  apply List.filter_eq_nil_iff.mpr
  intro exchange present
  simp [(quiet exchange present).1]

def beforeTeardown (node : NodeId) (facts : Facts) (decision : Decision) (name : String) :
    List Exchange :=
  (heard node facts ++ [.reply node .isProvisioned (.ok true), ⟨.nodeName node, name⟩]) ++
    [⟨.log (announcementRecord name decision), ()⟩]

theorem course_split_at_teardown {node torn : NodeId} {facts : Facts} {decision : Decision}
    {name : String} {answer given : Except Failure Unit} {before after : List Exchange}
    (split : before ++ .reply torn .teardown given :: after =
      heard node facts ++ teardownExchanges node decision name answer) :
    torn = node ∧ given = answer ∧ before = beforeTeardown node facts decision name ∧
      after = [] := by
  have shape : before ++ .reply torn .teardown given :: after =
      beforeTeardown node facts decision name ++ [.reply node .teardown answer] := split
  obtain ⟨same, sameReply, nothing⟩ := split_at_last shape
    (by simp [beforeTeardown, heard, observed, Exchange.reply])
  cases sameReply
  exact ⟨rfl, rfl, same, nothing⟩

theorem filter_teardown_of_carried_out (node : NodeId) (facts : Facts) (decision : Decision)
    (name : String) (answer : Except Failure Unit) :
    (heard node facts ++ teardownExchanges node decision name answer).filter
      Exchange.isTeardown = [.reply node .teardown answer] := by
  rfl

theorem evaluation_course_reports_iff {strategy : Strategy} {node : NodeId}
    {course : List Exchange} {result : Except Failure Decision}
    (taken : EvaluationCourse strategy node course result) :
    (∃ decision, result = .ok decision ∧ decision.kind = .terminate) ↔
      course.filter Exchange.isTeardown = [.reply node .teardown (.ok ())] := by
  rcases evaluation_course_quiet_or_carried_out taken with
    ⟨quiet, kept⟩ | ⟨facts, decision, name, answer, decided, due, rfl, rfl⟩
  · rw [filter_teardown_of_quiet quiet]
    refine iff_of_false ?_ (by simp)
    intro reported
    obtain ⟨decision, same, due⟩ := reported
    rw [kept decision same] at due
    cases due
  · rw [filter_teardown_of_carried_out]
    cases answer with
    | error failure =>
        refine iff_of_false (by simp [Except.map]) ?_
        intro same
        cases Exchange.reply_inj.mp (List.singleton_inj.mp same)
    | ok done => exact iff_of_true ⟨decision, rfl, due⟩ rfl

/-- Right before a teardown stands the only announcement, of the decision that the facts led to. -/
theorem evaluation_course_announces {strategy : Strategy} {node torn : NodeId}
    {before after : List Exchange} {answer : Except Failure Unit}
    {result : Except Failure Decision}
    (taken : EvaluationCourse strategy node (before ++ .reply torn .teardown answer :: after)
      result) :
    torn = node ∧ ∃ facts decision name earlier,
      heard torn facts <+: earlier ∧ decideRetention strategy.policy facts = .ok decision ∧
      before = earlier ++
        [⟨.nodeName torn, name⟩, ⟨.log (announcementRecord name decision), ()⟩] ∧
      (∀ exchange ∈ earlier ++ after, exchange.Quiet) ∧
      result = answer.map fun _ => decision := by
  rcases evaluation_course_quiet_or_carried_out taken with
    ⟨quiet, -⟩ | ⟨facts, decision, name, given, decided, due, same, rfl⟩
  · have spared := (quiet (.reply torn .teardown answer) (by simp)).1
    cases spared
  · obtain ⟨rfl, rfl, rfl, rfl⟩ := course_split_at_teardown same
    refine ⟨rfl, facts, decision, name,
      heard torn facts ++ [.reply torn .isProvisioned (.ok true)], List.prefix_append _ _,
      decided, by simp [beforeTeardown], ?_, rfl⟩
    rw [List.append_nil]
    apply quiet_heard torn facts
    intro exchange last
    obtain rfl := List.mem_singleton.mp last
    exact Exchange.quiet_reply (by decide)

theorem evaluation_course_quiet {strategy : Strategy} {node : NodeId} {course : List Exchange}
    {result : Except Failure Decision} (taken : EvaluationCourse strategy node course result)
    (spared : (∃ decision, result = .ok decision ∧ decision.kind = .noAction) ∨
      ∃ failure, result = .error failure ∧
        ∀ present, .reply present .teardown (.error failure) ∉ course) :
    ∀ exchange ∈ course, exchange.Quiet := by
  rcases evaluation_course_quiet_or_carried_out taken with
    ⟨quiet, -⟩ | ⟨facts, decision, name, answer, decided, due, rfl, rfl⟩
  · exact quiet
  · rcases spared with ⟨other, same, idle⟩ | ⟨failure, same, unharmed⟩
    · cases answer with
      | error failure => cases same
      | ok done =>
          cases same
          rw [due] at idle
          cases idle
    · cases answer with
      | error raised =>
          cases same
          exact (unharmed node (by simp [teardownExchanges])).elim
      | ok done => cases same

theorem evaluation_course_of_gone {strategy : Strategy} {node : NodeId} {facts : Facts}
    {later : List Exchange} {result : Except Failure Decision}
    (taken : EvaluationCourse strategy node
      (heard node facts ++ .reply node .isProvisioned (.ok false) :: later) result) :
    result = .ok (.noAction .nodeAbsent) ∧ later = [] := by
  generalize whole : heard node facts ++ .reply node .isProvisioned (.ok false) :: later =
    course at taken
  cases taken with
  | brokenOff _ _ abstains unheard kept =>
      exact (unheard facts (by rw [← whole]; exact List.prefix_append _ _)).elim
  | undue others kept =>
      have lengths := congrArg List.length whole
      simp [heard, observed] at lengths
  | gone others decision answer decided due absent =>
      obtain ⟨-, sameLast⟩ := List.append_inj whole rfl
      obtain ⟨sameReply, rfl⟩ := List.cons.inj sameLast
      obtain rfl := Exchange.reply_inj.mp sameReply
      exact ⟨rfl, rfl⟩
  | carriedOut others decision name answer enabled decided due =>
      obtain ⟨-, sameLast⟩ := List.append_inj whole rfl
      have replied := Exchange.reply_inj.mp (List.cons.inj sameLast).1
      cases replied

/-- The result of an evaluation, its announcements and its teardown agree: it reports a teardown
just when it made one that went through; a teardown comes right after the one announcement, which
tells of the decision from the facts gathered; and whenever it reports none, or fails by anything
but the teardown itself, it has neither announced nor made one. -/
theorem evaluate_reports_what_it_did (strategy : Strategy) (node : Option NodeId)
    (course : List Exchange) (result : Except Failure Decision)
    (ended : (strategy.evaluate node).Ends course result) :
    ((∃ decision, result = .ok decision ∧ decision.kind = .terminate) ↔
        ∃ present, node = some present ∧
          course.filter Exchange.isTeardown = [.reply present .teardown (.ok ())]) ∧
      (∀ torn answer before after,
        course = before ++ .reply torn .teardown answer :: after →
          node = some torn ∧ ∃ facts decision name earlier record,
            heard torn facts <+: earlier ∧
            decideRetention strategy.policy facts = .ok decision ∧
            before = earlier ++ [⟨.nodeName torn, name⟩, ⟨.log record, ()⟩] ∧
            record.level = Log.infoLevel ∧ record.template = decision.announcement name ∧
            record.arguments = [] ∧ record.fields = decision.logFields name ∧
            (∀ exchange ∈ earlier ++ after, exchange.isAnnouncement = false) ∧
            result = answer.map fun _ => decision) ∧
      (((∃ decision, result = .ok decision ∧ decision.kind = .noAction) ∨
          ∃ failure, result = .error failure ∧
            ∀ present, .reply present .teardown (.error failure) ∉ course) →
        ∀ exchange ∈ course, exchange.isTeardown = false ∧ exchange.isAnnouncement = false) ∧
      (∀ present facts later, node = some present →
        course = heard present facts ++ .reply present .isProvisioned (.ok false) :: later →
          result = .ok (.noAction .nodeAbsent) ∧ later = []) := by
  cases node with
  | none =>
      obtain ⟨rfl, rfl⟩ := evaluate_none_ends ended
      simp [Decision.noAction]
  | some present =>
      have taken := evaluate_present_course ended
      refine ⟨?_, ?_, ?_, ?_⟩
      · rw [evaluation_course_reports_iff taken]
        simp
      · intro torn answer before after same
        subst same
        obtain ⟨rfl, facts, decision, name, earlier, early, decided, rfl, quiet, rfl⟩ :=
          evaluation_course_announces taken
        refine ⟨rfl, facts, decision, name, earlier, announcementRecord name decision, early,
          decided, rfl, rfl, rfl, rfl, rfl, ?_, rfl⟩
        intro exchange other
        exact (quiet exchange other).2.1
      · intro spared exchange made
        have quiet := evaluation_course_quiet taken spared exchange made
        exact ⟨quiet.1, quiet.2.1⟩
      · intro _ facts later same equal
        cases same
        subst equal
        exact evaluation_course_of_gone taken

theorem evaluate_reports_teardown_of_late_idle_node :
    (cautious.evaluate (some "a")).Ends
        (heard "a" lateIdleFacts ++ teardownExchanges "a" lateIdleDecision "node-1" (.ok ()))
        (.ok lateIdleDecision) ∧
      ∃ present, some "a" = some present ∧
        (heard "a" lateIdleFacts ++ teardownExchanges "a" lateIdleDecision "node-1"
          (.ok ())).filter Exchange.isTeardown = [.reply present .teardown (.ok ())] := by
  have taken := cautious_takes_teardown (.ok ())
  exact ⟨taken, (evaluate_reports_what_it_did cautious (some "a") _ _ taken).1.mp
    ⟨lateIdleDecision, rfl, rfl⟩⟩

end Strategy

end Teardown
