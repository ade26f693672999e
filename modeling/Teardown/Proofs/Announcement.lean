import Teardown.Diagnostic
import Teardown.Proofs.Usability
import Teardown.Proofs.WholeMinutes

/-!
# What a decision reports

A decision to tear a node down carries the durations of the conditions that are on, and no other.
Its announcement has a clause for each of them and its log fields a number, the same as in the
clause. The numbers justify the decision: the idle minutes are no fewer than the policy asks for,
and the minutes left in the billing cycle are no more than the policy's lead.
-/

namespace Teardown

set_option autoImplicit false

variable {policy : Policy} {facts : Facts} {decision : Decision}

/-- A decision to keep the node has a reason and nothing else. One to tear it down has a trigger,
the idle time of the facts if the idle condition is on, and the time left in the billing cycle, at
most an hour and never none, if the billing condition is on. -/
structure Decision.WellFormed (policy : Policy) (facts : Facts) (decision : Decision) : Prop where
  kept : decision.kind = .noAction → decision.trigger = none ∧ decision.idleDuration = none ∧
    decision.cycleRemaining = none ∧ ∃ reason, decision.skipReason = some reason
  fired : decision.kind = .terminate → decision.skipReason = none ∧
    ∃ trigger, decision.trigger = some trigger
  idle : decision.kind = .terminate →
    decision.idleDuration = if 0 < policy.idleMinutes then some facts.idle else none
  cycle : decision.kind = .terminate →
    (0 < policy.cycleMinutes ↔ ∃ remaining, decision.cycleRemaining = some remaining)
  ahead : ∀ remaining, decision.cycleRemaining = some remaining →
    0 < remaining.micros ∧ remaining.micros ≤ 60 * Duration.microsPerMinute

theorem billing_remaining_bounds (uptime : Duration) :
    0 < (billingRemaining uptime).micros ∧
      (billingRemaining uptime).micros ≤ 60 * Duration.microsPerMinute := by
  have bounds := (Duration.fmod_bounds uptime.micros billingCycle.micros).1 (by decide)
  have period : billingCycle.micros = 60 * Duration.microsPerMinute := rfl
  have remaining : (billingRemaining uptime).micros =
      billingCycle.micros - uptime.micros.fmod billingCycle.micros := rfl
  omega

theorem well_formed_of_decided (decided : decideRetention policy facts = .ok decision) :
    decision.WellFormed policy facts := by
  rcases decided_cases decided with ⟨reason, rfl⟩ | ⟨idleDue, cycleDue, trigger, -, -, -, rfl⟩
  · exact {
      kept := fun _ => ⟨rfl, rfl, rfl, reason, rfl⟩
      fired := nofun
      idle := nofun
      cycle := nofun
      ahead := fun _ given => nomatch given }
  · exact {
      kept := nofun
      fired := fun _ => ⟨rfl, trigger, rfl⟩
      idle := fun _ => by simp [Decision.teardown, Policy.idleEnabled]
      cycle := fun _ => by simp [Decision.teardown, Policy.cycleEnabled]
      ahead := by
        intro remaining given
        obtain ⟨-, same⟩ := Option.ite_none_right_eq_some.mp given
        cases same
        exact billing_remaining_bounds facts.uptime }

/-- What an announcement says after the name of the node, and the numbers in it, by the trigger. -/
inductive Trigger.Clauses : Trigger → Option Int → Option Int → String → Prop where
  | idle (minutes : Int) :
      Clauses .idle (some minutes) none (" after " ++ Text.decimal minutes ++ " idle minutes")
  | cycle (minutes : Int) :
      Clauses .cycle none (some minutes)
        (" with " ++ Text.decimal minutes ++ " minutes remaining in the billing cycle")
  | idleAndCycle (idle cycle : Int) :
      Clauses .idleAndCycle (some idle) (some cycle)
        (" after " ++ Text.decimal idle ++ " idle minutes" ++
          (" with " ++ Text.decimal cycle ++ " minutes remaining in the billing cycle"))

namespace Decision

def reportedIdle (decision : Decision) : Option Int :=
  decision.idleDuration.map Duration.wholeMinutes

def reportedCycle (decision : Decision) : Option Int :=
  decision.cycleRemaining.map Duration.wholeMinutes

theorem lookup_idle_minutes (decision : Decision) (nodeName : String) :
    (decision.logFields nodeName).lookup "idle_minutes" = decision.reportedIdle.map .int := by
  obtain ⟨kind, trigger, skipReason, idleDuration, cycleRemaining⟩ := decision
  cases trigger <;> cases skipReason <;> cases idleDuration <;> cases cycleRemaining <;> rfl

theorem lookup_cycle_minutes (decision : Decision) (nodeName : String) :
    (decision.logFields nodeName).lookup "cycle_remaining_minutes" =
      decision.reportedCycle.map .int := by
  obtain ⟨kind, trigger, skipReason, idleDuration, cycleRemaining⟩ := decision
  cases trigger <;> cases skipReason <;> cases idleDuration <;> cases cycleRemaining <;> rfl

end Decision

theorem clauses_of_decided (decided : decideRetention policy facts = .ok decision)
    (due : decision.kind = .terminate) (nodeName : String) :
    ∃ trigger clauses, decision.trigger = some trigger ∧
      trigger.Clauses decision.reportedIdle decision.reportedCycle clauses ∧
      decision.announcement nodeName = "Idle timeout of " ++ nodeName ++ clauses := by
  rcases decided_cases decided with
    ⟨reason, rfl⟩ | ⟨idleDue, cycleDue, trigger, -, -, selected, rfl⟩
  · cases due
  have fired := trigger_of_selected selected
  refine ⟨trigger, _, rfl, ?_, String.append_assoc⟩
  unfold Decision.reportedIdle Decision.reportedCycle Decision.teardown
  cases idle : policy.idleEnabled <;> cases cycle : policy.cycleEnabled <;>
    rw [idle, cycle] at fired <;> cases fired
  · exact String.empty_append.symm ▸ Trigger.Clauses.cycle _
  · exact String.append_empty.symm ▸ Trigger.Clauses.idle _
  · exact Trigger.Clauses.idleAndCycle _ _

/-- For all minutes that a duration can hold there is a decision, and it is well formed. A teardown
is announced with the name of the node and the clauses of its trigger, which are those of the
conditions that are on. The log fields have the numbers of the clauses and no others. -/
theorem decision_reports_agree (policy : Policy) (facts : Facts)
    (idleBounded : policy.idleMinutes ≤ Policy.minuteLimit)
    (cycleBounded : policy.cycleMinutes ≤ Policy.minuteLimit) :
    ∃ decision, decideRetention policy facts = .ok decision ∧
      decision.WellFormed policy facts ∧
      (decision.kind = .terminate → ∀ nodeName, ∃ trigger idle cycle clauses,
        decision.trigger = some trigger ∧
        idle = decision.idleDuration.map Duration.wholeMinutes ∧
        cycle = decision.cycleRemaining.map Duration.wholeMinutes ∧
        trigger.Clauses idle cycle clauses ∧
        decision.announcement nodeName = "Idle timeout of " ++ nodeName ++ clauses ∧
        (decision.logFields nodeName).lookup "idle_minutes" = idle.map Value.int ∧
        (decision.logFields nodeName).lookup "cycle_remaining_minutes" = cycle.map Value.int) := by
  obtain ⟨decision, decided⟩ :=
    (decided_iff policy facts).mpr (.inr ⟨cycleBounded, .inl idleBounded⟩)
  refine ⟨decision, decided, well_formed_of_decided decided, fun due nodeName => ?_⟩
  obtain ⟨trigger, clauses, fired, said, announced⟩ := clauses_of_decided decided due nodeName
  exact ⟨trigger, decision.reportedIdle, decision.reportedCycle, clauses, fired, rfl, rfl, said,
    announced, decision.lookup_idle_minutes nodeName, decision.lookup_cycle_minutes nodeName⟩

def justShortFacts : Facts where
  isOffline := false
  uptime := ⟨115 * Duration.microsPerMinute + 1, by decide⟩
  running := .twoHours
  idle := ⟨17 * Duration.microsPerMinute - 1, by decide⟩

theorem just_short_node_is_announced :
    (15 ≤ Policy.minuteLimit ∧ 5 ≤ Policy.minuteLimit) ∧
      ∃ decision, decideRetention ⟨15, 5⟩ justShortFacts = .ok decision ∧
        decision.announcement "node-a" = "Idle timeout of node-a after 16 idle minutes" ++
          " with 4 minutes remaining in the billing cycle" ∧
        (decision.logFields "node-a").lookup "idle_minutes" = some (.int 16) ∧
        (decision.logFields "node-a").lookup "cycle_remaining_minutes" = some (.int 4) := by
  refine ⟨⟨by decide, by decide⟩, ?_⟩
  obtain ⟨decision, decided, -, reports⟩ :=
    decision_reports_agree ⟨15, 5⟩ justShortFacts (by decide) (by decide)
  have made : decideRetention ⟨15, 5⟩ justShortFacts =
      .ok (.teardown ⟨15, 5⟩ justShortFacts .idleAndCycle) := rfl
  obtain rfl := Except.ok.inj (made.symm.trans decided)
  obtain ⟨trigger, idle, cycle, clauses, -, idleMinutes, cycleMinutes, said, announced, idleField,
    cycleField⟩ := reports rfl "node-a"
  have sixteen : idle = some 16 := idleMinutes.trans (by decide +kernel)
  have four : cycle = some 4 := cycleMinutes.trans (by decide +kernel)
  subst sixteen four
  cases said
  exact ⟨_, decided, announced.trans (by decide +kernel), idleField, cycleField⟩

/-- The reported minutes are whole parts of rounded seconds, yet they never belie the decision: the
idle minutes are no fewer than the policy asks for, and those left in the billing cycle are none or
more, and no more than the policy's lead and an hour. -/
theorem reported_minutes_justify_teardown (policy : Policy) (facts : Facts) (decision : Decision)
    (nodeName : String) (decided : decideRetention policy facts = .ok decision)
    (due : decision.kind = .terminate) :
    (0 < policy.idleMinutes → ∃ (minutes : Int) (seconds : ℚ),
      (decision.logFields nodeName).lookup "idle_minutes" = some (.int minutes) ∧
      Number.IsRounded (facts.idle.micros / 1000000) seconds ∧ minutes = ⌊seconds / 60⌋ ∧
      policy.idleMinutes ≤ minutes) ∧
    (0 < policy.cycleMinutes → ∃ (minutes : Int) (seconds : ℚ),
      (decision.logFields nodeName).lookup "cycle_remaining_minutes" = some (.int minutes) ∧
      Number.IsRounded ((billingRemaining facts.uptime).micros / 1000000) seconds ∧
      minutes = ⌊seconds / 60⌋ ∧
      0 ≤ minutes ∧ minutes ≤ min (policy.cycleMinutes : Int) 60) := by
  have idleBeyond := idle_beyond_of_decided decided due
  have withinLead := within_lead_of_decided decided due
  rw [decision.lookup_idle_minutes, decision.lookup_cycle_minutes]
  rcases decided_cases decided with
    ⟨reason, rfl⟩ | ⟨idleDue, cycleDue, trigger, -, -, -, rfl⟩
  · cases due
  constructor
  · intro enabled
    have longer := (idleBeyond enabled).1
    have on := policy.idle_enabled_iff.mpr enabled
    have positive : 0 < facts.idle.micros := by
      simp only [Duration.microsPerMinute] at longer
      omega
    refine ⟨facts.idle.wholeMinutes, Duration.roundedSeconds facts.idle.micros, ?_,
      Duration.rounded_seconds_is_rounded positive, facts.idle.whole_minutes_eq_floor, ?_⟩
    · simp [Decision.reportedIdle, Decision.teardown, on]
    · exact Duration.le_whole_minutes (by simp only [Duration.exactMinutes]; omega) longer.le
  · intro enabled
    have near := withinLead enabled
    have on := policy.cycle_enabled_iff.mpr enabled
    have bounds := billing_remaining_bounds facts.uptime
    have hour : (billingRemaining facts.uptime).wholeMinutes ≤ 60 :=
      Duration.whole_minutes_le (by decide) bounds.2
    refine ⟨(billingRemaining facts.uptime).wholeMinutes,
      Duration.roundedSeconds (billingRemaining facts.uptime).micros, ?_,
      Duration.rounded_seconds_is_rounded bounds.1,
      (billingRemaining facts.uptime).whole_minutes_eq_floor, ?_, le_min ?_ hour⟩
    · simp [Decision.reportedCycle, Decision.teardown, on]
    · exact Duration.le_whole_minutes (by decide) (by simp only [Int.zero_mul]; omega)
    -- A lead of more than an hour is never reached: the boundary is at most an hour away.
    · rcases le_total (policy.cycleMinutes : Int) 60 with short | long
      · exact Duration.whole_minutes_le (short.trans (by decide)) near
      · exact hour.trans long

def longIdleFacts : Facts where
  isOffline := false
  uptime := ⟨115 * Duration.microsPerMinute + 1, by decide⟩
  running := ⟨Policy.minuteLimit * Duration.microsPerMinute, by decide⟩
  idle := ⟨Policy.minuteLimit * Duration.microsPerMinute - 1, by decide⟩

/-- So long an idle time is rounded up to the next minute. That is more than the policy asks for,
but not less. -/
theorem long_idle_minutes_justify_teardown :
    ∃ decision, decideRetention ⟨1439999999998, 5⟩ longIdleFacts = .ok decision ∧
      decision.kind = .terminate ∧
      (∃ minutes : Int, (decision.logFields "node-a").lookup "idle_minutes" = some (.int minutes) ∧
        1439999999998 ≤ minutes ∧ minutes = 1439999999999) ∧
      ∃ minutes : Int,
        (decision.logFields "node-a").lookup "cycle_remaining_minutes" = some (.int minutes) ∧
          0 ≤ minutes ∧ minutes ≤ min 5 60 := by
  have decided : decideRetention ⟨1439999999998, 5⟩ longIdleFacts =
      .ok (.teardown ⟨1439999999998, 5⟩ longIdleFacts .idleAndCycle) := rfl
  obtain ⟨idle, cycle⟩ := reported_minutes_justify_teardown ⟨1439999999998, 5⟩ longIdleFacts _
    "node-a" decided rfl
  obtain ⟨idleMinutes, -, idleField, -, -, enough⟩ := idle (by decide)
  obtain ⟨cycleMinutes, -, cycleField, -, -, near⟩ := cycle (by decide)
  have counted : (Decision.teardown ⟨1439999999998, 5⟩ longIdleFacts .idleAndCycle).reportedIdle =
      some 1439999999999 := by decide +kernel
  have reported := Decision.lookup_idle_minutes
    (.teardown ⟨1439999999998, 5⟩ longIdleFacts .idleAndCycle) "node-a"
  rw [idleField, counted] at reported
  cases reported
  exact ⟨_, decided, rfl, ⟨_, idleField, enough, rfl⟩, cycleMinutes, cycleField, near⟩

end Teardown
