import Teardown.Decision

/-!
# Decisions and billing boundaries

A node is due when it is not booting and every enabled condition holds. The idle condition compares
durations. The billing condition asks for a billing boundary, a whole number of hours of uptime,
that lies ahead of the node and no further than the policy's lead. For all minutes that a duration
can hold, a decision is made, and it is a teardown exactly of the nodes that are due.
-/

namespace Teardown

set_option autoImplicit false

/-- The time left to the next multiple is within the lead just when some multiple is: the next one
is the nearest of those that lie ahead. -/
theorem remaining_le_iff_multiple_ahead {period : Int} (positive : 0 < period)
    (elapsed lead : Int) :
    period - elapsed.fmod period ≤ lead ↔
      ∃ count : Int, elapsed < count * period ∧ count * period ≤ elapsed + lead := by
  have rest := Int.fmod_nonneg_of_pos elapsed positive
  have short := Int.fmod_lt_of_pos elapsed positive
  have split : elapsed.fmod period + period * elapsed.fdiv period = elapsed :=
    Int.fmod_add_mul_fdiv elapsed period
  have next : (elapsed.fdiv period + 1) * period = period * elapsed.fdiv period + period := by
    rw [Int.add_mul, Int.one_mul, Int.mul_comm]
  constructor
  · intro near
    exact ⟨elapsed.fdiv period + 1, by omega, by omega⟩
  · intro given
    obtain ⟨count, ahead, near⟩ := given
    -- A multiple that lies ahead is not among those already passed.
    have passed : period * elapsed.fdiv period < count * period := by omega
    rw [Int.mul_comm] at passed
    have later : elapsed.fdiv period + 1 ≤ count :=
      Int.lt_of_mul_lt_mul_right passed (Int.le_of_lt positive)
    have further := Int.mul_le_mul_of_nonneg_right later (Int.le_of_lt positive)
    omega

def Facts.Booting (facts : Facts) : Prop :=
  facts.isOffline = true ∧ facts.uptime.micros < 30 * Duration.microsPerMinute

/-- The node has been idle for longer than the minutes, and has been running all that time. -/
def Facts.IdleBeyond (facts : Facts) (minutes : Nat) : Prop :=
  minutes * Duration.microsPerMinute < facts.idle.micros ∧
    facts.idle.micros ≤ facts.running.micros

/-- Some whole number of hours of uptime lies ahead, by no more than the minutes. -/
def Facts.NearsBoundary (facts : Facts) (minutes : Nat) : Prop :=
  ∃ hours : Int, facts.uptime.micros < hours * (60 * Duration.microsPerMinute) ∧
    hours * (60 * Duration.microsPerMinute) ≤
      facts.uptime.micros + minutes * Duration.microsPerMinute

namespace Policy

def minuteLimit : Nat := 1439999999999

/-- Zero minutes turn a condition off; one condition at least has to be on. -/
structure Due (policy : Policy) (facts : Facts) : Prop where
  started : ¬ facts.Booting
  enabled : 0 < policy.idleMinutes ∨ 0 < policy.cycleMinutes
  idle : 0 < policy.idleMinutes → facts.IdleBeyond policy.idleMinutes
  cycle : 0 < policy.cycleMinutes → facts.NearsBoundary policy.cycleMinutes

theorem idle_enabled_iff (policy : Policy) :
    policy.idleEnabled = true ↔ 0 < policy.idleMinutes := by
  simp [idleEnabled]

theorem cycle_enabled_iff (policy : Policy) :
    policy.cycleEnabled = true ↔ 0 < policy.cycleMinutes := by
  simp [cycleEnabled]

end Policy

theorem minutes_in_range_iff (minutes : Nat) :
    (Duration.least ≤ (minutes : Int) * Duration.microsPerMinute ∧
        (minutes : Int) * Duration.microsPerMinute ≤ Duration.greatest) ↔
      minutes ≤ Policy.minuteLimit := by
  simp only [Policy.minuteLimit, Duration.least, Duration.greatest, Duration.dayLimit,
    Duration.microsPerDay, Duration.microsPerMinute]
  omega

theorem exists_duration_of_minutes {minutes : Nat} (bounded : minutes ≤ Policy.minuteLimit) :
    ∃ duration, Duration.ofMinutes minutes = .ok duration ∧
      duration.micros = minutes * Duration.microsPerMinute := by
  have inRange := (minutes_in_range_iff minutes).mpr bounded
  refine ⟨⟨_, inRange⟩, ?_, rfl⟩
  simp only [Duration.ofMinutes, Duration.ofMicros, dif_pos inRange]

theorem startup_grace_iff (facts : Facts) :
    checkStartupGrace facts = some .startupGrace ↔ facts.Booting := by
  unfold checkStartupGrace
  split
  · next booting => exact iff_of_true rfl booting
  · next started => exact iff_of_false (by simp) started

theorem startup_grace_none_iff (facts : Facts) :
    checkStartupGrace facts = none ↔ ¬ facts.Booting := by
  rw [← startup_grace_iff]
  unfold checkStartupGrace
  split <;> simp

theorem idle_elapsed_iff {policy : Policy} (facts : Facts)
    (bounded : policy.idleMinutes ≤ Policy.minuteLimit) :
    ∃ elapsed, idleElapsed policy facts = .ok elapsed ∧
      (elapsed = true ↔ policy.idleEnabled = true ∧ facts.IdleBeyond policy.idleMinutes) := by
  obtain ⟨timeout, held, minutes⟩ := exists_duration_of_minutes bounded
  have timeoutHeld : policy.idleTimeout = .ok timeout := by
    rw [Policy.idleTimeout, held]
    rfl
  unfold idleElapsed Facts.IdleBeyond
  cases enabled : policy.idleEnabled with
  | false => exact ⟨false, by simp [pure, Except.pure], by simp⟩
  | true =>
      by_cases untrusted : facts.running < facts.idle
      · refine ⟨false, by simp [untrusted, pure, Except.pure], ?_⟩
        rw [Duration.lt_def] at untrusted
        simp only [Bool.false_eq_true, true_and, false_iff]
        omega
      · refine ⟨decide (timeout < facts.idle), ?_, ?_⟩
        · rw [timeoutHeld, if_neg (by decide), if_neg untrusted]
          rfl
        · rw [Duration.lt_def] at untrusted
          rw [decide_eq_true_iff, Duration.lt_def, minutes]
          simp only [true_and]
          omega

theorem cycle_elapsed_iff {policy : Policy} (facts : Facts)
    (bounded : policy.cycleMinutes ≤ Policy.minuteLimit) :
    ∃ elapsed, cycleElapsed policy (billingRemaining facts.uptime) = .ok elapsed ∧
      (elapsed = true ↔
        policy.cycleEnabled = true ∧ facts.NearsBoundary policy.cycleMinutes) := by
  obtain ⟨lead, held, minutes⟩ := exists_duration_of_minutes bounded
  have leadHeld : policy.cycleLead = .ok lead := by
    rw [Policy.cycleLead, held]
    rfl
  have positive : 0 < 60 * Duration.microsPerMinute := by decide
  have near := remaining_le_iff_multiple_ahead positive facts.uptime.micros lead.micros
  unfold cycleElapsed
  cases enabled : policy.cycleEnabled with
  | false => exact ⟨false, by simp [pure, Except.pure], by simp⟩
  | true =>
      refine ⟨decide (billingRemaining facts.uptime ≤ lead), ?_, ?_⟩
      · rw [leadHeld, if_neg (by decide)]
        rfl
      · rw [decide_eq_true_iff, Duration.le_def, Facts.NearsBoundary, ← minutes]
        simp only [true_and]
        exact near

theorem trigger_selected_iff (idleEnabled idleElapsed cycleEnabled cycleElapsed : Bool) :
    selectTrigger idleEnabled idleElapsed cycleEnabled cycleElapsed ≠ none ↔
      (idleEnabled = true ∨ cycleEnabled = true) ∧ (idleEnabled = true → idleElapsed = true) ∧
        (cycleEnabled = true → cycleElapsed = true) := by
  cases idleEnabled <;> cases idleElapsed <;> cases cycleEnabled <;> cases cycleElapsed <;>
    simp [selectTrigger, triggerOf]

theorem trigger_of_selected {idleEnabled idleElapsed cycleEnabled cycleElapsed : Bool}
    {trigger : Trigger}
    (selected : selectTrigger idleEnabled idleElapsed cycleEnabled cycleElapsed = some trigger) :
    triggerOf idleEnabled cycleEnabled = some trigger := by
  unfold selectTrigger at selected
  split at selected
  · cases selected
  · exact selected

theorem trigger_of_policy {policy : Policy} {trigger : Trigger}
    (fired : triggerOf policy.idleEnabled policy.cycleEnabled = some trigger) :
    (trigger = .idleAndCycle ↔ 0 < policy.idleMinutes ∧ 0 < policy.cycleMinutes) ∧
      (trigger = .idle ↔ 0 < policy.idleMinutes ∧ policy.cycleMinutes = 0) ∧
      (trigger = .cycle ↔ policy.idleMinutes = 0 ∧ 0 < policy.cycleMinutes) := by
  have idle := policy.idle_enabled_iff
  have cycle := policy.cycle_enabled_iff
  cases idleOn : policy.idleEnabled <;> cases cycleOn : policy.cycleEnabled <;>
    simp only [idleOn, cycleOn, triggerOf, Option.some.injEq, reduceCtorEq] at fired idle cycle <;>
    subst fired <;> simp only [reduceCtorEq, true_iff, false_iff] at idle cycle ⊢ <;> omega

def Decision.teardown (policy : Policy) (facts : Facts) (trigger : Trigger) : Decision where
  kind := .terminate
  trigger := some trigger
  idleDuration := if policy.idleEnabled then some facts.idle else none
  cycleRemaining := if policy.cycleEnabled then some (billingRemaining facts.uptime) else none

theorem decided_cases {policy : Policy} {facts : Facts} {decision : Decision}
    (decided : decideRetention policy facts = .ok decision) :
    (∃ reason, decision = .noAction reason) ∨
      ∃ idleDue cycleDue trigger, idleElapsed policy facts = .ok idleDue ∧
        cycleElapsed policy (billingRemaining facts.uptime) = .ok cycleDue ∧
        selectTrigger policy.idleEnabled idleDue policy.cycleEnabled cycleDue = some trigger ∧
        decision = .teardown policy facts trigger := by
  unfold decideRetention at decided
  cases grace : checkStartupGrace facts with
  | some reason =>
      simp only [grace] at decided
      cases decided
      exact .inl ⟨reason, rfl⟩
  | none =>
      simp only [grace] at decided
      cases idle : idleElapsed policy facts with
      | error failure => simp [idle, bind, Except.bind] at decided
      | ok idleDue =>
          cases cycle : cycleElapsed policy (billingRemaining facts.uptime) with
          | error failure => simp [idle, cycle, bind, Except.bind] at decided
          | ok cycleDue =>
              simp only [idle, cycle, bind, Except.bind] at decided
              cases selected :
                  selectTrigger policy.idleEnabled idleDue policy.cycleEnabled cycleDue with
              | none =>
                  simp only [selected] at decided
                  cases decided
                  exact .inl ⟨_, rfl⟩
              | some trigger =>
                  simp only [selected] at decided
                  cases decided
                  exact .inr ⟨idleDue, cycleDue, trigger, rfl, rfl, selected, rfl⟩

theorem micros_of_minutes {minutes : Int} {duration : Duration}
    (held : (Duration.ofMinutes minutes).mapError Failure.daysOutOfRange = .ok duration) :
    duration.micros = minutes * Duration.microsPerMinute := by
  unfold Duration.ofMinutes Duration.ofMicros at held
  split at held
  · cases held
    rfl
  · cases held

theorem idle_beyond_of_elapsed {policy : Policy} {facts : Facts}
    (elapsed : idleElapsed policy facts = .ok true) : facts.IdleBeyond policy.idleMinutes := by
  unfold idleElapsed at elapsed
  cases enabled : policy.idleEnabled with
  | false => simp [enabled, pure, Except.pure] at elapsed
  | true =>
      by_cases untrusted : facts.running < facts.idle
      · simp [enabled, untrusted, pure, Except.pure] at elapsed
      · rw [enabled, if_neg untrusted] at elapsed
        cases held : policy.idleTimeout with
        | error failure =>
            rw [held] at elapsed
            cases elapsed
        | ok timeout =>
            rw [held] at elapsed
            injection elapsed with later
            have beyond : timeout.micros < facts.idle.micros := of_decide_eq_true later
            rw [Duration.lt_def] at untrusted
            rw [Policy.idleTimeout] at held
            rw [micros_of_minutes held] at beyond
            exact ⟨beyond, Int.not_lt.mp untrusted⟩

theorem within_lead_of_elapsed {policy : Policy} {remaining : Duration}
    (elapsed : cycleElapsed policy remaining = .ok true) :
    remaining.micros ≤ policy.cycleMinutes * Duration.microsPerMinute := by
  unfold cycleElapsed at elapsed
  cases enabled : policy.cycleEnabled with
  | false => simp [enabled, pure, Except.pure] at elapsed
  | true =>
      rw [enabled] at elapsed
      cases held : policy.cycleLead with
      | error failure =>
          rw [held] at elapsed
          cases elapsed
      | ok lead =>
          rw [held] at elapsed
          injection elapsed with near
          have within : remaining.micros ≤ lead.micros := of_decide_eq_true near
          rw [Policy.cycleLead] at held
          rwa [micros_of_minutes held] at within

theorem idle_beyond_of_decided {policy : Policy} {facts : Facts} {decision : Decision}
    (decided : decideRetention policy facts = .ok decision)
    (due : decision.kind = .terminate) (enabled : 0 < policy.idleMinutes) :
    facts.IdleBeyond policy.idleMinutes := by
  rcases decided_cases decided with
    ⟨reason, rfl⟩ | ⟨idleDue, cycleDue, trigger, idle, -, selected, -⟩
  · cases due
  · have chosen := (trigger_selected_iff _ _ _ _).mp (Option.ne_none_iff_exists'.mpr ⟨_, selected⟩)
    rw [chosen.2.1 (policy.idle_enabled_iff.mpr enabled)] at idle
    exact idle_beyond_of_elapsed idle

theorem within_lead_of_decided {policy : Policy} {facts : Facts} {decision : Decision}
    (decided : decideRetention policy facts = .ok decision)
    (due : decision.kind = .terminate) (enabled : 0 < policy.cycleMinutes) :
    (billingRemaining facts.uptime).micros ≤ policy.cycleMinutes * Duration.microsPerMinute := by
  rcases decided_cases decided with
    ⟨reason, rfl⟩ | ⟨idleDue, cycleDue, trigger, -, cycle, selected, -⟩
  · cases due
  · have chosen := (trigger_selected_iff _ _ _ _).mp (Option.ne_none_iff_exists'.mpr ⟨_, selected⟩)
    rw [chosen.2.2 (policy.cycle_enabled_iff.mpr enabled)] at cycle
    exact within_lead_of_elapsed cycle

theorem due_iff {policy : Policy} {facts : Facts} {idleDue cycleDue : Bool}
    (started : ¬ facts.Booting)
    (idle : idleDue = true ↔ policy.idleEnabled = true ∧ facts.IdleBeyond policy.idleMinutes)
    (cycle : cycleDue = true ↔
      policy.cycleEnabled = true ∧ facts.NearsBoundary policy.cycleMinutes) :
    policy.Due facts ↔
      selectTrigger policy.idleEnabled idleDue policy.cycleEnabled cycleDue ≠ none := by
  rw [trigger_selected_iff, idle, cycle, policy.idle_enabled_iff, policy.cycle_enabled_iff]
  constructor
  · intro due
    exact ⟨due.enabled, fun on => ⟨on, due.idle on⟩, fun on => ⟨on, due.cycle on⟩⟩
  · intro given
    obtain ⟨enabled, idleOn, cycleOn⟩ := given
    exact ⟨started, enabled, fun on => (idleOn on).2, fun on => (cycleOn on).2⟩

/-- For all minutes that a duration can hold there is a decision. It is a teardown just when the
node is due, with the trigger that the enabled conditions have together; otherwise nothing is done,
for the grace of a booting node or because a condition does not hold. -/
theorem decides_teardown_iff_due (policy : Policy) (facts : Facts)
    (idleBounded : policy.idleMinutes ≤ Policy.minuteLimit)
    (cycleBounded : policy.cycleMinutes ≤ Policy.minuteLimit) :
    ∃ decision, decideRetention policy facts = .ok decision ∧
      (decision.kind = .terminate ↔ policy.Due facts) ∧
      (policy.Due facts → ∃ trigger, decision.trigger = some trigger ∧
        (trigger = .idleAndCycle ↔ 0 < policy.idleMinutes ∧ 0 < policy.cycleMinutes) ∧
        (trigger = .idle ↔ 0 < policy.idleMinutes ∧ policy.cycleMinutes = 0) ∧
        (trigger = .cycle ↔ policy.idleMinutes = 0 ∧ 0 < policy.cycleMinutes)) ∧
      (facts.Booting → decision = .noAction .startupGrace) ∧
      (¬ facts.Booting → ¬ policy.Due facts → decision = .noAction .conditionsNotMet) := by
  by_cases booting : facts.Booting
  · have grace := (startup_grace_iff facts).mpr booting
    have idle : ¬ policy.Due facts := fun due => due.started booting
    refine ⟨.noAction .startupGrace, by rw [decideRetention, grace]; rfl, ?_⟩
    exact ⟨iff_of_false (by simp [Decision.noAction]) idle, fun due => (idle due).elim,
      fun _ => rfl, fun started => (started booting).elim⟩
  · have none := (startup_grace_none_iff facts).mpr booting
    obtain ⟨idleDue, idleDecided, idle⟩ := idle_elapsed_iff facts idleBounded
    obtain ⟨cycleDue, cycleDecided, cycle⟩ := cycle_elapsed_iff facts cycleBounded
    have due := due_iff booting idle cycle
    simp only [decideRetention, none, idleDecided, cycleDecided, bind, Except.bind]
    cases selected : selectTrigger policy.idleEnabled idleDue policy.cycleEnabled cycleDue with
    | none =>
        have undue : ¬ policy.Due facts := by
          rw [due, selected]
          simp
        exact ⟨_, rfl, iff_of_false (by simp [Decision.noAction]) undue,
          fun given => (undue given).elim, fun started => (booting started).elim,
          fun _ _ => rfl⟩
    | some trigger =>
        have given : policy.Due facts := by
          rw [due, selected]
          simp
        exact ⟨_, rfl, iff_of_true rfl given,
          fun _ => ⟨trigger, rfl, trigger_of_policy (trigger_of_selected selected)⟩,
          fun started => (booting started).elim, fun _ undue => (undue given).elim⟩

def onBoundaryFacts : Facts where
  isOffline := false
  uptime := .twoHours
  running := .twoHours
  idle := .zero

theorem on_boundary_started : ¬ onBoundaryFacts.Booting := fun booting => nomatch booting.1

/-- On a boundary it is the next one that counts: a lead of an hour reaches it, and one minute less
does not. -/
theorem decides_on_boundary :
    (∃ decision, decideRetention ⟨0, 60⟩ onBoundaryFacts = .ok decision ∧
        decision.kind = .terminate ∧ decision.trigger = some .cycle) ∧
      ∃ decision, decideRetention ⟨0, 59⟩ onBoundaryFacts = .ok decision ∧
        decision = .noAction .conditionsNotMet := by
  constructor
  · obtain ⟨decision, decided, kind, fired, -⟩ := decides_teardown_iff_due ⟨0, 60⟩
      onBoundaryFacts (by decide) (by decide)
    have due : Policy.Due ⟨0, 60⟩ onBoundaryFacts :=
      ⟨on_boundary_started, .inr (by decide), fun on => absurd on (by decide),
        fun _ => ⟨3, by decide, by decide⟩⟩
    obtain ⟨trigger, same, -, -, cycle⟩ := fired due
    obtain rfl := cycle.mpr ⟨rfl, by decide⟩
    exact ⟨decision, decided, kind.mpr due, same⟩
  · obtain ⟨decision, decided, -, -, -, undue⟩ := decides_teardown_iff_due ⟨0, 59⟩
      onBoundaryFacts (by decide) (by decide)
    refine ⟨decision, decided, undue on_boundary_started fun due => ?_⟩
    obtain ⟨hours, ahead, near⟩ := due.cycle (by decide)
    simp only [onBoundaryFacts, Duration.twoHours, Duration.microsPerMinute] at ahead near
    omega

end Teardown
