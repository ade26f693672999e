import Teardown.Proofs.Boundary
import Teardown.Proofs.Survival
import Teardown.Proofs.Restoration

/-!
# Configurations that can be decided on

No text is refused for the minutes that it sets, but only so many minutes are a duration. A decision
fails when it needs a duration that does not exist, so a configuration with more minutes is accepted
without a warning and then fails at one visit after another. Which facts need which duration is
described completely here.
-/

namespace Teardown

set_option autoImplicit false

variable {policy : Policy} {facts : Facts}

theorem minutes_held_iff (minutes : Nat) :
    (∃ duration, (Duration.ofMinutes minutes).mapError Failure.daysOutOfRange = .ok duration) ↔
      minutes ≤ Policy.minuteLimit := by
  by_cases bounded : minutes ≤ Policy.minuteLimit
  · obtain ⟨duration, held, -⟩ := exists_duration_of_minutes bounded
    rw [held]
    exact iff_of_true ⟨duration, rfl⟩ bounded
  · have outside := mt (minutes_in_range_iff minutes).mp bounded
    rw [Duration.ofMinutes, Duration.ofMicros, dif_neg outside]
    refine iff_of_false ?_ bounded
    intro held
    obtain ⟨duration, same⟩ := held
    cases same

/-- The idle minutes have to be a duration only where they are compared with the idle time, which
is trusted only of a node that has been running for at least as long. -/
theorem idle_elapsed_decided_iff (policy : Policy) (facts : Facts) :
    (∃ elapsed, idleElapsed policy facts = .ok elapsed) ↔
      policy.idleMinutes ≤ Policy.minuteLimit ∨ facts.running < facts.idle := by
  rw [← minutes_held_iff]
  unfold idleElapsed Policy.idleTimeout
  by_cases untrusted : facts.running < facts.idle
  · refine iff_of_true ⟨false, ?_⟩ (.inr untrusted)
    split <;> simp [pure, Except.pure]
  · rw [or_iff_left untrusted]
    cases enabled : policy.idleEnabled with
    | false =>
        have off : policy.idleMinutes = 0 := by simpa [Policy.idleEnabled] using enabled
        rw [off]
        exact iff_of_true ⟨false, rfl⟩ ⟨.zero, rfl⟩
    | true =>
        cases (Duration.ofMinutes policy.idleMinutes).mapError Failure.daysOutOfRange with
        | error failure => simp [untrusted, bind, Except.bind]
        | ok timeout => simp [untrusted, pure, Except.pure, bind, Except.bind]

theorem cycle_elapsed_decided_iff (policy : Policy) (remaining : Duration) :
    (∃ elapsed, cycleElapsed policy remaining = .ok elapsed) ↔
      policy.cycleMinutes ≤ Policy.minuteLimit := by
  rw [← minutes_held_iff]
  unfold cycleElapsed Policy.cycleLead
  cases enabled : policy.cycleEnabled with
  | false =>
      have off : policy.cycleMinutes = 0 := by simpa [Policy.cycleEnabled] using enabled
      rw [off]
      exact iff_of_true ⟨false, rfl⟩ ⟨.zero, rfl⟩
  | true =>
      cases (Duration.ofMinutes policy.cycleMinutes).mapError Failure.daysOutOfRange with
      | error failure => simp [bind, Except.bind]
      | ok lead => simp [pure, Except.pure, bind, Except.bind]

namespace Policy

/-- All durations exist that are needed to decide on the facts. None is needed for a node that is
booting. -/
def DecidedOn (policy : Policy) (facts : Facts) : Prop :=
  facts.Booting ∨ policy.cycleMinutes ≤ minuteLimit ∧
    (policy.idleMinutes ≤ minuteLimit ∨ facts.running < facts.idle)

end Policy

theorem decided_iff_conditions_decided (started : ¬ facts.Booting) :
    (∃ decision, decideRetention policy facts = .ok decision) ↔
      (∃ elapsed, idleElapsed policy facts = .ok elapsed) ∧
        ∃ elapsed, cycleElapsed policy (billingRemaining facts.uptime) = .ok elapsed := by
  have none := (startup_grace_none_iff facts).mpr started
  simp only [decideRetention, none]
  cases idle : idleElapsed policy facts with
  | error failure => simp [bind, Except.bind]
  | ok idleDue =>
      cases cycle : cycleElapsed policy (billingRemaining facts.uptime) with
      | error failure => simp [bind, Except.bind]
      | ok cycleDue =>
          refine iff_of_true ?_ ⟨⟨idleDue, rfl⟩, cycleDue, rfl⟩
          simp only [bind, Except.bind]
          split
          · exact ⟨_, rfl⟩
          · exact ⟨_, rfl⟩

theorem decided_iff (policy : Policy) (facts : Facts) :
    (∃ decision, decideRetention policy facts = .ok decision) ↔ policy.DecidedOn facts := by
  by_cases booting : facts.Booting
  · have grace := (startup_grace_iff facts).mpr booting
    exact iff_of_true ⟨_, by rw [decideRetention, grace]; rfl⟩ (.inl booting)
  · rw [decided_iff_conditions_decided booting, idle_elapsed_decided_iff,
      cycle_elapsed_decided_iff, Policy.DecidedOn, or_iff_right booting, and_comm]

/-- A policy is decided on all facts just when both numbers of minutes are durations: some nodes
need both. -/
theorem always_decided_iff (policy : Policy) :
    (∀ facts, ∃ decision, decideRetention policy facts = .ok decision) ↔
      policy.idleMinutes ≤ Policy.minuteLimit ∧ policy.cycleMinutes ≤ Policy.minuteLimit := by
  constructor
  · intro decided
    rcases (decided_iff policy onBoundaryFacts).mp (decided onBoundaryFacts) with
      booting | ⟨cycle, idle | untrusted⟩
    · exact (on_boundary_started booting).elim
    · exact ⟨idle, cycle⟩
    · exact absurd untrusted (by decide)
  · intro bounded facts
    exact (decided_iff policy facts).mpr (.inr ⟨bounded.2, .inl bounded.1⟩)

theorem undecided_iff (policy : Policy) (facts : Facts) :
    (∃ error, decideRetention policy facts = .error (.daysOutOfRange error)) ↔
      ¬ policy.DecidedOn facts := by
  rw [← decided_iff]
  cases decided : decideRetention policy facts with
  | ok decision => simp
  | error failure =>
      obtain ⟨error, rfl⟩ := out_of_range_of_decide_error decided
      simp

theorem never_terminates_of_undecided (undecided : ¬ policy.DecidedOn facts) :
    policy.neverTerminates = false := by
  cases never : policy.neverTerminates with
  | false => rfl
  | true =>
      have off : policy.idleMinutes = 0 ∧ policy.cycleMinutes = 0 := by
        simpa [Policy.neverTerminates, Policy.idleEnabled, Policy.cycleEnabled] using never
      refine (undecided (.inr ⟨?_, .inl ?_⟩)).elim <;> simp only [Policy.minuteLimit] <;> omega

namespace Strategy

theorem fails_on_heard_iff {strategy : Strategy} (enabled : strategy.evaluationDisabled = false)
    (node : NodeId) (facts : Facts) :
    (∃ failure, (strategy.evaluate (some node)).Ends (heard node facts) (.error failure)) ↔
      ¬ strategy.policy.DecidedOn facts := by
  rw [← undecided_iff]
  constructor
  · intro given
    obtain ⟨failure, ended⟩ := given
    have taken := evaluate_present_course ended
    generalize given : heard node facts = course at taken
    generalize failed : Except.error failure = result at taken
    cases taken with
    | brokenOff _ _ abstains unheard kept =>
        subst given
        exact (unheard facts List.prefix_rfl).elim
    | undue others kept =>
        have same : facts = others := by
          apply @heard_inj node facts others []
          rw [List.append_nil, ← given]
          exact List.prefix_rfl
        subst same
        obtain ⟨error, rfl⟩ := out_of_range_of_decide_error failed.symm
        exact ⟨error, failed.symm⟩
    | gone others decision answer decided due absent =>
        have longer := congrArg List.length given
        simp [heard, observed] at longer
    | carriedOut others decision name answer enabled decided due =>
        have longer := congrArg List.length given
        simp [heard, observed, teardownExchanges] at longer
  · intro given
    obtain ⟨error, undecided⟩ := given
    have active := never_terminates_of_undecided ((undecided_iff _ _).mp ⟨error, undecided⟩)
    have fails : (strategy.act node facts).Ends [] (.error (.daysOutOfRange error)) :=
      (Attempt.ends_bind_iff _ _ _ _).mpr
        (.inl ⟨_, (Attempt.ends_ofExcept_iff _ _ _).mpr ⟨rfl, undecided.symm⟩, rfl⟩)
    have taken := evaluate_present_takes_act enabled active fails
    rw [List.append_nil] at taken
    exact ⟨_, taken⟩

theorem bounded_iff_read (idle cycle : Int) (limit : Nat) :
    (Policy.normalize idle cycle).idleMinutes ≤ limit ∧
        (Policy.normalize idle cycle).cycleMinutes ≤ limit ↔
      idle.natAbs ≤ limit ∧ (0 ≤ idle → cycle.natAbs ≤ limit) := by
  unfold Policy.normalize
  by_cases negative : idle < 0
  · simp only [if_pos negative]
    omega
  · simp only [if_neg negative]
    omega

/-- Texts give a policy that can be decided on, whatever the facts, just when the idle minutes that
they set are a duration and, unless those are negative, the cycle minutes too. For any texts a
decision is made of just those facts that need no other durations; of all others it fails, and so
does every evaluation that has heard them. -/
theorem configured_policy_decides_iff (idle cycle : Option String) :
    ((∀ facts, ∃ decision,
          decideRetention (Policy.parseConfig idle cycle).1 facts = .ok decision) ↔
        (Policy.parseMinutes idle Policy.idleField).1.natAbs ≤ Policy.minuteLimit ∧
          (0 ≤ (Policy.parseMinutes idle Policy.idleField).1 →
            (Policy.parseMinutes cycle Policy.cycleField).1.natAbs ≤ Policy.minuteLimit)) ∧
      ∀ facts,
        ((∃ decision, decideRetention (Policy.parseConfig idle cycle).1 facts = .ok decision) ↔
          (Policy.parseConfig idle cycle).1.DecidedOn facts) ∧
        ((∃ error, decideRetention (Policy.parseConfig idle cycle).1 facts =
            .error (.daysOutOfRange error)) ↔
          ¬ (Policy.parseConfig idle cycle).1.DecidedOn facts) ∧
        ∀ (guard : GuardId) (node : NodeId),
          (∃ failure, (evaluate ⟨(Policy.parseConfig idle cycle).1, false, guard⟩
              (some node)).Ends (heard node facts) (.error failure)) ↔
            ¬ (Policy.parseConfig idle cycle).1.DecidedOn facts := by
  constructor
  · exact (always_decided_iff _).trans (bounded_iff_read _ _ _)
  · intro facts
    refine ⟨decided_iff _ facts, undecided_iff _ facts, ?_⟩
    intro guard node
    exact @fails_on_heard_iff ⟨(Policy.parseConfig idle cycle).1, false, guard⟩ rfl node facts

theorem accepted_minutes_fail_evaluation :
    Policy.parseConfig (some "1440000000000") none = (⟨1440000000000, 0⟩, []) ∧
      (Session.opened.construct (.config (some "1440000000000") none (some []))).2.toOption =
        some ⟨⟨1440000000000, 0⟩, false, 0⟩ ∧
      decideRetention ⟨1440000000000, 0⟩ onBoundaryFacts =
        .error (.daysOutOfRange ⟨1000000000⟩) ∧
      ∃ failure, (evaluate ⟨⟨1440000000000, 0⟩, false, 0⟩ (some "a")).Ends
        (heard "a" onBoundaryFacts) (.error failure) := by
  have parsed : Policy.parseConfig (some "1440000000000") none = (⟨1440000000000, 0⟩, []) := rfl
  have undecided : decideRetention ⟨1440000000000, 0⟩ onBoundaryFacts =
      .error (.daysOutOfRange ⟨1000000000⟩) := rfl
  refine ⟨parsed, by decide +kernel, undecided, ?_⟩
  apply (@fails_on_heard_iff ⟨⟨1440000000000, 0⟩, false, 0⟩ rfl "a" onBoundaryFacts).mpr
  exact (undecided_iff _ _).mp ⟨_, undecided⟩

end Strategy

end Teardown
