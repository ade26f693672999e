import Teardown.Proofs.Restoration
import Teardown.Proofs.Spelling

/-!
# Configurations in normal form

Two texts denote two integers, and the policy depends on nothing else of them. Its minutes are never
negative: the sign of the cycle minutes is dropped, and negative idle minutes are an older spelling
of cycle minutes, which then replace those of the other text. What is reported of that other text no
longer holds of the policy.
-/

namespace Teardown.Policy

set_option autoImplicit false

variable {raw idleRaw cycleRaw : Option String} {field : String}

/-- The integer that a text of minutes denotes, by the grammar: none and blanks denote zero, and a
malformed text denotes the default. -/
def Denotes (raw : Option String) (minutes : Int) : Prop :=
  ∀ field, ∃ report, ReadsMinutes field raw (minutes, report)

theorem parse_minutes_field (raw : Option String) (field other : String) :
    (parseMinutes raw field).1 = (parseMinutes raw other).1 := by
  cases raw with
  | none => rfl
  | some text =>
      simp only [parseMinutes]
      cases (Text.stripped text.toList).isEmpty with
      | true => rfl
      | false => cases Text.readNumeral? (Text.stripped text.toList) <;> rfl

theorem denotes_iff (raw : Option String) (field : String) (minutes : Int) :
    Denotes raw minutes ↔ (parseMinutes raw field).1 = minutes := by
  constructor
  · intro denoted
    obtain ⟨report, reads⟩ := denoted field
    rw [parse_minutes_of_reads reads]
  · rintro rfl other
    rw [parse_minutes_field raw field other]
    exact ⟨_, reads_minutes raw other⟩

theorem denotes_parsed (raw : Option String) (field : String) :
    Denotes raw (parseMinutes raw field).1 :=
  (denotes_iff raw field _).mpr rfl

theorem exists_unique_denoted (raw : Option String) : ∃! minutes, Denotes raw minutes :=
  ⟨_, denotes_parsed raw idleField, fun _ other => ((denotes_iff raw idleField _).mp other).symm⟩

def migrated (idle cycle : Int) : Int × Int :=
  if idle < 0 then (0, idle.natAbs) else (idle, cycle.natAbs)

/-- A configuration whose policy is checked when it is made. -/
def parseConfigChecked (idleRaw cycleRaw : Option String) :
    Except Failure (Policy × List MalformedMinutes) := do
  let (idle, idleWarning) := parseMinutes idleRaw idleField
  let (cycle, cycleWarning) := parseMinutes cycleRaw cycleField
  let (idle, cycle) := migrated idle cycle
  let policy ← ofMinutes idle cycle
  return (policy, idleWarning.toList ++ cycleWarning.toList)

theorem of_minutes_ok_iff (idle cycle : Int) :
    (∃ policy, ofMinutes idle cycle = .ok policy) ↔ 0 ≤ idle ∧ 0 ≤ cycle := by
  obtain ⟨idleFailure, idleRefused⟩ := exists_refuse_eq_error idleField (.int idle)
  obtain ⟨cycleFailure, cycleRefused⟩ := exists_refuse_eq_error cycleField (.int cycle)
  by_cases idleSign : idle < 0
  · refine iff_of_false ?_ fun signs => Int.not_lt.mpr signs.1 idleSign
    simp [ofMinutes, idleSign, idleRefused, bind, Except.bind]
  · by_cases cycleSign : cycle < 0
    · refine iff_of_false ?_ fun signs => Int.not_lt.mpr signs.2 cycleSign
      simp [ofMinutes, idleSign, cycleSign, cycleRefused, bind, Except.bind]
    · refine iff_of_true ?_ ⟨Int.not_lt.mp idleSign, Int.not_lt.mp cycleSign⟩
      simp [ofMinutes, idleSign, cycleSign, pure, Except.pure]

theorem migrated_eq (idle cycle : Int) :
    migrated idle cycle =
      (((normalize idle cycle).idleMinutes : Int), ((normalize idle cycle).cycleMinutes : Int)) := by
  unfold migrated normalize
  by_cases negative : idle < 0
  · rw [if_pos negative, if_pos negative]
    rfl
  · rw [if_neg negative, if_neg negative, Int.natAbs_of_nonneg (Int.not_lt.mp negative)]

theorem parse_config_checked (idleRaw cycleRaw : Option String) :
    parseConfigChecked idleRaw cycleRaw = .ok (parseConfig idleRaw cycleRaw) := by
  simp only [parseConfigChecked, migrated_eq, ofMinutes_natCast]
  rfl

theorem policy_of_denoted {idle cycle : Int} (idleDenoted : Denotes idleRaw idle)
    (cycleDenoted : Denotes cycleRaw cycle) :
    (parseConfig idleRaw cycleRaw).1 = normalize idle cycle := by
  simp only [parseConfig, (denotes_iff _ _ _).mp idleDenoted, (denotes_iff _ _ _).mp cycleDenoted]

theorem normalize_of_negative {idle : Int} (negative : idle < 0) (cycle : Int) :
    normalize idle cycle = ⟨0, idle.natAbs⟩ := if_pos negative

theorem normalize_of_nonneg {idle : Int} (plain : 0 ≤ idle) (cycle : Int) :
    normalize idle cycle = ⟨idle.natAbs, cycle.natAbs⟩ := if_neg (Int.not_lt.mpr plain)

theorem normalize_neg_cycle (idle cycle : Int) : normalize idle (-cycle) = normalize idle cycle := by
  simp only [normalize, Int.natAbs_neg]

theorem never_terminates_iff (policy : Policy) :
    policy.neverTerminates = true ↔ policy.idleMinutes = 0 ∧ policy.cycleMinutes = 0 := by
  simp [neverTerminates, idleEnabled, cycleEnabled]

theorem normalize_never_terminates_iff (idle cycle : Int) :
    (normalize idle cycle).neverTerminates = true ↔ idle = 0 ∧ cycle = 0 := by
  rw [never_terminates_iff]
  rcases lt_or_ge idle 0 with negative | plain
  · rw [normalize_of_negative negative]
    simp only
    omega
  · rw [normalize_of_nonneg plain]
    simp only
    omega

/-- Every text denotes one integer. Two texts always make a policy, and it passes the check for
negative minutes; the texts are reported, in order, if they are malformed. Negative idle minutes turn
the idle condition off and replace the cycle minutes, whatever the text of those; otherwise the idle
minutes are those denoted and the cycle minutes are the magnitude of those denoted. Texts that denote
the same integers, or opposite cycle minutes, make the same policy, and it never tears a node down
just when both denote zero. -/
theorem configured_minutes_are_normal :
    (∀ raw, ∃! minutes, Denotes raw minutes) ∧
    (∀ idle cycle : Int, (∃ policy, ofMinutes idle cycle = .ok policy) ↔ 0 ≤ idle ∧ 0 ≤ cycle) ∧
    ∀ idleRaw cycleRaw : Option String,
      parseConfigChecked idleRaw cycleRaw = .ok (parseConfig idleRaw cycleRaw) ∧
      ∃ (idle cycle : Int) (idleReport cycleReport : Option MalformedMinutes),
        (Denotes idleRaw idle ∧ ReadsMinutes idleField idleRaw (idle, idleReport)) ∧
        (Denotes cycleRaw cycle ∧ ReadsMinutes cycleField cycleRaw (cycle, cycleReport)) ∧
        let policy := (parseConfig idleRaw cycleRaw).1
        (parseConfig idleRaw cycleRaw).2 = idleReport.toList ++ cycleReport.toList ∧
        (idle < 0 → policy = ⟨0, idle.natAbs⟩ ∧ ∀ other, (parseConfig idleRaw other).1 = policy) ∧
        (0 ≤ idle → (policy.idleMinutes : Int) = idle ∧ policy.cycleMinutes = cycle.natAbs) ∧
        (∀ other, Denotes other (-cycle) → (parseConfig idleRaw other).1 = policy) ∧
        (∀ idleOther cycleOther, Denotes idleOther idle → Denotes cycleOther cycle →
          (parseConfig idleOther cycleOther).1 = policy) ∧
        (policy.neverTerminates = true ↔ idle = 0 ∧ cycle = 0) := by
  refine ⟨exists_unique_denoted, of_minutes_ok_iff, fun idleRaw cycleRaw => ?_⟩
  refine ⟨parse_config_checked idleRaw cycleRaw, ?_⟩
  have idleDenoted := denotes_parsed idleRaw idleField
  have cycleDenoted := denotes_parsed cycleRaw cycleField
  refine ⟨_, _, _, _, ⟨idleDenoted, reads_minutes idleRaw idleField⟩,
    ⟨cycleDenoted, reads_minutes cycleRaw cycleField⟩, ?_⟩
  generalize (parseMinutes idleRaw idleField).1 = idle at idleDenoted
  generalize (parseMinutes cycleRaw cycleField).1 = cycle at cycleDenoted
  intro policy
  have normal : policy = normalize idle cycle := policy_of_denoted idleDenoted cycleDenoted
  rw [normal]
  refine ⟨rfl, ?_, ?_, ?_, ?_, normalize_never_terminates_iff idle cycle⟩
  · intro negative
    refine ⟨normalize_of_negative negative cycle, fun other => ?_⟩
    rw [policy_of_denoted idleDenoted (denotes_parsed other cycleField),
      normalize_of_negative negative, normalize_of_negative negative]
  · intro plain
    rw [normalize_of_nonneg plain]
    exact ⟨Int.natAbs_of_nonneg plain, rfl⟩
  · intro other opposite
    rw [policy_of_denoted idleDenoted opposite, normalize_neg_cycle]
  · exact fun idleOther cycleOther => policy_of_denoted

/-- What a report says: the policy holds the default in the field of the malformed text. -/
def MalformedMinutes.HoldsOf (report : MalformedMinutes) (policy : Policy) : Prop :=
  Value.lookup? policy.toSnapshot report.field = some (.int defaultMinutes)

theorem MalformedMinutes.holds_of_idle_iff (text : String) (policy : Policy) :
    (MalformedMinutes.mk idleField text).HoldsOf policy ↔ policy.idleMinutes = 15 := by
  rw [HoldsOf, lookup_idle_to_snapshot, Option.some.injEq, Value.int.injEq, defaultMinutes]
  omega

theorem MalformedMinutes.holds_of_cycle_iff (text : String) (policy : Policy) :
    (MalformedMinutes.mk cycleField text).HoldsOf policy ↔ policy.cycleMinutes = 15 := by
  rw [HoldsOf, lookup_cycle_to_snapshot, Option.some.injEq, Value.int.injEq, defaultMinutes]
  omega

theorem parsed_of_report {report : MalformedMinutes}
    (reported : (parseMinutes raw field).2 = some report) :
    raw = some report.raw ∧ report = ⟨field, report.raw⟩ ∧ (parseMinutes raw field).1 = 15 := by
  have reads := reads_minutes raw field
  generalize parseMinutes raw field = parsed at reported reads
  cases reads with
  | missing => cases reported
  | blank => cases reported
  | number => cases reported
  | malformed nonempty unspelt =>
      cases reported
      exact ⟨rfl, rfl, rfl⟩

/-- A report of the idle text always holds. A report of the cycle text holds just when the idle text
denotes no negative number, or by chance the one whose magnitude is the default. -/
theorem reports_hold_iff (idleRaw cycleRaw : Option String) :
    ∃ idle : Int, Denotes idleRaw idle ∧
      ∀ report ∈ (parseConfig idleRaw cycleRaw).2,
        (report.field = idleField ∧ idleRaw = some report.raw ∧
          report.HoldsOf (parseConfig idleRaw cycleRaw).1) ∨
        (report.field = cycleField ∧ cycleRaw = some report.raw ∧
          (report.HoldsOf (parseConfig idleRaw cycleRaw).1 ↔ 0 ≤ idle ∨ idle = -15)) := by
  have denoted := denotes_parsed idleRaw idleField
  refine ⟨_, denoted, fun report reported => ?_⟩
  rw [policy_of_denoted denoted (denotes_parsed cycleRaw cycleField)]
  rcases List.mem_append.mp reported with first | second
  · obtain ⟨text, same, value⟩ := parsed_of_report (Option.mem_toList.mp first)
    refine .inl ⟨congrArg MalformedMinutes.field same, text, ?_⟩
    rw [same, MalformedMinutes.holds_of_idle_iff, value, normalize_of_nonneg (by decide)]
    rfl
  · obtain ⟨text, same, value⟩ := parsed_of_report (Option.mem_toList.mp second)
    refine .inr ⟨congrArg MalformedMinutes.field same, text, ?_⟩
    rw [same, MalformedMinutes.holds_of_cycle_iff, value]
    generalize (parseMinutes idleRaw idleField).1 = idle
    rcases lt_or_ge idle 0 with negative | plain
    · rw [normalize_of_negative negative]
      simp only
      omega
    · rw [normalize_of_nonneg plain]
      exact iff_of_true rfl (.inl plain)

/-- The magnitude of the idle minutes takes the place of the default that is reported. -/
theorem report_of_replaced_minutes :
    parseConfig (some "-5") (some "soon") = (⟨0, 5⟩, [⟨cycleField, "soon"⟩]) ∧
      (MalformedMinutes.mk cycleField "soon").text =
        "Malformed cycle_termination_minutes value: 'soon', using default of 15 minutes" ∧
      ¬ (MalformedMinutes.mk cycleField "soon").HoldsOf ⟨0, 5⟩ := by
  refine ⟨rfl, by decide +kernel, ?_⟩
  rw [MalformedMinutes.holds_of_cycle_iff]
  decide

end Teardown.Policy
