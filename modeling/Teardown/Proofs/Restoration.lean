import Teardown.Proofs.Numeral
import Teardown.Script
import Teardown.Session

/-!
# Policies that are stored and restored

A snapshot holds two numbers, which are read back through their decimal texts. Configuration texts
only ever give numbers that can be written, so a configured policy comes back from its snapshot
without a warning, however often it is stored and restored. A policy that was made of numbers comes
back just when both can be written.
-/

namespace Teardown

set_option autoImplicit false

theorem ok_of_toOption {Value : Type} {result : Except Failure Value} {value : Value}
    (known : result.toOption = some value) : result = .ok value := by
  cases result with
  | error failure => cases known
  | ok other =>
      cases known
      rfl

namespace Policy

/-- Both numbers of minutes keep to the limit of digits. -/
def Writable (policy : Policy) : Prop :=
  policy.idleMinutes < Nat.pow 10 Text.digitLimit ∧
    policy.cycleMinutes < Nat.pow 10 Text.digitLimit

theorem lt_power_of_le {number limit : Nat} (small : number ≤ limit) :
    number < Nat.pow 10 limit :=
  Nat.lt_of_le_of_lt small (Nat.lt_pow_self (by decide))

theorem parse_minutes_lt (raw : Option String) (field : String) :
    (parseMinutes raw field).1.natAbs < Nat.pow 10 Text.digitLimit := by
  have none : (0 : Int).natAbs < Nat.pow 10 Text.digitLimit := lt_power_of_le (by decide)
  have default : defaultMinutes.natAbs < Nat.pow 10 Text.digitLimit := lt_power_of_le (by decide)
  fun_cases parseMinutes raw field with
  | case1 => exact none
  | case2 => exact none
  | case3 text characters present minutes read => exact Text.numeral_lt read
  | case4 => exact default

theorem parse_config_writable (idle cycle : Option String) :
    (parseConfig idle cycle).1.Writable := by
  have idleShort := parse_minutes_lt idle idleField
  have cycleShort := parse_minutes_lt cycle cycleField
  simp only [parseConfig, normalize]
  split
  · exact ⟨lt_power_of_le (Nat.zero_le _), idleShort⟩
  · exact ⟨idleShort, cycleShort⟩

theorem parse_minutes_decimal {minutes : Int}
    (short : minutes.natAbs < Nat.pow 10 Text.digitLimit) (field : String) :
    parseMinutes (some (Text.decimal minutes)) field = (minutes, none) := by
  have clear := Text.stripped_of_clear (Text.decimal_text_clear minutes)
  have written : (Text.decimalText minutes).isEmpty = false :=
    List.isEmpty_eq_false_iff.mpr (Text.decimal_text_ne_nil minutes)
  have read := Text.read_decimal_text short
  simp only [parseMinutes, Text.decimal, String.toList_ofList, clear, written, read]
  rfl

theorem stored_text_of_known {value : Value} {text : String} (filled : value ≠ .null)
    (known : value.text? = some text) : storedText (some value) = .ok (some text) := by
  have read : wording value = .ok text := by rw [wording, known]
  rw [storedText, read]
  · rfl
  · exact filled

theorem stored_text_of_short {minutes : Nat} (short : minutes < Nat.pow 10 Text.digitLimit) :
    storedText (some (.int minutes)) = .ok (some (Text.decimal minutes)) := by
  have written : Text.writeNumeral? minutes = some (Text.decimal minutes) := if_pos short
  exact stored_text_of_known nofun written

theorem stored_text_of_long {minutes : Nat} (long : ¬ minutes < Nat.pow 10 Text.digitLimit) :
    storedText (some (.int minutes)) = .error .numeralTooLong := by
  have unwritten : Text.writeNumeral? minutes = none := if_neg long
  simp only [storedText, wording, Value.text?, Value.nestedText?, unwritten]
  rfl

theorem lookup_idle_to_snapshot (policy : Policy) :
    Value.lookup? policy.toSnapshot idleField = some (.int policy.idleMinutes) := rfl

theorem lookup_cycle_to_snapshot (policy : Policy) :
    Value.lookup? policy.toSnapshot cycleField = some (.int policy.cycleMinutes) := rfl

/-- An empty mapping needs no treatment of its own: it has no field. -/
theorem of_snapshot_some (entries : List (Value × Value)) :
    ofSnapshot (some entries) = do
      let idle ← storedText (Value.lookup? entries idleField)
      let cycle ← storedText (Value.lookup? entries cycleField)
      return parseConfig idle cycle := by
  cases entries with
  | nil => rfl
  | cons entry rest => rfl

theorem of_snapshot_to_snapshot {policy : Policy} (writable : policy.Writable) :
    ofSnapshot (some policy.toSnapshot) = .ok (policy, []) := by
  have idleRead := @parse_minutes_decimal policy.idleMinutes writable.1 idleField
  have cycleRead := @parse_minutes_decimal policy.cycleMinutes writable.2 cycleField
  have positive : ¬ (policy.idleMinutes : Int) < 0 := by omega
  rw [of_snapshot_some, lookup_idle_to_snapshot, lookup_cycle_to_snapshot,
    stored_text_of_short writable.1, stored_text_of_short writable.2]
  simp only [bind, Except.bind, pure, Except.pure, parseConfig, idleRead, cycleRead, normalize,
    if_neg positive, Int.natAbs_natCast]
  rfl

theorem of_snapshot_unwritable {policy : Policy} (unwritable : ¬ policy.Writable) :
    ofSnapshot (some policy.toSnapshot) = .error .numeralTooLong := by
  rw [of_snapshot_some, lookup_idle_to_snapshot, lookup_cycle_to_snapshot]
  by_cases idleShort : policy.idleMinutes < Nat.pow 10 Text.digitLimit
  · have cycleLong : ¬ policy.cycleMinutes < Nat.pow 10 Text.digitLimit :=
      fun cycleShort => unwritable ⟨idleShort, cycleShort⟩
    rw [stored_text_of_short idleShort, stored_text_of_long cycleLong]
    rfl
  · rw [stored_text_of_long idleShort]
    rfl

end Policy

namespace Session

variable {State : Type} {session next : Session State} {strategy : Strategy}

/-- A construction that leaves all that runs and all that was logged as it is, and gives a strategy
with the policy unless the settings are refused. -/
structure Restores (session : Session State) (settings : Option (List (String × Value)))
    (policy : Policy) (made : Session State × Except Failure Strategy) : Prop where
  host : made.1.host = session.host
  policy : ∀ strategy, made.2 = .ok strategy → strategy.policy = policy
  refused : ∀ failure, made.2 = .error failure →
    session.givenSettings settings = .error failure ∨
      settings = none ∧ session.deployment.settings.2 = .error failure

theorem strategyFrom_policy {given : Option Settings}
    {parsed : Policy × List Policy.MalformedMinutes}
    (made : (session.strategyFrom given parsed).2 = .ok strategy) :
    strategy.policy = parsed.1 := by
  unfold strategyFrom at made
  cases given with
  | some settings =>
      cases made
      rfl
  | none =>
      simp only at made
      split at made
      · cases made
      · cases made
        rfl

theorem givenSettings_none {settings : Option (List (String × Value))}
    (loaded : session.givenSettings settings = .ok none) : settings = none := by
  cases settings with
  | none => rfl
  | some given =>
      simp only [givenSettings] at loaded
      cases known : session.deployment.load given with
      | error failure => simp [known, Except.map] at loaded
      | ok value => simp [known, Except.map] at loaded

theorem strategyFrom_unwarned (session : Session State) (given : Option Settings)
    (policy : Policy) :
    (session.strategyFrom given (policy, [])).1.host = session.host ∧
      ∀ failure, (session.strategyFrom given (policy, [])).2 = .error failure →
        given = none ∧ session.deployment.settings.2 = .error failure := by
  have unwarned : session.logWarnings [] = session := rfl
  unfold strategyFrom
  rw [unwarned]
  cases given with
  | some settings => exact ⟨rfl, fun _ refused => nomatch refused⟩
  | none =>
      rcases reading : session.deployment.settings with ⟨deployment, settings⟩
      cases settings with
      | error failure => simp [reading]
      | ok settings =>
          simp only [reading]
          exact ⟨rfl, fun _ refused => nomatch refused⟩

theorem restores_of_read {source : Source} {settings : Option (List (String × Value))}
    {policy : Policy}
    (reading : session.read source = do
      return .parsed (← session.givenSettings settings) (policy, [])) :
    session.Restores settings policy (session.construct source) := by
  unfold construct
  rw [reading]
  cases loaded : session.givenSettings settings with
  | error failure =>
      constructor
      · rfl
      · intro strategy made
        cases made
      · intro other refused
        cases refused
        exact .inl loaded
  | ok given =>
      have unwarned := session.strategyFrom_unwarned given policy
      constructor
      · exact unwarned.1
      · exact fun strategy => strategyFrom_policy
      · intro failure refused
        obtain ⟨rfl, unread⟩ := unwarned.2 failure refused
        exact .inr ⟨givenSettings_none loaded, unread⟩

theorem construct_restored {id : String} {source : Strategy}
    (known : session.strategy? id = .ok source) (writable : source.policy.Writable)
    (settings : Option (List (String × Value))) :
    session.Restores settings source.policy (session.construct (.restored id settings)) := by
  apply restores_of_read
  have restored := Policy.of_snapshot_to_snapshot writable
  simp only [read, known, bind, Except.bind, restored]

theorem construct_kept {policy : Policy} (writable : policy.Writable)
    (settings : Option (List (String × Value))) :
    session.Restores settings policy
      (session.construct (.snapshot (.mapping policy.toSnapshot) settings)) := by
  apply restores_of_read
  have restored := Policy.of_snapshot_to_snapshot writable
  simp only [read, Policy.ofStored, bind, Except.bind, restored]

/-- A configured strategy, and what comes from it by storing and restoring: through the snapshot of
a strategy at hand, or through one that was kept. Each is built in a session of any kind, so
anything may happen between two of them. -/
inductive Descends (State : Type) (idle cycle : Option String) : Strategy → Prop where
  | configured {session next : Session State} {settings : Option (List (String × Value))}
      {strategy : Strategy}
      (made : session.construct (.config idle cycle settings) = (next, .ok strategy)) :
      Descends State idle cycle strategy
  | restored {session next : Session State} {id : String}
      {settings : Option (List (String × Value))} {source strategy : Strategy}
      (descends : Descends State idle cycle source) (known : session.strategy? id = .ok source)
      (made : session.construct (.restored id settings) = (next, .ok strategy)) :
      Descends State idle cycle strategy
  | kept {session next : Session State} {settings : Option (List (String × Value))}
      {source strategy : Strategy} (descends : Descends State idle cycle source)
      (made : session.construct (.snapshot (.mapping source.policy.toSnapshot) settings) =
        (next, .ok strategy)) :
      Descends State idle cycle strategy

theorem construct_config {idle cycle : Option String}
    {settings : Option (List (String × Value))}
    (made : session.construct (.config idle cycle settings) = (next, .ok strategy)) :
    strategy.policy = (Policy.parseConfig idle cycle).1 := by
  cases loaded : session.givenSettings settings with
  | error failure =>
      simp only [construct, read, loaded, bind, Except.bind] at made
      cases made
  | ok given =>
      simp only [construct, read, loaded, bind, Except.bind, pure, Except.pure] at made
      exact strategyFrom_policy (congrArg Prod.snd made)

/-- However often it is stored and restored, a configured policy stays what it is. -/
theorem policy_of_descends {idle cycle : Option String}
    (descends : Descends State idle cycle strategy) :
    strategy.policy = (Policy.parseConfig idle cycle).1 := by
  induction descends with
  | configured made => exact construct_config made
  | @restored session next id settings source strategy _ known made ih =>
      have writable : source.policy.Writable := ih ▸ Policy.parse_config_writable idle cycle
      have restores := construct_restored known writable settings
      rw [made] at restores
      exact (restores.policy strategy rfl).trans ih
  | @kept session next settings source strategy _ made ih =>
      have writable : source.policy.Writable := ih ▸ Policy.parse_config_writable idle cycle
      have restores := @construct_kept _ session _ writable settings
      rw [made] at restores
      exact (restores.policy strategy rfl).trans ih

/-- A configured policy comes back from its snapshot, without a warning. So does every strategy in a
chain of snapshots: it has the configured policy, and restoring it once more gives that policy again
and logs nothing; only refused settings can keep it from being restored. A policy of any numbers
comes back from its snapshot just when both are short enough to be written, and reading the snapshot
fails if one is not. -/
theorem stored_policies_come_back (State : Type) :
    (∀ idle cycle : Option String,
        let policy := (Policy.parseConfig idle cycle).1
        Policy.ofSnapshot (some policy.toSnapshot) = .ok (policy, [])) ∧
      (∀ (idle cycle : Option String) (source : Strategy), Descends State idle cycle source →
        let policy := (Policy.parseConfig idle cycle).1
        source.policy = policy ∧
          ∀ (session : Session State) (settings : Option (List (String × Value))),
            (∀ id, session.strategy? id = .ok source →
              session.Restores settings policy (session.construct (.restored id settings))) ∧
            session.Restores settings policy
              (session.construct (.snapshot (.mapping source.policy.toSnapshot) settings))) ∧
      ∀ idle cycle : Nat, ∃ policy, Policy.ofMinutes idle cycle = .ok policy ∧
        (Policy.ofSnapshot (some policy.toSnapshot) = .ok (policy, []) ↔
          idle < Nat.pow 10 Text.digitLimit ∧ cycle < Nat.pow 10 Text.digitLimit) ∧
        (¬ (idle < Nat.pow 10 Text.digitLimit ∧ cycle < Nat.pow 10 Text.digitLimit) →
          ∃ failure, Policy.ofSnapshot (some policy.toSnapshot) = .error failure ∧
            failure.name = "ValueError") := by
  refine ⟨?_, ?_, ?_⟩
  · intro idle cycle
    exact Policy.of_snapshot_to_snapshot (Policy.parse_config_writable idle cycle)
  · intro idle cycle source descends policy
    have same : source.policy = policy := policy_of_descends descends
    have writable : policy.Writable := Policy.parse_config_writable idle cycle
    rw [← same] at writable ⊢
    refine ⟨rfl, fun session settings => ⟨?_, construct_kept writable settings⟩⟩
    exact fun id known => construct_restored known writable settings
  · intro idle cycle
    have unwritable := @Policy.of_snapshot_unwritable ⟨idle, cycle⟩
    refine ⟨⟨idle, cycle⟩, Policy.ofMinutes_natCast idle cycle, ?_, ?_⟩
    · constructor
      · intro back
        apply Classical.byContradiction
        intro long
        rw [unwritable long] at back
        cases back
      · exact @Policy.of_snapshot_to_snapshot ⟨idle, cycle⟩
    · exact fun long => ⟨_, unwritable long, rfl⟩

theorem strategy_of_built {id : String} {source : Source}
    (made : session.construct source = (next, .ok strategy)) :
    (session.build id source).1.strategy? id = .ok strategy := by
  simp [build, made, strategy?]

theorem made_of_toOption {made : Session State × Except Failure Strategy}
    (known : made.2.toOption = some strategy) : made = (made.1, .ok strategy) :=
  Prod.ext rfl (ok_of_toOption known)

def opened : Session Script := { host := { world := { nodes := Script.initial } } }

/-- A quarter of an hour of idleness, within five minutes of a billing boundary; both numbers are
spelt in an unusual way. -/
def oddTexts : Source := .config (some " 0_15 ") (some "-٥") (some [])

def configured : Session Script := (opened.build "first" oddTexts).1

def restored : Session Script := (configured.build "second" (.restored "first" (some []))).1

theorem odd_texts_come_back_twice :
    Policy.parseConfig (some " 0_15 ") (some "-٥") = (⟨15, 5⟩, []) ∧
      Policy.ofSnapshot (some (Policy.toSnapshot ⟨15, 5⟩)) = .ok (⟨15, 5⟩, []) ∧
      Descends Script (some " 0_15 ") (some "-٥") ⟨⟨15, 5⟩, false, 1⟩ ∧
      restored.strategy? "second" = .ok ⟨⟨15, 5⟩, false, 1⟩ ∧
      restored.Restores (some []) ⟨15, 5⟩ (restored.construct (.restored "second" (some []))) ∧
      ∃ failure, Policy.ofSnapshot
          (some (Policy.toSnapshot ⟨Nat.pow 10 Text.digitLimit, 5⟩)) = .error failure ∧
        failure.name = "ValueError" := by
  obtain ⟨texts, chain, numbers⟩ := stored_policies_come_back Script
  have parsed : Policy.parseConfig (some " 0_15 ") (some "-٥") = (⟨15, 5⟩, []) := rfl
  have back := texts (some " 0_15 ") (some "-٥")
  have made : (opened.construct oddTexts).2.toOption = some ⟨⟨15, 5⟩, false, 0⟩ := by
    decide +kernel
  have first : configured.strategy? "first" = .ok ⟨⟨15, 5⟩, false, 0⟩ :=
    strategy_of_built (made_of_toOption made)
  have remade : (configured.construct (.restored "first" (some []))).2.toOption =
      some ⟨⟨15, 5⟩, false, 1⟩ := by
    decide +kernel
  have second : restored.strategy? "second" = .ok ⟨⟨15, 5⟩, false, 1⟩ :=
    strategy_of_built (made_of_toOption remade)
  have descends : Descends Script (some " 0_15 ") (some "-٥") ⟨⟨15, 5⟩, false, 1⟩ :=
    .restored (.configured (made_of_toOption made)) first (made_of_toOption remade)
  have again := ((chain _ _ _ descends).2 restored (some [])).1 "second" second
  rw [parsed] at back again
  have refused : ∀ minutes, ¬ minutes < Nat.pow 10 Text.digitLimit →
      ∃ failure, Policy.ofSnapshot (some (Policy.toSnapshot ⟨minutes, 5⟩)) = .error failure ∧
        failure.name = "ValueError" := by
    intro minutes long
    obtain ⟨policy, known, -, unread⟩ := numbers minutes 5
    rw [Policy.ofMinutes_natCast] at known
    cases known
    exact unread fun short => long short.1
  exact ⟨parsed, back, descends, second, again, refused _ (Nat.lt_irrefl _)⟩

end Session

end Teardown
