import Teardown.Proofs.ReadOnce

/-!
# Settings that can be read

The settings of a process can be read unless its switch is set to a word that is no truth value, or
its settings file sets an unknown name. A strategy that is configured without settings of its own is
built just when they can be read, or were read before by anything that asked for them.
-/

namespace Teardown

set_option autoImplicit false

namespace Settings

/-- What the environment sets a name to, or else the settings file. -/
def writtenText? (sources : Sources) (name : String) : Option String :=
  (environmentValue? sources.environment name).or (((fileBindings sources).lookup name).bind id)

/-- What is wrong with an environment and a settings file: the switch is set to a word that is none for
a truth value, in any casing, or the file sets an unknown name to something. -/
def Spoils (sources : Sources) (issue : Issue) : Prop :=
  match issue.cause with
  | .unreadableTruthValue =>
      issue.field = disabledName ∧ ∃ word, writtenText? sources disabledName = some word ∧
        asciiLower word ∉ trueWords ++ falseWords
  | .unknownName =>
      issue.field ∉ names ∧ ∃ text, (issue.field, some text) ∈ fileBindings sources ∧ text ≠ ""
  | _ => False

def Readable (sources : Sources) : Prop := ∀ issue, ¬ Spoils sources issue

variable {sources : Sources}

theorem raw_value_of_ungiven (ungiven : sources.given = []) (name : String) :
    rawValue? sources name = (writtenText? sources name).map .string := by
  unfold rawValue? writtenText?
  rw [ungiven]
  simp only [givenValue?, List.find?_nil, Option.map_none]
  cases environmentValue? sources.environment name with
  | none => rfl
  | some text => rfl

theorem no_issue_of_texts {Setting : Type} (ungiven : sources.given = []) (name : String)
    (default : Setting) {read : Value → Except IssueCause Setting}
    (texts : ∀ text, ∃ setting, read (.string text) = .ok setting) :
    issueOf (readSetting sources name default read) = [] := by
  unfold readSetting
  rw [raw_value_of_ungiven ungiven]
  cases writtenText? sources name with
  | none => rfl
  | some text =>
      obtain ⟨setting, known⟩ := texts text
      simp [known, Except.mapError, issueOf]

theorem truth_of_word_cases (word : String) :
    (asciiLower word ∈ trueWords ++ falseWords ∧ ∃ truth, truthOfWord word = .ok truth) ∨
      asciiLower word ∉ trueWords ++ falseWords ∧
        truthOfWord word = .error .unreadableTruthValue := by
  simp only [truthOfWord, List.mem_append, List.contains_iff_mem]
  by_cases affirmed : asciiLower word ∈ trueWords
  · exact .inl ⟨.inl affirmed, true, if_pos affirmed⟩
  · by_cases denied : asciiLower word ∈ falseWords
    · exact .inl ⟨.inr denied, false, by rw [if_neg affirmed, if_pos denied]⟩
    · exact .inr ⟨not_or.mpr ⟨affirmed, denied⟩, by rw [if_neg affirmed, if_neg denied]⟩

theorem switch_cases (ungiven : sources.given = []) :
    ((∃ disabled, readSetting sources disabledName false readTruth = .ok disabled) ∧
        ¬ Spoils sources ⟨disabledName, .unreadableTruthValue⟩) ∨
      readSetting sources disabledName false readTruth =
          .error ⟨disabledName, .unreadableTruthValue⟩ ∧
        Spoils sources ⟨disabledName, .unreadableTruthValue⟩ := by
  unfold readSetting Spoils
  rw [raw_value_of_ungiven ungiven]
  cases set : writtenText? sources disabledName with
  | none => exact .inl ⟨⟨false, rfl⟩, by simp⟩
  | some word =>
      simp only [Option.map_some, readTruth]
      rcases truth_of_word_cases word with ⟨good, truth, known⟩ | ⟨unread, unknown⟩
      · rw [known]
        refine .inl ⟨⟨truth, rfl⟩, ?_⟩
        rintro ⟨-, other, same, unread⟩
        cases same
        exact unread good
      · rw [unknown]
        exact .inr ⟨rfl, trivial, word, rfl, unread⟩

theorem mem_unknown_names_iff (ungiven : sources.given = []) (name : String) :
    name ∈ unknownNames sources ↔ Spoils sources ⟨name, .unknownName⟩ := by
  have inFile : unknownNames sources = unknownInFile sources := by
    simp [unknownNames, unknownGiven, ungiven]
  rw [inFile, unknownInFile]
  constructor
  · intro listed
    obtain ⟨⟨known, value⟩, kept, rfl⟩ := List.mem_map.mp listed
    obtain ⟨present, strange⟩ := List.mem_filter.mp kept
    cases value with
    | none => simp at strange
    | some text =>
        simp only [Option.getD_some, Bool.and_eq_true, Bool.not_eq_true', List.contains_eq_mem,
          decide_eq_false_iff_not, String.isEmpty_eq_false_iff] at strange
        exact ⟨strange.1, text, present, strange.2⟩
  · rintro ⟨strange, text, present, filled⟩
    refine List.mem_map.mpr ⟨_, List.mem_filter.mpr ⟨present, ?_⟩, rfl⟩
    simp [strange, filled]

theorem cause_of_spoils {issue : Issue} (spoilt : Spoils sources issue) :
    issue = ⟨disabledName, .unreadableTruthValue⟩ ∨ issue = ⟨issue.field, .unknownName⟩ := by
  obtain ⟨field, cause⟩ := issue
  cases cause with
  | unreadableTruthValue =>
      obtain ⟨rfl, -⟩ := spoilt
      exact .inl rfl
  | unknownName => exact .inr rfl
  | _ => exact spoilt.elim

theorem mem_switch_issues_iff (ungiven : sources.given = []) (issue : Issue) :
    issue ∈ issueOf (readSetting sources disabledName false readTruth) ↔
      issue = ⟨disabledName, .unreadableTruthValue⟩ ∧ Spoils sources issue := by
  rcases switch_cases ungiven with ⟨⟨disabled, read⟩, unspoilt⟩ | ⟨unread, spoilt⟩
  · rw [read]
    refine iff_of_false List.not_mem_nil ?_
    rintro ⟨rfl, spoilt⟩
    exact unspoilt spoilt
  · rw [unread]
    simp only [issueOf, List.mem_singleton]
    constructor
    · rintro rfl
      exact ⟨rfl, spoilt⟩
    · exact And.left

def issues (sources : Sources) : List Issue :=
  issueOf (readSetting sources disabledName false readTruth) ++
    issueOf (readSetting sources levelName "INFO" readString) ++
    issueOf (readSetting sources formatName "json" readFormat) ++
    (unknownNames sources).map (⟨·, .unknownName⟩)

theorem ok_of_no_issue {Setting : Type} {read : Except Issue Setting} (clear : issueOf read = []) :
    ∃ setting, read = .ok setting := by
  cases read with
  | error issue => cases clear
  | ok setting => exact ⟨setting, rfl⟩

theorem load_of_no_issues (clear : issues sources = []) :
    ∃ settings, load sources = .ok settings := by
  simp only [issues, List.append_eq_nil_iff] at clear
  obtain ⟨⟨⟨switch, level⟩, format⟩, unknown⟩ := clear
  obtain ⟨disabled, switchRead⟩ := ok_of_no_issue switch
  obtain ⟨logLevel, levelRead⟩ := ok_of_no_issue level
  obtain ⟨logFormat, formatRead⟩ := ok_of_no_issue format
  refine ⟨⟨disabled, logLevel, logFormat⟩, ?_⟩
  simp only [load, switchRead, levelRead, formatRead, unknown, issueOf, List.append_nil]

theorem load_of_issues (spoilt : issues sources ≠ []) :
    load sources = .error (.refused (issues sources)) := by
  simp only [load]
  split
  · next clear => exact (spoilt clear).elim
  · rfl

/-- Settings for which nothing is given are refused for just what spoils them. -/
theorem mem_issues_iff (ungiven : sources.given = []) (issue : Issue) :
    issue ∈ issues sources ↔ Spoils sources issue := by
  have level := @no_issue_of_texts sources _ ungiven levelName "INFO" readString
    fun text => ⟨text, rfl⟩
  have format := @no_issue_of_texts sources _ ungiven formatName "json" readFormat
    fun text => ⟨_, rfl⟩
  rw [issues, level, format, List.append_nil, List.append_nil, List.mem_append,
    mem_switch_issues_iff ungiven, List.mem_map]
  constructor
  · rintro (⟨-, spoilt⟩ | ⟨name, listed, rfl⟩)
    · exact spoilt
    · exact (mem_unknown_names_iff ungiven name).mp listed
  · intro spoilt
    rcases cause_of_spoils spoilt with same | same
    · exact .inl ⟨same, spoilt⟩
    · rw [same] at spoilt
      exact .inr ⟨issue.field, (mem_unknown_names_iff ungiven _).mpr spoilt, same.symm⟩

theorem readable_iff_no_issues (ungiven : sources.given = []) :
    Readable sources ↔ issues sources = [] := by
  simp only [Readable, List.eq_nil_iff_forall_not_mem, mem_issues_iff ungiven]

theorem load_cases (ungiven : sources.given = []) :
    (Readable sources ∧ ∃ settings, load sources = .ok settings) ∨
      ¬ Readable sources ∧ issues sources ≠ [] ∧
        load sources = .error (.refused (issues sources)) := by
  rw [readable_iff_no_issues ungiven]
  by_cases clear : issues sources = []
  · exact .inl ⟨clear, load_of_no_issues clear⟩
  · exact .inr ⟨clear, clear, load_of_issues clear⟩

end Settings

namespace Deployment

def sources (deployment : Deployment) : Settings.Sources where
  environment := deployment.environment
  file := deployment.file

def Readable (deployment : Deployment) : Prop := Settings.Readable deployment.sources

theorem readable_iff (deployment : Deployment) :
    deployment.Readable ↔ (deployment.load []).toOption.isSome = true := by
  have loads : deployment.load [] = Settings.load deployment.sources := rfl
  rw [loads]
  rcases @Settings.load_cases deployment.sources rfl with
    ⟨readable, settings, read⟩ | ⟨unreadable, -, refused⟩
  · rw [read]
    exact iff_of_true readable rfl
  · rw [refused]
    exact iff_of_false unreadable Bool.noConfusion

end Deployment

namespace Session

variable {State : Type}

/-- Without settings of its own, a configured strategy has the policy of its texts, or else nothing has
happened but that these were reported. -/
theorem config_cases (session : Session State) (idle cycle : Option String) :
    ((session.deployment.cached ≠ none ∨ session.deployment.Readable) ∧
        ∃ next strategy, session.construct (.config idle cycle none) = (next, .ok strategy) ∧
          strategy.policy = (Policy.parseConfig idle cycle).1) ∨
      ¬ (session.deployment.cached ≠ none ∨ session.deployment.Readable) ∧
        Settings.issues session.deployment.sources ≠ [] ∧
        session.construct (.config idle cycle none) =
          (session.logWarnings (Policy.parseConfig idle cycle).2,
            .error (.refused (Settings.issues session.deployment.sources))) := by
  have made : session.construct (.config idle cycle none) =
      session.strategyFrom none (Policy.parseConfig idle cycle) := rfl
  have warned : (session.logWarnings (Policy.parseConfig idle cycle).2).deployment =
      session.deployment := rfl
  have loads : session.deployment.load [] = Settings.load session.deployment.sources := rfl
  rw [made]
  simp only [strategyFrom, warned]
  rcases session.deployment.settings_cases with
    ⟨settings, asked, known⟩ | ⟨failure, asked, fresh, unread⟩
  · rw [asked]
    refine .inl ⟨?_, _, _, rfl, rfl⟩
    rcases known with kept | ⟨-, read⟩
    · rw [kept]
      exact .inl (Option.some_ne_none settings)
    · rw [Deployment.readable_iff, read]
      exact .inr rfl
  · rw [asked]
    rcases @Settings.load_cases session.deployment.sources rfl with
      ⟨-, settings, read⟩ | ⟨unreadable, nonempty, refused⟩
    · rw [loads, read] at unread
      cases unread
    · rw [loads, refused] at unread
      cases unread
      exact .inr ⟨not_or.mpr ⟨not_not.mpr fresh, unreadable⟩, nonempty, rfl⟩

end Session

namespace Process

variable {State : Type} {behaviour : Behaviour State}

def Asks (process : Process State) : Deed State → Prop
  | .build _ source => process.fleet.session.asks source = true
  | .setup none => True
  | _ => False

theorem reading_isSome_iff (process : Process State) (deed : Deed State) :
    (process.reading? deed).isSome = true ↔ process.Asks deed ∧ process.deployment.Readable := by
  rw [Deployment.readable_iff]
  cases deed with
  | setEnvironment environment => simp [reading?, Asks]
  | setFile file => simp [reading?, Asks]
  | visit move => simp [reading?, Asks]
  | build id source =>
      simp only [reading?, Asks]
      split <;> simp_all
  | setup given =>
      cases given with
      | none => simp [reading?, Asks]
      | some given => simp [reading?, Asks]

/-- Something was read just when some deed asked for the settings at a time when they could be read. -/
theorem first_read_isSome_iff (process : Process State) (deeds : List (Deed State)) :
    (process.firstRead behaviour deeds).isSome = true ↔
      ∃ before deed later, deeds = before ++ deed :: later ∧
        (process.after behaviour before).Asks deed ∧
        (process.after behaviour before).deployment.Readable := by
  induction deeds generalizing process with
  | nil => simp [firstRead]
  | cons deed deeds ih =>
      rw [firstRead, Option.isSome_or, Bool.or_eq_true, reading_isSome_iff, ih]
      constructor
      · rintro (now | ⟨before, other, later, rfl, asked⟩)
        · exact ⟨[], deed, deeds, rfl, now⟩
        · exact ⟨deed :: before, other, later, rfl, asked⟩
      · rintro ⟨before, other, later, same, asked⟩
        cases before with
        | nil =>
            cases same
            exact .inl asked
        | cons first before =>
            cases same
            exact .inr ⟨before, other, later, rfl, asked⟩

/-- Two texts without settings make a strategy, with the policy of the texts, just when settings are
kept or can be read; if not, the strategy is refused for what spoils them, and nothing has happened
but that malformed texts were reported. A process that starts with no settings keeps some just when
something asked for them at a time when they could be read. -/
theorem config_builds_iff_settings_read (behaviour : Behaviour State) {process : Process State}
    (fresh : process.deployment.cached = none) (deeds : List (Deed State))
    (idle cycle : Option String) :
    let here := process.after behaviour deeds
    let made := here.fleet.session.construct (.config idle cycle none)
    let readBefore := ∃ before deed later, deeds = before ++ deed :: later ∧
      (process.after behaviour before).Asks deed ∧
      (process.after behaviour before).deployment.Readable
    ((∃ strategy, made.2 = .ok strategy) ↔ readBefore ∨ here.deployment.Readable) ∧
    (∀ strategy, made.2 = .ok strategy → strategy.policy = (Policy.parseConfig idle cycle).1) ∧
    ∀ failure, made.2 = .error failure →
      made.1 = here.fleet.session.logWarnings (Policy.parseConfig idle cycle).2 ∧
        ∃ issues, failure = .refused issues ∧ issues ≠ [] ∧
          ∀ issue, issue ∈ issues ↔ Settings.Spoils here.deployment.sources issue := by
  intro here made readBefore
  have kept : here.fleet.session.deployment.cached ≠ none ↔ readBefore := by
    have cached : here.deployment.cached = process.firstRead behaviour deeds := by
      rw [cached_after, fresh, Option.none_or]
    change here.deployment.cached ≠ none ↔ readBefore
    rw [cached, ← Option.isSome_iff_ne_none, first_read_isSome_iff]
  rcases here.fleet.session.config_cases idle cycle with
    ⟨known, next, strategy, result, policy⟩ | ⟨unknown, nonempty, result⟩
  · rw [kept] at known
    have same : made = (next, .ok strategy) := result
    rw [same]
    refine ⟨iff_of_true ⟨strategy, rfl⟩ known, ?_, nofun⟩
    rintro other ⟨⟩
    exact policy
  · rw [kept] at unknown
    have same : made = (_, .error (.refused _)) := result
    rw [same]
    refine ⟨iff_of_false nofun unknown, nofun, ?_⟩
    rintro failure ⟨⟩
    exact ⟨rfl, _, rfl, nonempty, Settings.mem_issues_iff rfl⟩

/-- The switch is set to a word for a truth value, something asks for the settings, and then the switch
is misspelt. -/
def misspellings : List (Deed Script) :=
  [ .setEnvironment [("RETENTION_DISABLED", "Yes")],
    .setup none,
    .setEnvironment [("RETENTION_DISABLED", "maybe")] ]

theorem misspelt_switch_is_passed_over :
    fresh.deployment.cached = none ∧
      ¬ (fresh.after Script.behaviour misspellings).deployment.Readable ∧
      ∃ strategy, ((fresh.after Script.behaviour misspellings).fleet.session.construct
          (.config (some "15") (some "-5") none)).2 = .ok strategy ∧
        strategy.policy = ⟨15, 5⟩ := by
  have unread : fresh.deployment.cached = none := rfl
  have misspelt : ¬ (fresh.after Script.behaviour misspellings).deployment.Readable := by
    rw [Deployment.readable_iff]
    decide +kernel
  have readable : (fresh.after Script.behaviour
      [.setEnvironment [("RETENTION_DISABLED", "Yes")]]).deployment.Readable := by
    rw [Deployment.readable_iff]
    decide +kernel
  obtain ⟨built, policy, -⟩ := config_builds_iff_settings_read Script.behaviour unread
    misspellings (some "15") (some "-5")
  obtain ⟨strategy, made⟩ := built.mpr (.inl ⟨[_], _, _, rfl, trivial, readable⟩)
  exact ⟨unread, misspelt, strategy, made, policy strategy made⟩

end Process

namespace Session

def openedIn (deployment : Deployment) : Session Script := { opened with deployment := deployment }

/-- A switch that is no truth value keeps a strategy from being configured, and so does an unknown name
in the settings file. -/
theorem configuration_fails_on_settings :
    ((openedIn { environment := [("RETENTION_DISABLED", "maybe")] }).construct
        (.config (some "15") (some "5") none)).2 =
      .error (.refused [⟨"retention_disabled", .unreadableTruthValue⟩]) ∧
    ((openedIn { file := some "RETENTION_DISABLED=no\nAPI_TOKEN=x" }).construct
        (.config (some "15") (some "5") none)).2 =
      .error (.refused [⟨"api_token", .unknownName⟩]) := by
  constructor
  · rfl
  · rfl

end Session

end Teardown
