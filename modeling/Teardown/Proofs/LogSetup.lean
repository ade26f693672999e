import Mathlib.Data.List.Basic
import Teardown.Log.Root

/-!
# Setting up the log

The name of a level, in capitals, is one of the standard names, or it is unknown and stands for plain
information, or it is one of two names of something else. A set-up with a name of the last kind is
broken off when its handler is in place already. Any other is made in full or leaves the root logger
alone, so the handlers of the root logger count the set-ups that were made and those broken off.
-/

namespace Teardown.Log

set_option autoImplicit false

def standardLevels : List (String × Int) :=
  [ ("CRITICAL", 50), ("FATAL", 50), ("ERROR", 40), ("WARNING", 30), ("WARN", 30), ("INFO", 20),
    ("DEBUG", 10), ("NOTSET", 0) ]

def denotedLevel (capitals : String) : Int := (standardLevels.lookup capitals).getD 20

/-- Names in capitals that are known for something else than a level. -/
def misleadingNames : List String := ["BASIC_FORMAT", "_STYLES"]

theorem lookup_map_value {Key First Second : Type} [BEq Key] (assign : First → Second)
    (table : List (Key × First)) (key : Key) :
    (table.map fun entry => (entry.1, assign entry.2)).lookup key =
      (table.lookup key).map assign := by
  induction table with
  | nil => rfl
  | cons entry table ih =>
      obtain ⟨known, item⟩ := entry
      simp only [List.map_cons, List.lookup_cons, ih]
      cases key == known with
      | true => rfl
      | false => rfl

theorem meaning_table_eq : meaningTable =
    standardLevels.map (fun entry => (entry.1, NameMeaning.level entry.2)) ++
      [("BASIC_FORMAT", .text basicFormat), ("_STYLES", .table styleTable)] := rfl

theorem level_of_name_cases (name : String) :
    (upperName name ∉ misleadingNames ∧ levelOfName name = .ok (denotedLevel (upperName name))) ∨
      upperName name ∈ misleadingNames ∧ ∃ failure, levelOfName name = .error failure := by
  simp only [levelOfName, nameMeaning, denotedLevel]
  generalize upperName name = capitals
  by_cases misleading : capitals ∈ misleadingNames
  · refine .inr ⟨misleading, ?_⟩
    simp only [misleadingNames, List.mem_cons, List.not_mem_nil, or_false] at misleading
    rcases misleading with rfl | rfl
    · exact ⟨.levelIsText basicFormat, rfl⟩
    · exact ⟨.levelIsTable styleTable, rfl⟩
  · refine .inl ⟨misleading, ?_⟩
    have unlisted : List.lookup capitals
        [("BASIC_FORMAT", NameMeaning.text basicFormat), ("_STYLES", .table styleTable)] = none := by
      simpa [misleadingNames] using misleading
    rw [meaning_table_eq, List.lookup_append, unlisted, Option.or_none, lookup_map_value]
    cases standardLevels.lookup capitals with
    | none => rfl
    | some level => rfl

def IsPlain (text : List Char) : Prop := ∀ letter ∈ text, letter.toNat < 0x80

instance (text : List Char) : Decidable (IsPlain text) :=
  List.decidableBAll (fun letter : Char => letter.toNat < 0x80) text

/-- A way of writing capitals is bound to the upper-case forms made of plain letters. What it makes of
the other characters is left open, but that it is not plain. -/
structure WritesCapitals (capitals : Char → List Char) : Prop where
  plain : ∀ character, IsPlain (upperForm character) → capitals character = upperForm character
  strange : ∀ character, ¬ IsPlain (upperForm character) → ¬ IsPlain (capitals character)

def inCapitals (capitals : Char → List Char) (name : String) : String :=
  String.ofList (name.toList.flatMap capitals)

theorem not_plain_of_mem {forms : Char → List Char} {text : List Char} {character : Char}
    (present : character ∈ text) (strange : ¬ IsPlain (forms character)) :
    ¬ IsPlain (text.flatMap forms) := by
  intro plain
  apply strange
  intro letter written
  exact plain letter (List.mem_flatMap.mpr ⟨character, present, written⟩)

/-- However capitals are written, a name is a plain text in capitals just when it is so in the
upper-case forms. -/
theorem in_capitals_eq_iff {capitals : Char → List Char} (writes : WritesCapitals capitals)
    {target : String} (plain : IsPlain target.toList) (name : String) :
    inCapitals capitals name = target ↔ upperName name = target := by
  by_cases forms : ∀ character ∈ name.toList, IsPlain (upperForm character)
  · have same : name.toList.flatMap capitals = name.toList.flatMap upperForm :=
      List.flatMap_congr fun character present => writes.plain character (forms character present)
    rw [inCapitals, upperName, same]
  · push Not at forms
    obtain ⟨character, present, strange⟩ := forms
    have differs := not_plain_of_mem present (writes.strange character strange)
    have formsDiffer := not_plain_of_mem present strange
    constructor
    · rintro rfl
      exact absurd (by simpa [inCapitals] using plain) differs
    · rintro rfl
      exact absurd (by simpa [upperName] using plain) formsDiffer

theorem lookup_congr {Key Item : Type} [BEq Key] [LawfulBEq Key] {key other : Key}
    {table : List (Key × Item)} (same : ∀ entry ∈ table, key = entry.1 ↔ other = entry.1) :
    table.lookup key = table.lookup other := by
  induction table with
  | nil => rfl
  | cons entry table ih =>
      have rest := ih fun entry present => same entry (List.mem_cons_of_mem _ present)
      have first : (key == entry.1) = (other == entry.1) := by
        rw [Bool.eq_iff_iff, beq_iff_eq, beq_iff_eq]
        exact same entry List.mem_cons_self
      rw [List.lookup_cons, List.lookup_cons, first, rest]

theorem denoted_level_of_capitals {capitals : Char → List Char} (writes : WritesCapitals capitals)
    (name : String) :
    denotedLevel (inCapitals capitals name) = denotedLevel (upperName name) := by
  have plain : ∀ entry ∈ standardLevels, IsPlain entry.1.toList := by decide
  rw [denotedLevel, denotedLevel,
    lookup_congr fun entry listed => in_capitals_eq_iff writes (plain entry listed) name]

theorem misleading_of_capitals {capitals : Char → List Char} (writes : WritesCapitals capitals)
    (name : String) :
    inCapitals capitals name ∈ misleadingNames ↔ upperName name ∈ misleadingNames := by
  have plain : ∀ target ∈ misleadingNames, IsPlain target.toList := by decide
  constructor
  · intro listed
    rwa [(in_capitals_eq_iff writes (plain _ listed) name).mp rfl]
  · intro listed
    rwa [(in_capitals_eq_iff writes (plain _ listed) name).mpr rfl]

/-- A call to set the log up: with a level and a format, with settings, or with those of a deployment
as it stands when the call is made. -/
inductive SetupCall where
  | named (level format : String)
  | settled (settings : Settings)
  | deployed (deployment : Deployment) (given : Option (List (String × Value)))

namespace SetupCall

/-- The level and the format that a call comes to ask for, unless its settings cannot be read. -/
def asked : SetupCall → Except Failure (String × String)
  | .named level format => .ok (level, format)
  | .settled settings => .ok (settings.logLevel, settings.logFormat)
  | .deployed deployment given =>
      let settings :=
        match given with
        | some given => deployment.load given
        | none => deployment.settings.2
      settings.map fun settings => (settings.logLevel, settings.logFormat)

def misleads (call : SetupCall) : Bool :=
  match call.asked with
  | .ok (level, _) => misleadingNames.contains (upperName level)
  | .error _ => false

end SetupCall

namespace Root

def perform (root : Root) : SetupCall → Root × Except Failure Unit
  | .named level format => root.setup level format
  | .settled settings => root.setupFrom settings
  | .deployed deployment given => (root.setupFromDeployment deployment given).2

theorem perform_eq (root : Root) (call : SetupCall) :
    root.perform call =
      match call.asked with
      | .ok (level, format) => root.setup level format
      | .error failure => (root, .error failure) := by
  cases call with
  | named level format => rfl
  | settled settings => rfl
  | deployed deployment given =>
      cases given with
      | some given =>
          simp only [perform, setupFromDeployment, SetupCall.asked]
          cases deployment.load given with
          | error failure => rfl
          | ok settings => rfl
      | none =>
          simp only [perform, setupFromDeployment, SetupCall.asked]
          rcases deployment.settings with ⟨read, failure | settings⟩
          · rfl
          · rfl

def setTo (root : Root) (level format : String) : Root where
  level := denotedLevel (upperName level)
  handlers := root.handlers ++ [if format = "json" then .json else .plain]

/-- What a call that is broken off leaves behind. -/
def withHandler (root : Root) (format : String) : Root :=
  { root with handlers := root.handlers ++ [if format = "json" then .json else .plain] }

/-- The call is made in full, or it fails and leaves the root logger alone. -/
def IsAtomic (root : Root) (call : SetupCall) : Prop :=
  (∃ level format, call.asked = .ok (level, format) ∧
      root.perform call = (root.setTo level format, .ok ())) ∨
    ∃ failure, root.perform call = (root, .error failure)

/-- A call is made in full, is broken off when its handler is in place, or cannot get its settings. -/
theorem perform_cases (root : Root) (call : SetupCall) :
    (call.misleads = false ∧ ∃ level format, call.asked = .ok (level, format) ∧
        root.perform call = (root.setTo level format, .ok ())) ∨
      (call.misleads = true ∧ ∃ level format failure, call.asked = .ok (level, format) ∧
        root.perform call = (root.withHandler format, .error failure)) ∨
      call.misleads = false ∧ ∃ failure, call.asked = .error failure ∧
        root.perform call = (root, .error failure) := by
  rw [perform_eq]
  unfold SetupCall.misleads
  cases call.asked with
  | error failure => exact .inr (.inr ⟨rfl, failure, rfl, rfl⟩)
  | ok asked =>
      obtain ⟨level, format⟩ := asked
      simp only [setup]
      rcases level_of_name_cases level with ⟨meant, known⟩ | ⟨misleading, failure, unknown⟩
      · rw [known]
        exact .inl ⟨by simpa using meant, level, format, rfl, rfl⟩
      · rw [unknown]
        exact .inr (.inl ⟨by simpa using misleading, level, format, failure, rfl, rfl⟩)

theorem with_handler_ne_self (root : Root) (format : String) :
    root.withHandler format ≠ root := by
  intro same
  have handlers := congrArg (·.handlers.length) same
  simp [withHandler] at handlers

theorem is_atomic_iff (root : Root) (call : SetupCall) :
    root.IsAtomic call ↔ call.misleads = false := by
  rcases root.perform_cases call with
    ⟨plain, made⟩ | ⟨misleads, level, format, failure, asked, broken⟩ | ⟨plain, failure, -, refused⟩
  · exact iff_of_true (.inl made) plain
  · refine iff_of_false ?_ (by simp [misleads])
    rintro (⟨_, _, -, made⟩ | ⟨other, refused⟩)
    · rw [broken] at made
      cases (Prod.ext_iff.mp made).2
    · rw [broken] at refused
      exact root.with_handler_ne_self format (Prod.ext_iff.mp refused).1
  · exact iff_of_true (.inr ⟨failure, refused⟩) plain

def performAll (root : Root) : List SetupCall → Root × List (Except Failure Unit)
  | [] => (root, [])
  | call :: calls =>
      let (next, result) := root.perform call
      let (last, results) := next.performAll calls
      (last, result :: results)

def successes (results : List (Except Failure Unit)) : Nat := results.countP (·.isOk)

theorem handlers_of_perform (root : Root) (call : SetupCall) :
    (root.perform call).1.handlers.length =
      root.handlers.length + successes [(root.perform call).2] + [call].countP (·.misleads) := by
  rcases root.perform_cases call with
    ⟨plain, _, _, -, made⟩ | ⟨misleads, _, _, _, -, broken⟩ | ⟨plain, _, -, refused⟩
  · simp [made, plain, setTo, successes, Except.isOk, Except.toBool]
  · simp [broken, misleads, withHandler, successes, Except.isOk, Except.toBool]
  · simp [refused, plain, successes, Except.isOk, Except.toBool]

theorem handlers_of_performAll (root : Root) (calls : List SetupCall) :
    (root.performAll calls).1.handlers.length =
      root.handlers.length + successes (root.performAll calls).2 +
        calls.countP (·.misleads) := by
  induction calls generalizing root with
  | nil => rfl
  | cons call calls ih =>
      have step := root.handlers_of_perform call
      have rest := ih (root.perform call).1
      have results : (root.performAll (call :: calls)).2 =
          [(root.perform call).2] ++ ((root.perform call).1.performAll calls).2 := rfl
      have last : (root.performAll (call :: calls)).1 =
          ((root.perform call).1.performAll calls).1 := rfl
      rw [← List.singleton_append, List.countP_append, List.singleton_append, results, last]
      simp only [successes, List.countP_append] at step rest ⊢
      omega

/-- A set-up of the log is atomic unless its level has the name of something else; then it fails with
its handler in place and the level as it was. So after any set-ups the handlers are as many as those
at the start and the set-ups that succeeded just when none had such a name. However capitals are
written, they leave the meaning of a level's name as it is. -/
theorem setup_is_atomic_unless_misled (root : Root) :
    (∀ call, root.IsAtomic call ↔ call.misleads = false) ∧
      (∀ call, call.misleads = true → ∃ level format failure, call.asked = .ok (level, format) ∧
        root.perform call = (root.withHandler format, .error failure)) ∧
      (∀ calls, (root.performAll calls).1.handlers.length =
        root.handlers.length + successes (root.performAll calls).2 +
          calls.countP (·.misleads)) ∧
      (∀ calls, (root.performAll calls).1.handlers.length =
          root.handlers.length + successes (root.performAll calls).2 ↔
        ∀ call ∈ calls, call.misleads = false) ∧
      ∀ capitals, WritesCapitals capitals → ∀ name,
        denotedLevel (inCapitals capitals name) = denotedLevel (upperName name) ∧
          (inCapitals capitals name ∈ misleadingNames ↔ upperName name ∈ misleadingNames) := by
  refine ⟨root.is_atomic_iff, ?_, root.handlers_of_performAll, ?_, ?_⟩
  · intro call misleads
    rcases root.perform_cases call with ⟨plain, -⟩ | ⟨-, broken⟩ | ⟨plain, -⟩
    · rw [plain] at misleads
      cases misleads
    · exact broken
    · rw [plain] at misleads
      cases misleads
  · intro calls
    have counted := root.handlers_of_performAll calls
    have none : calls.countP (·.misleads) = 0 ↔ ∀ call ∈ calls, call.misleads = false := by
      simp
    rw [← none]
    omega
  · intro capitals writes name
    exact ⟨denoted_level_of_capitals writes name, misleading_of_capitals writes name⟩

def accentedForm (character : Char) : List Char :=
  if character = 'é' then ['É'] else upperForm character

theorem accented_form_writes_capitals : WritesCapitals accentedForm := by
  have small : ¬ IsPlain (upperForm 'é') := by decide
  have capital : ¬ IsPlain (accentedForm 'é') := by decide
  constructor
  · intro character plain
    have other : character ≠ 'é' := fun same => small (same ▸ plain)
    rw [accentedForm, if_neg other]
  · intro character strange
    by_cases same : character = 'é'
    · exact same ▸ capital
    · rwa [accentedForm, if_neg same]

/-- A name with a dotless letter, a misleading one and an unknown one, one after the other. -/
theorem misled_setup_between_others_adds_handler :
    let calls : List SetupCall :=
      [.named "ınfo" "json", .named "_styles" "text", .settled { logLevel := "débug" }]
    initial.IsAtomic (.named "ınfo" "json") ∧
      (SetupCall.named "_styles" "text").misleads = true ∧
      (∃ failure, initial.perform (.named "_styles" "text") =
        (initial.withHandler "text", .error failure)) ∧
      (initial.performAll calls).1 = ⟨20, [.json, .plain, .json]⟩ ∧
      (initial.performAll calls).1.handlers.length = 0 + 2 + 1 ∧
      denotedLevel (inCapitals accentedForm "débug") = denotedLevel (upperName "débug") := by
  intro calls
  obtain ⟨atomic, broken, counted, -, capitals⟩ := setup_is_atomic_unless_misled initial
  have misleads : (SetupCall.named "_styles" "text").misleads = true := by decide +kernel
  obtain ⟨level, format, failure, asked, left⟩ := broken _ misleads
  cases asked
  exact ⟨(atomic _).mpr (by decide +kernel), misleads, ⟨failure, left⟩, by decide +kernel,
    counted calls, (capitals _ accented_form_writes_capitals _).1⟩

theorem handler_stays_of_misled_setup :
    let call := SetupCall.named "basic_format" "json"
    initial.perform call = (⟨30, [.json]⟩, .error (.levelIsText basicFormat)) ∧
      ¬ initial.IsAtomic call ∧
      (initial.performAll [call]).1.handlers.length ≠
        initial.handlers.length + successes (initial.performAll [call]).2 := by
  intro call
  have misleads : call.misleads = true := by decide +kernel
  refine ⟨by rfl, ?_, by decide +kernel⟩
  rw [is_atomic_iff, misleads]
  exact Bool.noConfusion

end Root

end Teardown.Log
