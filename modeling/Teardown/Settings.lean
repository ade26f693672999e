import Teardown.Failure
import Teardown.Settings.Dotenv
import Teardown.Text.Lowercase

/-!
# Settings

The settings of a process, from values given by name, the environment and a settings file, in
falling priority. Names are compared without regard to case. What is unreadable is refused, and so
are unknown names in the file and among the given values.
-/

namespace Teardown

set_option autoImplicit false

structure Settings where
  retentionDisabled : Bool := false
  logLevel : String := "INFO"
  logFormat : String := "json"
  deriving DecidableEq, Repr

namespace Settings

structure Sources where
  environment : List (String × String) := []
  file : Option String := none
  given : List (String × Value) := []

def disabledName : String := "retention_disabled"

def levelName : String := "log_level"

def formatName : String := "log_format"

def names : List String := [disabledName, levelName, formatName]

/-- The environment does not set one name twice, but it may in two spellings; the last one
counts. -/
def environmentValue? (environment : List (String × String)) (name : String) : Option String :=
  (environment.findRev? fun entry => Text.lowercase entry.1 == name).map (·.2)

def fileBindings (sources : Sources) : List Dotenv.Binding :=
  match sources.file with
  | none => []
  | some text =>
      (Dotenv.read sources.environment text).foldl
        (fun bindings binding => Dotenv.bind bindings (Text.lowercase binding.1) binding.2) []

/-- Of several spellings of a name the one that is given first counts. -/
def givenValue? (given : List (String × Value)) (name : String) : Option Value :=
  (given.find? fun entry => Text.lowercase entry.1 == name).map (·.2)

def rawValue? (sources : Sources) (name : String) : Option Value :=
  match givenValue? sources.given name with
  | some value => some value
  | none =>
      match environmentValue? sources.environment name with
      | some text => some (.string text)
      | none => (((fileBindings sources).lookup name).bind id).map Value.string

def asciiLower (text : String) : String :=
  String.ofList (text.toList.map Char.toLower)

def trueWords : List String := ["true", "t", "yes", "y", "on", "1"]

def falseWords : List String := ["false", "f", "no", "n", "off", "0"]

def truthOfWord (word : String) : Except IssueCause Bool :=
  if trueWords.contains (asciiLower word) then .ok true
  else if falseWords.contains (asciiLower word) then .ok false
  else .error .unreadableTruthValue

def truthOfNumber (number : Int) (otherwise : IssueCause) : Except IssueCause Bool :=
  if number = 1 then .ok true else if number = 0 then .ok false else .error otherwise

/-- Numbers equal to zero or one are truth values; any other number is unreadable if it is a whole
number of 64 bits and no truth value at all if not. -/
def readTruth : Value → Except IssueCause Bool
  | .bool flag => .ok flag
  | .string word => truthOfWord word
  | .int number =>
      truthOfNumber number
        (if -(Int.pow 2 63) ≤ number ∧ number < Int.pow 2 63 then .unreadableTruthValue
        else .notATruthValue)
  | .float number =>
      match number.toInt? with
      | some whole => truthOfNumber whole .notATruthValue
      | none => .error .notATruthValue
  | _ => .error .notATruthValue

def readString : Value → Except IssueCause String
  | .string text => .ok text
  | _ => .error .notAString

/-- Any spelling of `json` is that format, and all else is plain text. -/
def readFormat (value : Value) : Except IssueCause String :=
  (readString value).map fun text =>
    if Text.lowercase (Text.strip text) = "json" then "json" else "text"

def readSetting {α : Type} (sources : Sources) (name : String) (default : α)
    (read : Value → Except IssueCause α) : Except Issue α :=
  match rawValue? sources name with
  | none => .ok default
  | some value => (read value).mapError (⟨name, ·⟩)

/-- Unknown names of the settings file with a value that is not empty. -/
def unknownInFile (sources : Sources) : List String :=
  ((fileBindings sources).filter fun binding =>
    !names.contains binding.1 && !(binding.2.getD "").isEmpty).map (·.1)

def unknownGiven (sources : Sources) : List String :=
  (sources.given.map (·.1)).filter fun name => !names.contains (Text.lowercase name)

/-- The unknown names, each once: those of the file first. -/
def unknownNames (sources : Sources) : List String :=
  let inFile := unknownInFile sources
  inFile ++ (unknownGiven sources).filter fun name => !inFile.contains name

def issueOf {α : Type} : Except Issue α → List Issue
  | .ok _ => []
  | .error issue => [issue]

def load (sources : Sources) : Except Failure Settings :=
  let disabled := readSetting sources disabledName false readTruth
  let level := readSetting sources levelName "INFO" readString
  let format := readSetting sources formatName "json" readFormat
  let issues := issueOf disabled ++ issueOf level ++ issueOf format ++
    (unknownNames sources).map (⟨·, .unknownName⟩)
  match disabled, level, format, issues with
  | .ok retentionDisabled, .ok logLevel, .ok logFormat, [] =>
      .ok ⟨retentionDisabled, logLevel, logFormat⟩
  | _, _, _, _ => .error (.refused issues)

end Settings

end Teardown
