import Teardown.Duration
import Teardown.Foreign.Wording
import Teardown.Mismatch
import Teardown.Template.Fault

/-!
# Failures

Every way in which a call can fail, as its cause: the errors of the retention rules, what the
collaborators raise, and refused numbers, settings, arguments and log records. A failure has a
name, a text and a family; the family decides who may handle it.
-/

namespace Teardown

set_option autoImplicit false

inductive Severity where
  | warning
  | error
  deriving DecidableEq, Repr

def Severity.text : Severity → String
  | .warning => "warning"
  | .error => "error"

def Severity.all : List Severity := [.warning, .error]

inductive Category where
  | validation
  | externalApi
  deriving DecidableEq, Repr

def Category.text : Category → String
  | .validation => "validation"
  | .externalApi => "external_api"

def Category.all : List Category := [.validation, .externalApi]

structure ErrorContext where
  nodeName : Option String := none
  fieldName : Option String := none
  deriving DecidableEq, Repr

inductive ErrorDetail where
  | general
  | factFetch (reason : String)
  | invalidPolicy (value : Value)
  deriving Repr

structure RetentionError where
  detail : ErrorDetail
  message : String
  code : String
  category : Category
  severity : Severity
  context : ErrorContext
  deriving Repr

/-- One error object that several calls may raise; its context outlives each of them. -/
inductive ErrorId where
  | shared (name : String)
  | made (node : String) (serial : Nat)
  deriving DecidableEq, Repr

namespace RetentionError

def factFetch (message reason : String) (context : ErrorContext) : RetentionError where
  detail := .factFetch reason
  message := "Fact fetch failed (" ++ reason ++ "): " ++ message
  code := "FACT_FETCH_FAILED"
  category := .externalApi
  severity := .warning
  context := context

def defaultReason : String := "api_error"

def isFactFetch (error : RetentionError) : Bool :=
  match error.detail with
  | .factFetch _ => true
  | _ => false

def name (error : RetentionError) : String :=
  match error.detail with
  | .general => "RetentionError"
  | .factFetch _ => "FactFetchError"
  | .invalidPolicy _ => "InvalidPolicyError"

/-- The fields of a log record about the error, without those that are not known. -/
def logFields (error : RetentionError) : List (String × Value) :=
  [ ("error_code", Value.string error.code),
    ("error_category", .string error.category.text),
    ("error_severity", .string error.severity.text) ] ++
  (error.context.nodeName.map fun node => ("node_name", Value.string node)).toList ++
  (error.context.fieldName.map fun field => ("field_name", Value.string field)).toList

end RetentionError

inductive IssueCause where
  | notAMapping
  | notAString
  | notATruthValue
  | unreadableTruthValue
  | unknownName
  | numeralTooLong
  deriving DecidableEq, Repr

structure Issue where
  field : String
  cause : IssueCause
  deriving DecidableEq, Repr

def tooManyDigits : String :=
  "Exceeds the limit (4300 digits) for integer string conversion; " ++
    "use sys.set_int_max_str_digits() to increase the limit"

def IssueCause.kind : IssueCause → String
  | .notAMapping => "model_type"
  | .notAString => "string_type"
  | .notATruthValue => "bool_type"
  | .unreadableTruthValue => "bool_parsing"
  | .unknownName => "extra_forbidden"
  | .numeralTooLong => "value_error"

def IssueCause.message : IssueCause → String
  | .notAMapping => "Input should be a valid dictionary or instance of RetentionDefinition"
  | .notAString => "Input should be a valid string"
  | .notATruthValue => "Input should be a valid boolean"
  | .unreadableTruthValue => "Input should be a valid boolean, unable to interpret input"
  | .unknownName => "Extra inputs are not permitted"
  | .numeralTooLong => "Value error, " ++ tooManyDigits

def Issue.text (issue : Issue) : String :=
  issue.field ++ " [" ++ issue.cause.kind ++ "] " ++ issue.cause.message

inductive Failure where
  | retention (error : RetentionError) (identity : Option ErrorId)
  | foreign (error : Foreign)
  | misfit (cause : Foreign.Misfit)
  | numeralTooLong
  | daysOutOfRange (error : DaysOutOfRange)
  | zeroDivisor
  | refused (issues : List Issue)
  | levelIsText (text : String)
  | levelIsTable (text : String)
  | template (fault : Template.Fault)
  | reservedField (field : String)
  | mismatch (cause : Mismatch)
  | unknownKey (key : Value)
  | unknownWord (given : Value) (vocabulary : String)
  | lostText
  deriving Repr

namespace Failure

def cancelled : Failure := .foreign ⟨"CancelledError", []⟩

def noNode : Failure := .mismatch (.missingProperty "NoneType" "name")

def name : Failure → String
  | .retention error _ => error.name
  | .foreign error => error.name
  | .misfit cause => cause.name
  | .numeralTooLong => "ValueError"
  | .daysOutOfRange _ => "OverflowError"
  | .zeroDivisor => "ZeroDivisionError"
  | .refused _ => "ValidationError"
  | .levelIsText _ => "ValueError"
  | .levelIsTable _ => "TypeError"
  | .template fault => fault.name
  | .reservedField _ => "KeyError"
  | .mismatch cause => cause.name
  | .unknownKey _ => "KeyError"
  | .unknownWord _ _ => "ValueError"
  | .lostText => "SystemError"

/-- The name with the place that defines it, as it stands in front of a logged failure. -/
def qualifiedName (failure : Failure) : String :=
  match failure with
  | .retention error _ => "node_retention.core.errors." ++ error.name
  | .foreign error =>
      if error.family = .cancellation then "asyncio.exceptions." ++ error.name else error.name
  | _ => failure.name

def family : Failure → Family
  | .foreign error => error.family
  | _ => .ordinary

/-- Handlers of last resort stop every failure but a cancellation and the fatal ones. -/
def isOrdinary (failure : Failure) : Bool :=
  match failure.family with
  | .cancellation | .fatal => false
  | _ => true

/-- The text of a failure; a number with too many digits in it, or a character before a text, makes
a failure of its own. -/
def text : Failure → Except Failure String
  | .retention error _ => .ok error.message
  | .foreign error =>
      if error.pointsBeforeText then .error .lostText
      else
        match error.text? with
        | some text => .ok text
        | none => .error .numeralTooLong
  | .misfit cause => .ok cause.message
  | .numeralTooLong => .ok tooManyDigits
  | .daysOutOfRange error => .ok error.message
  | .zeroDivisor => .ok "integer modulo by zero"
  | .refused issues => .ok (String.intercalate "; " (issues.map Issue.text))
  | .levelIsText level => .ok ("Unknown level: " ++ Text.quoted level)
  | .levelIsTable table => .ok ("Level not an integer or a valid string: " ++ table)
  | .template fault => .ok fault.message
  | .reservedField field =>
      .ok (Text.quoted ("Attempt to overwrite " ++ Text.quoted field ++ " in LogRecord"))
  | .mismatch cause => .ok cause.message
  | .unknownKey key =>
      match key.nestedText? with
      | some text => .ok text
      | none => .error .numeralTooLong
  | .unknownWord given vocabulary =>
      match given.nestedText? with
      | some text => .ok (text ++ " is not a valid " ++ vocabulary)
      | none => .error .numeralTooLong
  | .lostText => .ok "<class 'str'> returned a result with an exception set"

/-- An end-of-iteration signal cannot leave an asynchronous call; it becomes an ordinary error. -/
def leavingCall : Failure → Failure
  | .foreign error =>
      if error.family = .exhausted then
        .foreign ⟨"RuntimeError", [.string "coroutine raised StopIteration"]⟩
      else .foreign error
  | failure => failure

end Failure

def wording (value : Value) : Except Failure String :=
  match value.text? with
  | some text => .ok text
  | none => .error .numeralTooLong

def readWord {Word : Type} (vocabulary : String) (words : List Word) (text : Word → String)
    (value : Value) : Except Failure Word :=
  match value with
  | .string given =>
      match words.find? fun word => text word == given with
      | some word => .ok word
      | none => .error (.unknownWord value vocabulary)
  | _ => .error (.unknownWord value vocabulary)

def Severity.read (value : Value) : Except Failure Severity :=
  readWord "ErrorSeverity" Severity.all Severity.text value

def Category.read (value : Value) : Except Failure Category :=
  readWord "ErrorCategory" Category.all Category.text value

def RetentionError.invalidPolicy (field : String) (value : Value) :
    Except Failure RetentionError := do
  return {
    detail := .invalidPolicy value
    message := field ++ " must be >= 0, got " ++ (← wording value)
    code := "INVALID_POLICY"
    category := .validation
    severity := .error
    context := { fieldName := some field } }

end Teardown
