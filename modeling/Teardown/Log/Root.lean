import Teardown.Log.Record
import Teardown.Deployment

/-!
# The root logger

The root logger has a level and handlers, each of which writes every record that is not below the
level, in its own form. Setting up the log adds a handler and sets the level, in this order.
-/

namespace Teardown.Log

set_option autoImplicit false

inductive Form where
  | json
  | plain
  deriving DecidableEq, Repr

/-- Every other name than that of the JSON form asks for plain lines. -/
def Form.ofName (name : String) : Form := if name = "json" then .json else .plain

structure Root where
  level : Int
  handlers : List Form
  deriving DecidableEq, Repr

namespace Root

def initial : Root where
  level := warningLevel
  handlers := []

/-- The handler stays when the name of the level stands for no level. -/
def setup (root : Root) (level format : String) : Root × Except Failure Unit :=
  let equipped := { root with handlers := root.handlers ++ [Form.ofName format] }
  match levelOfName level with
  | .ok number => ({ equipped with level := number }, .ok ())
  | .error failure => (equipped, .error failure)

def setupFrom (root : Root) (settings : Settings) : Root × Except Failure Unit :=
  root.setup settings.logLevel settings.logFormat

def setupFromDeployment (root : Root) (deployment : Deployment)
    (given : Option (List (String × Value))) : Deployment × Root × Except Failure Unit :=
  let (read, settings) :=
    match given with
    | some given => (deployment, deployment.load given)
    | none => deployment.settings
  match settings with
  | .error failure => (read, root, .error failure)
  | .ok settings =>
      let (equipped, result) := root.setupFrom settings
      (read, equipped, result)

/-- Level zero means no level, so nothing is logged at it or below it. -/
def passes (root : Root) (level : Int) : Bool := 0 < level && root.level ≤ level

def reservedFields : List String :=
  [ "message", "asctime", "name", "msg", "args", "levelname", "levelno", "pathname", "filename",
    "module", "exc_info", "exc_text", "stack_info", "lineno", "funcName", "created", "msecs",
    "relativeCreated", "thread", "threadName", "processName", "process" ]

/-- What a handler writes of a record; a record that it cannot format is not written. -/
def written (form : Form) (record : Record) (time : String) : String :=
  let line :=
    match form with
    | .json => record.jsonLine time
    | .plain => record.plainLine time
  match line with
  | .ok text => text ++ "\n"
  | .error _ => ""

def named (record : Record) : Record :=
  if record.logger.isEmpty then { record with logger := "root" } else record

def emit (root : Root) (record : Record) (time : String) : Except Failure (List String) :=
  if root.passes record.level then
    match record.fields.find? fun field => reservedFields.contains field.1 with
    | some field => .error (.reservedField field.1)
    | none => .ok (root.handlers.map fun form => written form (named record) time)
  else .ok (root.handlers.map fun _ => "")

end Root

end Teardown.Log
