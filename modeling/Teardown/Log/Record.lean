import Teardown.Json.Writer
import Teardown.Log.Attached
import Teardown.Log.Level
import Teardown.Log.Shown
import Teardown.Template.Filling

/-!
# Log records

A record and its two written forms: a JSON object on one line, with the known fields that are set,
and a plain line. The time of writing is given from outside. A field with the name of one of the
record's own attributes stands in its place.
-/

namespace Teardown.Log

set_option autoImplicit false

structure Record where
  logger : String
  level : Int
  template : String
  arguments : List Value := []
  fields : List (String × Value) := []
  failure : Option Failure := none
  deriving Repr

def shownFields : List String :=
  [ "node_name", "decision", "trigger", "skip_reason", "idle_minutes",
    "cycle_remaining_minutes", "error_code", "error_category", "field_name" ]

namespace Record

def field? (record : Record) (name : String) : Option Value :=
  record.fields.lookup name

def property (record : Record) (name : String) (own : Value) : Value :=
  (record.field? name).getD own

def levelWord (record : Record) : Value :=
  record.property "levelname" (.string (levelName record.level))

def loggerWord (record : Record) : Value :=
  record.property "name" (.string record.logger)

/-- What fills the template. A value in the place of the arguments is a single one, and none if it
counts as absent. A mapping that holds something and is the only argument stands for all of them. -/
def supply (record : Record) : Template.Supply :=
  match record.field? "args", record.arguments with
  | some value, _ => if value.isPresent then .ofValue value else .ofValues []
  | none, [.mapping (entry :: entries)] => .ofValue (.mapping (entry :: entries))
  | none, arguments => .ofValues arguments

/-- A template that nothing fills is its own message. A field can hide the way to make a message,
and then there is none. -/
def message (record : Record) : Except Failure String := do
  if let some cover := record.field? "getMessage" then
    throw (.mismatch (.notCallable cover.kindName))
  let template ← wording (record.property "msg" (.string record.template))
  if record.supply.values.isEmpty then return template
  Template.fill template record.supply

def shownEntries (record : Record) : List (Value × Value) :=
  shownFields.filterMap fun name =>
    match record.field? name with
    | none | some .null => none
    | some value => some (.string name, value)

def failureText (record : Record) : Except Failure (Option String) :=
  match record.field? "exc_info", record.failure with
  | some value, _ => if value.isPresent then (attachedText value).map some else .ok none
  | none, some failure => (shown failure).map some
  | none, none => .ok none

/-- The object that the JSON line of a record shows. -/
def document (record : Record) (time message : String) (failure : Option String) : Value :=
  .mapping (
    [ (.string "timestamp", .string time),
      (.string "level", record.levelWord),
      (.string "logger", record.loggerWord),
      (.string "message", .string message) ] ++
    record.shownEntries ++
    (failure.map fun text => (Value.string "exception", Value.string text)).toList)

def jsonLine (record : Record) (time : String) : Except Failure String := do
  let message ← record.message
  let failure ← record.failureText
  match Json.text? (record.document time message failure) with
  | some line => return line
  | none => throw .numeralTooLong

def plainLine (record : Record) (time : String) : Except Failure String := do
  let message ← record.message
  let line := time ++ " " ++ (← wording record.levelWord) ++ " " ++ (← wording record.loggerWord) ++
    " - " ++ message
  match ← record.failureText with
  | none => return line
  | some text => return line ++ (if line.endsWith "\n" then "" else "\n") ++ text

end Record

end Teardown.Log
