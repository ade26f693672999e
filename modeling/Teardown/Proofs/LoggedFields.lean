import Teardown.Proofs.LogLine
import Teardown.Proofs.Parts
import Teardown.Proofs.WholeMinutes

/-!
# Fields that reach the log

A record of a visit is about an error or about a decision, or it only names the node. Of the fields
that an error or a decision puts on a record, the JSON line shows all but the severity.
-/

namespace Teardown

set_option autoImplicit false

namespace Log

/-- What a record has fields about: an error, or a decision on a node. -/
inductive Subject where
  | error (cause : RetentionError)
  | decision (made : Decision) (nodeName : String)

namespace Subject

def fields : Subject → List (String × Value)
  | .error cause => cause.logFields
  | .decision made nodeName => made.logFields nodeName

def errorNames : List String :=
  ["error_code", "error_category", "error_severity", "node_name", "field_name"]

def decisionNames : List String :=
  ["node_name", "decision", "trigger", "skip_reason", "idle_minutes", "cycle_remaining_minutes"]

def names : Subject → List String
  | .error _ => errorNames
  | .decision _ _ => decisionNames

def record (subject : Subject) (logger : String) (level : Int) (template : String) : Record where
  logger := logger
  level := level
  template := template
  fields := subject.fields

theorem optional_field_name {Item : Type} (name : String) (wrap : Item → Value)
    (item : Option Item) :
    ((item.map fun item => (name, wrap item)).toList.map Prod.fst).Sublist [name] := by
  cases item with
  | none => exact List.nil_sublist _
  | some item => exact List.Sublist.refl _

theorem field_names_sublist (subject : Subject) :
    (subject.fields.map Prod.fst).Sublist subject.names := by
  cases subject with
  | error cause =>
      simp only [fields, RetentionError.logFields, List.map_append]
      exact ((List.Sublist.refl _).append (optional_field_name _ _ _)).append
        (optional_field_name _ _ _)
  | decision made nodeName =>
      simp only [fields, Decision.logFields, Decision.minutesField, List.map_append]
      exact ((((List.Sublist.refl _).append (optional_field_name _ _ _)).append
        (optional_field_name _ _ _)).append (optional_field_name _ _ _)).append
        (optional_field_name _ _ _)

/-- Every field about a subject is set to a text or to a number of minutes. -/
theorem field_values (subject : Subject) :
    ∀ field ∈ subject.fields, (∃ text, field.2 = .string text) ∨
      ∃ duration : Duration, field.2 = .int duration.wholeMinutes := by
  intro field present
  cases subject with
  | error cause =>
      simp only [fields, RetentionError.logFields, List.mem_append, List.mem_cons,
        List.not_mem_nil, or_false, Option.mem_toList, Option.map_eq_some_iff] at present
      rcases present with ((rfl | rfl | rfl) | ⟨_, _, rfl⟩) | ⟨_, _, rfl⟩
      all_goals exact .inl ⟨_, rfl⟩
  | decision made nodeName =>
      simp only [fields, Decision.logFields, Decision.minutesField, List.mem_append, List.mem_cons,
        List.not_mem_nil, or_false, Option.mem_toList, Option.map_eq_some_iff] at present
      rcases present with
        ((((rfl | rfl) | ⟨_, _, rfl⟩) | ⟨_, _, rfl⟩) | ⟨_, _, rfl⟩) | ⟨_, _, rfl⟩
      · exact .inl ⟨_, rfl⟩
      · exact .inl ⟨_, rfl⟩
      · exact .inl ⟨_, rfl⟩
      · exact .inl ⟨_, rfl⟩
      · exact .inr ⟨_, rfl⟩
      · exact .inr ⟨_, rfl⟩

theorem field_exact (subject : Subject) :
    ∀ field ∈ subject.fields, Json.Exact field.2 ∧ field.2 ≠ .null := by
  intro field present
  rcases subject.field_values field present with ⟨text, same⟩ | ⟨duration, same⟩
  · rw [same]
    exact ⟨.string text, by simp⟩
  · rw [same]
    have bounds := duration.whole_minutes_bounded
    have short : duration.wholeMinutes.natAbs < Nat.pow 10 20 := by
      simp only [Duration.exactMinutes] at bounds
      exact Nat.lt_of_le_of_lt (m := 1440000000000) (by omega) (by decide)
    exact ⟨.of_small short, by simp⟩

theorem names_distinct (subject : Subject) : subject.names.Nodup := by
  cases subject with
  | error => exact (by decide : errorNames.Nodup)
  | decision => exact (by decide : decisionNames.Nodup)

section Record

variable (subject : Subject) (logger : String) (level : Int) (template : String)

theorem field_eq_some_iff {name : String} {value : Value} :
    (subject.record logger level template).field? name = some value ↔
      (name, value) ∈ subject.fields := by
  have distinct : ((subject.record logger level template).fields.map Prod.fst).Nodup :=
    subject.names_distinct.sublist subject.field_names_sublist
  constructor
  · exact Record.mem_of_field
  · exact Record.field_of_mem distinct

theorem name_of_field {name : String} {value : Value} (present : (name, value) ∈ subject.fields) :
    name ∈ subject.names :=
  subject.field_names_sublist.subset (List.mem_map_of_mem present)

theorem field_eq_none {name : String} (unnamed : name ∉ subject.names) :
    (subject.record logger level template).field? name = none := by
  cases held : (subject.record logger level template).field? name with
  | none => rfl
  | some value =>
      exact (unnamed (subject.name_of_field (Record.mem_of_field held))).elim

/-- Properties of a record that a field of their name would take the place of. -/
def properties : List String := ["getMessage", "msg", "args", "levelname", "name", "exc_info"]

theorem property_unnamed : ∀ property ∈ properties, property ∉ subject.names := by
  cases subject with
  | error => exact (by decide : ∀ property ∈ properties, property ∉ errorNames)
  | decision => exact (by decide : ∀ property ∈ properties, property ∉ decisionNames)

theorem record_property (name : String) (property : name ∈ properties) (own : Value) :
    (subject.record logger level template).property name own = own := by
  rw [Record.property, subject.field_eq_none logger level template
    (subject.property_unnamed name property)]
  rfl

theorem record_message :
    (subject.record logger level template).message = .ok template := by
  have covered := subject.field_eq_none logger level template
    (subject.property_unnamed "getMessage" (by decide))
  have filled := subject.field_eq_none logger level template
    (subject.property_unnamed "args" (by decide))
  have own := subject.record_property logger level template "msg" (by decide)
  simp only [Record.message, covered, own, Record.supply, filled]
  rfl

theorem record_failure_text :
    (subject.record logger level template).failureText = .ok none := by
  have covered := subject.field_eq_none logger level template
    (subject.property_unnamed "exc_info" (by decide))
  simp only [Record.failureText, covered]
  rfl

theorem record_line_read_back (time : String) :
    ∃ line, (subject.record logger level template).jsonLine time = .ok line ∧
      Json.read? line = some (.mapping (
        (subject.record logger level template).heading time template ++
          (subject.record logger level template).entriesOf shownFields)) := by
  have levelKept : Json.Exact (subject.record logger level template).levelWord := by
    rw [Record.levelWord, subject.record_property logger level template _ (by decide)]
    exact .string _
  have loggerKept : Json.Exact (subject.record logger level template).loggerWord := by
    rw [Record.loggerWord, subject.record_property logger level template _ (by decide)]
    exact .string _
  obtain ⟨line, written, -, read⟩ := Record.json_line_read_back time
    (subject.record_message logger level template)
    (subject.record_failure_text logger level template) levelKept loggerKept
    fun _ _ _ held => (subject.field_exact _ (Record.mem_of_field held)).1
  exact ⟨line, written, read⟩

end Record

theorem name_shown_iff (subject : Subject) :
    ∀ name ∈ subject.names, name ∈ shownFields ↔ name ≠ "error_severity" := by
  cases subject with
  | error => exact (by decide : ∀ name ∈ errorNames, name ∈ shownFields ↔ name ≠ "error_severity")
  | decision =>
      exact (by decide : ∀ name ∈ decisionNames, name ∈ shownFields ↔ name ≠ "error_severity")

end Subject

/-- No line shows the severity of an error. -/
theorem severity_unseen (record : Record) (time message : String) (value : Value) :
    (Value.string "error_severity", value) ∉
      record.heading time message ++ record.entriesOf shownFields := by
  intro present
  rcases List.mem_append.mp present with first | later
  · simp [Record.heading] at first
  · exact absurd (Record.named_mem_entries_iff.mp later).1 (by decide)

/-- The JSON line shows each field of the record with its name and its value, but for the severity
of an error: no entry of the line has that name. -/
def Record.ShowsAllButSeverity (record : Record) (time : String) : Prop :=
  ∃ line entries, record.jsonLine time = .ok line ∧ Json.read? line = some (.mapping entries) ∧
    (∀ name value, (name, value) ∈ record.fields →
      ((Value.string name, value) ∈ entries ↔ name ≠ "error_severity")) ∧
    ∀ value, (Value.string "error_severity", value) ∉ entries

theorem shows_all_but_severity (subject : Subject) (logger : String) (level : Int)
    (template time : String) :
    (subject.record logger level template).ShowsAllButSeverity time := by
  obtain ⟨line, written, read⟩ := subject.record_line_read_back logger level template time
  refine ⟨line, _, written, read, ?_, severity_unseen _ _ _⟩
  intro name value present
  constructor
  · rintro entered rfl
    exact severity_unseen _ _ _ value entered
  · intro other
    have listed := (subject.name_shown_iff name (subject.name_of_field present)).mpr other
    have held := (subject.field_eq_some_iff logger level template).mpr present
    have set := (subject.field_exact _ present).2
    exact List.mem_append_right _ (Record.named_mem_entries_iff.mpr ⟨listed, held, set⟩)

end Log

/-- A record about an error or a decision, or one that names the node and no more. -/
inductive Log.Record.Known : Log.Record → Prop where
  | about (subject : Log.Subject) (logger : String) (level : Int) (template : String) :
      Known (subject.record logger level template)
  | naming {record : Log.Record} (name : Option String)
      (fields : record.fields = Strategy.nameField name) : Known record

/-- If the exchange logs a record, it is a known one. -/
def Exchange.LogsKnown : Exchange → Prop
  | ⟨.log record, _⟩ => record.Known
  | _ => True

namespace Attempt

variable {Result First Second : Type}

def LogsKnown (attempt : Attempt Result) : Prop :=
  attempt.Within Exchange.LogsKnown fun _ => True

theorem logs_known_pure (value : Result) : LogsKnown (pure value) :=
  within_pure trivial

theorem logs_known_throw (failure : Failure) : LogsKnown (throw failure : Attempt Result) :=
  within_throw failure _

theorem logs_known_ofExcept (given : Except Failure Result) : LogsKnown (ofExcept given) :=
  within_mono (within_ofExcept given) (fun _ allowed => allowed) fun _ _ => trivial

theorem logs_known_perform (request : Request)
    (holds : ∀ answer, Exchange.LogsKnown ⟨request, answer⟩) : LogsKnown (perform request) :=
  within_perform holds

theorem logs_known_nodeName (node : NodeId) : LogsKnown (nodeName node) :=
  logs_known_perform (.nodeName node) fun _ => trivial

theorem logs_known_log {record : Log.Record} (holds : record.Known) : LogsKnown (log record) :=
  logs_known_perform (.log record) fun _ => holds

theorem logs_known_call (node : NodeId) (method : NodeCall) : LogsKnown (call node method) := by
  intro course result ended
  obtain rfl := (ends_call_iff _ _ _ _).mp ended
  simp [Exchange.reply, Exchange.LogsKnown]

theorem logs_known_bind {attempt : Attempt First} {next : First → Attempt Second}
    (first : attempt.LogsKnown) (last : ∀ value, (next value).LogsKnown) :
    (attempt >>= next).LogsKnown :=
  within_bind first fun value _ => last value

theorem logs_known_outcome {attempt : Attempt Result} (logs : attempt.LogsKnown) :
    attempt.outcome.LogsKnown :=
  within_mono (within_outcome logs) (fun _ allowed => allowed) fun _ _ => trivial

theorem logs_known_composes : Composes fun _ attempt => attempt.LogsKnown where
  pure := logs_known_pure
  bind := logs_known_bind

end Attempt

namespace Strategy

open Attempt

theorem handle_fetch_failure_logs_known (node : NodeId) (failure : Failure) :
    (handleFetchFailure node failure).LogsKnown := by
  have parts : FetchParts (fun _ attempt => attempt.LogsKnown) node := { logs_known_composes with
    nodeName := logs_known_nodeName node
    note := fun _ _ => logs_known_perform _ fun _ => trivial
    tell := fun _ error => logs_known_log (.about (.error error) _ _ _) }
  have asks := logs_known_perform .cancelRequested fun _ => trivial
  exact handle_fetch_failure_holds parts logs_known_ofExcept asks failure

theorem gather_facts_logs_known (node : NodeId) : (gatherFacts node).LogsKnown := by
  apply logs_known_bind (logs_known_outcome (logs_known_call node .uptime))
  intro fetched
  cases fetched with
  | error failure => exact handle_fetch_failure_logs_known node failure
  | ok uptime =>
      apply logs_known_bind (logs_known_call node .isOffline)
      intro isOffline
      apply logs_known_bind (logs_known_call node .running)
      intro running
      apply logs_known_bind (logs_known_call node .idle)
      exact fun idle => logs_known_pure _

theorem evaluate_logs_known (strategy : Strategy) (node : Option NodeId) :
    (strategy.evaluate node).LogsKnown := by
  refine evaluate_holds logs_known_composes fun present _ => ?_
  exact { logs_known_composes with
    call := fun method _ => logs_known_call present method
    nodeName := logs_known_nodeName present
    gather := gather_facts_logs_known present
    decide := fun facts => logs_known_ofExcept _
    announce := fun name decision => logs_known_log (.about (.decision decision name) _ _ _) }

end Strategy

/-- Whatever the nodes answer and raise, every record that an operation logs is about an error or a
decision, or names the node and no more. -/
theorem Operation.attempt_logs_known (operation : Operation) (strategy : Strategy)
    (node : Option NodeId) : (operation.attempt strategy node).LogsKnown := by
  exact attempt_holds { Attempt.logs_known_composes with
    throw := Attempt.logs_known_throw
    outcome := Attempt.logs_known_outcome
    nodeName := fun present _ => Attempt.logs_known_nodeName present
    evaluate := strategy.evaluate_logs_known node
    connect := fun present _ => Attempt.logs_known_call present _
    enter := fun _ => Attempt.logs_known_perform _ fun _ => trivial
    leave := fun _ => Attempt.logs_known_perform _ fun _ => trivial
    skip := fun name => Attempt.logs_known_log (.naming name rfl)
    report := fun name _ _ => Attempt.logs_known_log (.naming name rfl)
    start := fun name => Attempt.logs_known_log (.naming (some name) rfl) }

/-- On a record about an error or a decision, whatever they are, every field but the severity of an
error reaches the JSON line; and of the records that an operation logs, whatever the nodes answer
and raise, the same holds of each that does more than name the node. -/
theorem logged_fields_reach_line (time : String) :
    (∀ (subject : Log.Subject) (logger : String) (level : Int) (template : String),
      (subject.record logger level template).ShowsAllButSeverity time) ∧
    ∀ (operation : Operation) (strategy : Strategy) (node : Option NodeId) (course : List Exchange)
      (result : Except Failure CallResult),
      (operation.attempt strategy node).Ends course result →
      ∀ record, ⟨.log record, ()⟩ ∈ course →
        record.ShowsAllButSeverity time ∨ ∃ name, record.fields = Strategy.nameField name := by
  constructor
  · intro subject logger level template
    exact Log.shows_all_but_severity subject logger level template time
  · intro operation strategy node course result ended record logged
    have known := (operation.attempt_logs_known strategy node course result ended).1 _ logged
    cases known with
    | about subject logger level template =>
        exact .inl (Log.shows_all_but_severity subject logger level template time)
    | naming name fields => exact .inr ⟨name, fields⟩

namespace Strategy

def outage : RetentionError :=
  .factFetch "down" RetentionError.defaultReason { nodeName := some "node-a" }

def outageRecord : Log.Record :=
  Log.Subject.record (.error outage) loggerName Log.debugLevel
    ("Exception while checking host uptime for node-a, will retry next check: " ++ outage.message)

/-- A visit on which the fetch fails, up to its end. -/
def outageCourse : List Exchange :=
  [ ⟨.nodeName "a", "node-a"⟩, ⟨.enter 0, true⟩, .reply "a" .isProvisioned (.ok true),
    .reply "a" .isIdle (.ok true), .reply "a" .uptime (.error (.retention outage none)),
    ⟨.nodeName "a", "node-a"⟩, ⟨.log outageRecord, ()⟩, ⟨.leave 0, ()⟩ ]

theorem check_takes_outage :
    (Operation.check.attempt ⟨⟨15, 5⟩, false, 0⟩ (some "a")).Ends outageCourse
      (.ok (.recheck recheckMinutes)) :=
  .further <| .further <| .further <| .further <| .further <| .further <| .further <|
    .further <| .here _

theorem outage_logged : ⟨.log outageRecord, ()⟩ ∈ outageCourse := by
  simp [outageCourse]

theorem failed_fetch_shows_all_but_severity :
    (Operation.check.attempt ⟨⟨15, 5⟩, false, 0⟩ (some "a")).Ends outageCourse
        (.ok (.recheck recheckMinutes)) ∧
      ⟨.log outageRecord, ()⟩ ∈ outageCourse ∧ outageRecord.ShowsAllButSeverity "now" := by
  refine ⟨check_takes_outage, outage_logged, ?_⟩
  rcases (logged_fields_reach_line "now").2 _ _ _ _ _ check_takes_outage _ outage_logged with
    shown | ⟨name, fields⟩
  · exact shown
  · have lengths : 4 = 1 := congrArg List.length fields
    cases lengths

/-- A visit on which the fetch fails logs the error's severity as a field of the record, and the
JSON line of the record does not show it. -/
theorem severity_of_failed_fetch_is_lost :
    (Operation.check.attempt ⟨⟨15, 5⟩, false, 0⟩ (some "a")).Ends outageCourse
        (.ok (.recheck recheckMinutes)) ∧
      ⟨.log outageRecord, ()⟩ ∈ outageCourse ∧ outageRecord.fields = outage.logFields ∧
      ("error_severity", .string "warning") ∈ outage.logFields ∧
      ∃ line entries, outageRecord.jsonLine "now" = .ok line ∧
        Json.read? line = some (.mapping entries) ∧
        ∀ value, (.string "error_severity", value) ∉ entries := by
  refine ⟨check_takes_outage, outage_logged, rfl, ?_, ?_⟩
  · simp [outage, RetentionError.logFields, RetentionError.factFetch, Severity.text]
  · obtain ⟨line, written, read⟩ := Log.Subject.record_line_read_back (.error outage) loggerName
      Log.debugLevel _ "now"
    exact ⟨line, _, written, read, Log.severity_unseen _ _ _⟩

end Strategy

end Teardown
