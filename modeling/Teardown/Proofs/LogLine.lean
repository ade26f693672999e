import Mathlib.Data.List.Nodup
import Teardown.Log.Record
import Teardown.Proofs.JsonText

/-!
# JSON lines of log records

The JSON line of a record without a failure is one line, and reading it gives the heading of the
record and the shown fields that are set, in their order and with their values.
-/

namespace Teardown.Log

set_option autoImplicit false

namespace Record

theorem mem_of_field {record : Record} {name : String} {value : Value}
    (held : record.field? name = some value) : (name, value) ∈ record.fields := by
  obtain ⟨before, after, split, -⟩ := List.lookup_eq_some_iff.mp held
  simp [split]

theorem field_of_mem {record : Record} {name : String} {value : Value}
    (distinct : (record.fields.map Prod.fst).Nodup) (present : (name, value) ∈ record.fields) :
    record.field? name = some value := by
  obtain ⟨before, after, split⟩ := List.append_of_mem present
  rw [split, List.map_append, List.nodup_append] at distinct
  refine List.lookup_eq_some_iff.mpr ⟨before, after, split, ?_⟩
  intro field earlier
  have apart := distinct.2.2 field.1 (List.mem_map_of_mem earlier) name List.mem_cons_self
  simpa using apart.symm

/-- What a field is set to; one that holds nothing is not set. -/
def set? (record : Record) (name : String) : Option Value :=
  (record.field? name).filter fun value => !value.isNull

theorem set_eq_some_iff {record : Record} {name : String} {value : Value} :
    record.set? name = some value ↔ record.field? name = some value ∧ value ≠ .null := by
  rw [set?, Option.filter_eq_some_iff]
  cases value <;> simp [Value.isNull]

/-- What every line begins with. -/
def heading (record : Record) (time message : String) : List (Value × Value) :=
  [ (.string "timestamp", .string time), (.string "level", record.levelWord),
    (.string "logger", record.loggerWord), (.string "message", .string message) ]

/-- The entries of the fields with these names that are set. -/
def entriesOf (record : Record) (names : List String) : List (Value × Value) :=
  names.filterMap fun name => (record.set? name).map (Value.string name, ·)

theorem shown_entries_eq (record : Record) :
    record.shownEntries = record.entriesOf shownFields := by
  unfold shownEntries entriesOf
  congr 1
  funext name
  unfold set?
  cases record.field? name with
  | none => rfl
  | some value => cases value <;> rfl

theorem document_eq (record : Record) (time message : String) :
    record.document time message none =
      .mapping (record.heading time message ++ record.entriesOf shownFields) := by
  rw [document, shown_entries_eq]
  exact congrArg Value.mapping (List.append_nil _)

theorem mem_entries_iff {record : Record} {names : List String} {entry : Value × Value} :
    entry ∈ record.entriesOf names ↔
      ∃ name value, entry = (.string name, value) ∧ name ∈ names ∧
        record.set? name = some value := by
  simp only [entriesOf, List.mem_filterMap, Option.map_eq_some_iff]
  constructor
  · rintro ⟨name, listed, value, held, rfl⟩
    exact ⟨name, value, rfl, listed, held⟩
  · rintro ⟨name, value, rfl, listed, held⟩
    exact ⟨name, listed, value, held, rfl⟩

theorem named_mem_entries_iff {record : Record} {names : List String} {name : String}
    {value : Value} :
    (Value.string name, value) ∈ record.entriesOf names ↔
      name ∈ names ∧ record.field? name = some value ∧ value ≠ .null := by
  rw [mem_entries_iff, ← set_eq_some_iff]
  constructor
  · rintro ⟨other, found, same, listed, held⟩
    cases same
    exact ⟨listed, held⟩
  · rintro ⟨listed, held⟩
    exact ⟨name, value, rfl, listed, held⟩

theorem names_of_entries (record : Record) (names : List String) :
    ((record.entriesOf names).map Prod.fst).Sublist (names.map Value.string) := by
  induction names with
  | nil => exact .slnil
  | cons name names ih =>
      cases held : record.set? name with
      | none => simpa [entriesOf, held] using ih.cons _
      | some value => simpa [entriesOf, held] using ih

def headingNames : List String := ["timestamp", "level", "logger", "message"]

theorem line_names_distinct (record : Record) (time message : String) :
    ((record.heading time message ++ record.entriesOf shownFields).map Prod.fst).Nodup := by
  have distinct : ((headingNames ++ shownFields).map Value.string).Nodup :=
    List.Nodup.map (fun _ _ => Value.string.inj) (by decide)
  refine distinct.sublist ?_
  rw [List.map_append, List.map_append]
  exact (names_of_entries record shownFields).append_left _

theorem document_exact {record : Record} (time message : String)
    (level : Json.Exact record.levelWord) (logger : Json.Exact record.loggerWord)
    (fields : ∀ name ∈ shownFields, ∀ value, record.field? name = some value → Json.Exact value) :
    Json.Exact (record.document time message none) := by
  have entries : ∀ entry ∈ record.heading time message ++ record.entriesOf shownFields,
      (∃ name, entry.1 = .string name) ∧ Json.Exact entry.2 := by
    intro entry present
    rcases List.mem_append.mp present with first | later
    · simp only [heading, List.mem_cons, List.not_mem_nil, or_false] at first
      rcases first with rfl | rfl | rfl | rfl
      · exact ⟨⟨_, rfl⟩, .string time⟩
      · exact ⟨⟨_, rfl⟩, level⟩
      · exact ⟨⟨_, rfl⟩, logger⟩
      · exact ⟨⟨_, rfl⟩, .string message⟩
    · obtain ⟨name, value, rfl, listed, held⟩ := mem_entries_iff.mp later
      exact ⟨⟨name, rfl⟩, fields name listed value (set_eq_some_iff.mp held).1⟩
  rw [document_eq]
  exact .mapping (fun entry present => (entries entry present).1)
    fun entry present => (entries entry present).2

theorem json_line_of_document {record : Record} {time message line : String}
    (worded : record.message = .ok message) (sound : record.failureText = .ok none)
    (written : Json.text? (record.document time message none) = some line) :
    record.jsonLine time = .ok line := by
  rw [jsonLine, worded, sound]
  simp only [bind, Except.bind, written]
  rfl

theorem json_line_read_back {record : Record} {message : String} (time : String)
    (worded : record.message = .ok message) (sound : record.failureText = .ok none)
    (level : Json.Exact record.levelWord) (logger : Json.Exact record.loggerWord)
    (fields : ∀ name ∈ shownFields, ∀ value, record.field? name = some value → Json.Exact value) :
    ∃ line, record.jsonLine time = .ok line ∧ Json.IsClear line.toList ∧
      Json.read? line =
        some (.mapping (record.heading time message ++ record.entriesOf shownFields)) := by
  obtain ⟨line, written, clear, read⟩ :=
    Json.read_back (document_exact time message level logger fields)
  rw [document_eq] at read
  exact ⟨line, json_line_of_document worded sound written, clear, read⟩

/-- The line depends on nothing but the message, the words for the level and the logger, and what
the shown fields are set to. -/
theorem json_line_congr {record other : Record} {message : String} (time : String)
    (worded : record.message = .ok message) (otherWorded : other.message = .ok message)
    (sound : record.failureText = .ok none) (otherSound : other.failureText = .ok none)
    (level : other.levelWord = record.levelWord) (logger : other.loggerWord = record.loggerWord)
    (fields : ∀ name ∈ shownFields, other.set? name = record.set? name) :
    other.jsonLine time = record.jsonLine time := by
  have entries : other.entriesOf shownFields = record.entriesOf shownFields :=
    List.filterMap_congr fun name listed => by rw [fields name listed]
  have document : other.document time message none = record.document time message none := by
    rw [document_eq, document_eq, entries, heading, heading, level, logger]
  rw [jsonLine, jsonLine, worded, otherWorded, sound, otherSound]
  simp only [bind, Except.bind, document]

/-- The JSON line of a record without a failure is one line, from which the heading and the shown
fields that are set are read back with their values, in the order of the list. Whatever else is on
the record leaves no trace in the line, nor does a shown field that holds nothing. -/
theorem json_line_keeps_shown_fields (record : Record) {message : String} (time : String)
    (worded : record.message = .ok message) (sound : record.failureText = .ok none)
    (level : Json.Exact record.levelWord) (logger : Json.Exact record.loggerWord)
    (fields : ∀ name ∈ shownFields, ∀ value, record.field? name = some value → Json.Exact value) :
    ∃ line entries, record.jsonLine time = .ok line ∧ Json.IsClear line.toList ∧
      Json.read? line = some (.mapping (record.heading time message ++ entries)) ∧
      ((record.heading time message ++ entries).map Prod.fst).Nodup ∧
      (entries.map Prod.fst).Sublist (shownFields.map Value.string) ∧
      (∀ name value, (Value.string name, value) ∈ entries ↔
        name ∈ shownFields ∧ record.field? name = some value ∧ value ≠ .null) ∧
      ∀ other : Record, other.message = .ok message → other.failureText = .ok none →
        other.levelWord = record.levelWord → other.loggerWord = record.loggerWord →
        (∀ name ∈ shownFields, other.set? name = record.set? name) →
        other.jsonLine time = .ok line := by
  obtain ⟨line, written, clear, read⟩ :=
    json_line_read_back time worded sound level logger fields
  refine ⟨line, record.entriesOf shownFields, written, clear, read,
    line_names_distinct record time message, names_of_entries record shownFields,
    fun _ _ => named_mem_entries_iff, ?_⟩
  intro other otherWorded otherSound sameLevel sameLogger sameFields
  rw [← written]
  exact json_line_congr time worded otherWorded sound otherSound sameLevel sameLogger sameFields

def unruly : Record where
  logger := "pool \"one\"\n"
  level := 35
  template := "C:\\node\x01 \u2028\n\x7b\"message\": \"forged\"\x7d"
  fields :=
    [ ("idle_minutes", .int (-3)), ("node_name", .string "n\t\"1\"\u00e9"), ("trigger", .null),
      ("colour", .string "red") ]

theorem unruly_line_keeps_shown_fields :
    unruly.message = .ok unruly.template ∧ unruly.failureText = .ok none ∧
      ∃ line entries, unruly.jsonLine "now" = .ok line ∧ Json.IsClear line.toList ∧
        Json.read? line = some (.mapping (unruly.heading "now" unruly.template ++ entries)) ∧
        (.string "node_name", .string "n\t\"1\"\u00e9") ∈ entries ∧
        (.string "idle_minutes", .int (-3)) ∈ entries ∧
        (∀ value, (.string "trigger", value) ∉ entries) ∧
        ∀ value, (.string "colour", value) ∉ entries := by
  have worded : unruly.message = .ok unruly.template := rfl
  have exactFields : ∀ field ∈ unruly.fields, Json.Exact field.2 := by
    intro field present
    simp only [unruly, List.mem_cons, List.not_mem_nil, or_false] at present
    rcases present with rfl | rfl | rfl | rfl
    · exact .of_small (by decide)
    · exact .string _
    · exact .null
    · exact .string _
  obtain ⟨line, entries, written, clear, read, -, -, shows, -⟩ :=
    json_line_keeps_shown_fields unruly "now" worded rfl (.string _) (.string _)
      fun _ _ _ held => exactFields _ (mem_of_field held)
  refine ⟨worded, rfl, line, entries, written, clear, read, ?_, ?_, ?_, ?_⟩
  · exact (shows _ _).mpr ⟨by decide, rfl, nofun⟩
  · exact (shows _ _).mpr ⟨by decide, rfl, nofun⟩
  · intro value present
    obtain ⟨-, held, set⟩ := (shows _ _).mp present
    exact set (Option.some.inj held).symm
  · intro value present
    exact absurd ((shows _ _).mp present).1 (by decide)

end Record

end Teardown.Log
