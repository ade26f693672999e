import Teardown.Proofs.Configuration
import Teardown.Proofs.Spelling

/-!
# Minutes from stored values

A number of minutes may be stored as any value, which is read through its text. Only numbers with too
many digits have no text, alone or inside another value, and these are refused although every other
value is read. Truth values, broken numbers, lists and mappings have texts that are never numerals,
so they stand for the default and are reported.
-/

namespace Teardown

set_option autoImplicit false

namespace Value

/-- The number is the value, or stands somewhere in it. -/
inductive Mentions (number : Int) : Value → Prop where
  | itself : Mentions number (.int number)
  | item {items : List Value} {item : Value} (present : item ∈ items)
      (mentioned : Mentions number item) : Mentions number (.list items)
  | key {entries : List (Value × Value)} {entry : Value × Value} (present : entry ∈ entries)
      (mentioned : Mentions number entry.1) : Mentions number (.mapping entries)
  | entry {entries : List (Value × Value)} {entry : Value × Value} (present : entry ∈ entries)
      (mentioned : Mentions number entry.2) : Mentions number (.mapping entries)

/-- No number in the value has too many digits. -/
def Writable (value : Value) : Prop :=
  ∀ number, Mentions number value → number.natAbs < Nat.pow 10 Text.digitLimit

theorem writable_int_iff (number : Int) :
    (Value.int number).Writable ↔ number.natAbs < Nat.pow 10 Text.digitLimit := by
  constructor
  · exact fun writable => writable number .itself
  · intro short other mentioned
    cases mentioned
    exact short

theorem writable_list_iff (items : List Value) :
    (Value.list items).Writable ↔ ∀ item ∈ items, item.Writable := by
  constructor
  · exact fun writable item present number inside => writable number (.item present inside)
  · intro writable number mentioned
    cases mentioned with
    | item present inside => exact writable _ present number inside

theorem writable_mapping_iff (entries : List (Value × Value)) :
    (Value.mapping entries).Writable ↔
      ∀ entry ∈ entries, entry.1.Writable ∧ entry.2.Writable := by
  constructor
  · intro writable entry present
    exact ⟨fun number inside => writable number (.key present inside),
      fun number inside => writable number (.entry present inside)⟩
  · intro writable number mentioned
    cases mentioned with
    | key present inside => exact (writable _ present).1 number inside
    | entry present inside => exact (writable _ present).2 number inside

mutual

/-- Nothing but a number with too many digits keeps a value from having a text. -/
theorem nested_text_known_iff : ∀ value : Value,
    (∃ text, nestedText? value = some text) ↔ value.Writable
  | .null => iff_of_true ⟨_, rfl⟩ nofun
  | .bool _ => iff_of_true ⟨_, rfl⟩ nofun
  | .float _ => iff_of_true ⟨_, rfl⟩ nofun
  | .string _ => iff_of_true ⟨_, rfl⟩ nofun
  | .int number => by
      rw [writable_int_iff, nestedText?, Text.writeNumeral?]
      split <;> simp_all
  | .list items => by
      rw [writable_list_iff, ← item_texts_known_iff items]
      simp [nestedText?]
  | .mapping entries => by
      rw [writable_mapping_iff, ← entry_texts_known_iff entries]
      simp [nestedText?]

theorem item_texts_known_iff : ∀ items : List Value,
    (∃ texts, itemTexts? items = some texts) ↔ ∀ item ∈ items, item.Writable
  | [] => iff_of_true ⟨_, rfl⟩ nofun
  | item :: items => by
      rw [List.forall_mem_cons, ← nested_text_known_iff item, ← item_texts_known_iff items,
        itemTexts?]
      cases nestedText? item <;> cases itemTexts? items <;> simp

theorem entry_texts_known_iff : ∀ entries : List (Value × Value),
    (∃ texts, entryTexts? entries = some texts) ↔
      ∀ entry ∈ entries, entry.1.Writable ∧ entry.2.Writable
  | [] => iff_of_true ⟨_, rfl⟩ nofun
  | (key, value) :: entries => by
      rw [List.forall_mem_cons, ← nested_text_known_iff key, ← nested_text_known_iff value,
        ← entry_texts_known_iff entries, entryTexts?]
      cases nestedText? key <;> cases nestedText? value <;> cases entryTexts? entries <;> simp

end

theorem text_known_iff (value : Value) : (∃ text, value.text? = some text) ↔ value.Writable := by
  cases value with
  | string text => exact iff_of_true ⟨text, rfl⟩ nofun
  | _ => exact nested_text_known_iff _

end Value

namespace Text

/-- A character that stands in no numeral and is not stripped from a text either. -/
def IsStrange (character : Char) : Prop :=
  isBlank character = false ∧ ¬ IsDigit character ∧ character ∉ ['_', '+', '-']

instance (character : Char) : Decidable (IsStrange character) :=
  inferInstanceAs (Decidable (_ ∧ _ ∧ _))

theorem mem_dropWhile_blank {characters : List Char} {character : Char}
    (present : character ∈ characters) (solid : isBlank character = false) :
    character ∈ characters.dropWhile isBlank := by
  rw [← List.takeWhile_append_dropWhile (p := isBlank) (l := characters), List.mem_append] at present
  rcases present with blank | kept
  · rw [List.mem_takeWhile_imp blank] at solid
    cases solid
  · exact kept

theorem mem_stripped {characters : List Char} {character : Char}
    (present : character ∈ characters) (solid : isBlank character = false) :
    character ∈ stripped characters := by
  have begun := mem_dropWhile_blank present solid
  exact List.mem_reverse.mpr (mem_dropWhile_blank (List.mem_reverse.mpr begun) solid)

theorem not_strange_of_run {characters : List Char} (run : Run characters) :
    ∀ character ∈ characters, ¬ IsStrange character := by
  induction run with
  | last digit =>
      intro character present strange
      rw [List.mem_singleton.mp present] at strange
      exact strange.2.1 digit
  | next digit _ ih =>
      intro character present strange
      rcases List.mem_cons.mp present with rfl | later
      · exact strange.2.1 digit
      · exact ih character later strange
  | separated digit _ ih =>
      intro character present strange
      rcases List.mem_cons.mp present with rfl | present
      · exact strange.2.1 digit
      · rcases List.mem_cons.mp present with rfl | later
        · exact strange.2.2 (by decide)
        · exact ih character later strange

theorem unread_of_strange {characters : List Char} {character : Char}
    (present : character ∈ characters) (strange : IsStrange character) :
    readNumeral? characters = none := by
  rw [Option.eq_none_iff_forall_ne_some]
  intro number read
  obtain ⟨sign, ⟨run, rfl, digits⟩, -⟩ := (read_numeral_iff_spelt _ _).mp read
  rcases List.mem_append.mp present with marked | inside
  · obtain ⟨sign, -, rfl⟩ := Option.map_eq_some_iff.mp (Option.mem_toList.mp marked)
    exact strange.2.2 (by cases sign <;> decide)
  · exact not_strange_of_run digits character inside strange

end Text

namespace Number

/-- A broken number is written with a point or with an exponent. -/
theorem magnitude_text_marked (significand : Nat) (exponent : Int) :
    '.' ∈ magnitudeText significand exponent ∨ 'e' ∈ magnitudeText significand exponent := by
  unfold magnitudeText
  by_cases zero : significand = 0
  · rw [if_pos zero]
    exact .inl (by decide)
  · rw [if_neg zero]
    simp only
    split
    · refine .inl ?_
      unfold positional
      split
      · simp
      · split <;> simp
    · refine .inr ?_
      simp [scientific]

theorem text_strange (number : Binary64) :
    ∃ character ∈ (number.text Value.plainWords).toList, Text.IsStrange character := by
  cases number with
  | notANumber => exact ⟨'n', by decide, by decide +kernel⟩
  | infinite negative => exact ⟨'i', by cases negative <;> decide, by decide +kernel⟩
  | finite negative significand exponent =>
      have inside : ∀ character ∈ magnitudeText significand exponent,
          character ∈ ((Binary64.finite negative significand exponent).text Value.plainWords).toList := by
        intro character present
        simp only [Binary64.text, String.toList_ofList]
        cases negative with
        | false => exact present
        | true => exact List.mem_cons_of_mem _ present
      rcases magnitude_text_marked significand exponent with point | mark
      · exact ⟨'.', inside _ point, by decide +kernel⟩
      · exact ⟨'e', inside _ mark, by decide +kernel⟩

end Number

namespace Value

def isMinutesKind : Value → Bool
  | .null | .int _ | .string _ => true
  | _ => false

theorem text_strange_of_kind {value : Value} {text : String} (other : value.isMinutesKind = false)
    (known : value.text? = some text) : ∃ character ∈ text.toList, Text.IsStrange character := by
  cases value with
  | null => cases other
  | int number => cases other
  | string text => cases other
  | bool flag =>
      cases known
      cases flag with
      | false => exact ⟨'F', by decide, by decide +kernel⟩
      | true => exact ⟨'T', by decide, by decide +kernel⟩
  | float number =>
      cases known
      exact Number.text_strange number
  | list items =>
      obtain ⟨texts, -, rfl⟩ := Option.map_eq_some_iff.mp known
      exact ⟨'[', by simp, by decide +kernel⟩
  | mapping entries =>
      obtain ⟨texts, -, rfl⟩ := Option.map_eq_some_iff.mp known
      exact ⟨'\x7b', by simp, by decide +kernel⟩

end Value

/-- No number that a field of a mapping holds has too many digits. -/
def WritableAt (entries : List (Value × Value)) (field : String) : Prop :=
  ∀ value, Value.lookup? entries field = some value → value.Writable

variable {entries : List (Value × Value)} {field : String} {raw : Option String} {value : Value}

theorem exists_text_of_writable (writable : WritableAt entries field) :
    ∃ raw, TextOf entries field raw := by
  cases set : Value.lookup? entries field with
  | none => exact ⟨_, .missing set⟩
  | some value =>
      by_cases empty : value = .null
      · subst empty
        exact ⟨_, .empty set⟩
      · obtain ⟨text, known⟩ := (Value.text_known_iff value).mpr (writable value set)
        exact ⟨_, .written set empty known⟩

theorem unknown_of_unwritable (long : ¬ WritableAt entries field) :
    ∃ value, Value.lookup? entries field = some value ∧ value ≠ .null ∧ value.text? = none := by
  simp only [WritableAt, not_forall] at long
  obtain ⟨value, set, unwritable⟩ := long
  refine ⟨value, set, ?_, ?_⟩
  · rintro rfl
    exact unwritable nofun
  · by_contra known
    exact unwritable ((Value.text_known_iff value).mp (Option.ne_none_iff_exists'.mp known))

theorem stored_text_of_unwritable (long : ¬ WritableAt entries field) :
    Policy.storedText (Value.lookup? entries field) = .error .numeralTooLong := by
  obtain ⟨value, set, filled, unknown⟩ := unknown_of_unwritable long
  have unread : wording value = .error .numeralTooLong := by rw [wording, unknown]
  rw [set, Policy.storedText, unread]
  · rfl
  · exact filled

theorem field_text_of_unwritable (long : ¬ WritableAt entries field) :
    Definition.fieldText entries field = .error ⟨field, .numeralTooLong⟩ := by
  obtain ⟨value, set, filled, unknown⟩ := unknown_of_unwritable long
  simp [Definition.fieldText, set, unknown]

theorem field_text_cases (entries : List (Value × Value)) (field : String) :
    (WritableAt entries field ∧ ∃ text, Definition.fieldText entries field = .ok text) ∨
      ¬ WritableAt entries field ∧
        Definition.fieldText entries field = .error ⟨field, .numeralTooLong⟩ := by
  by_cases writable : WritableAt entries field
  · obtain ⟨raw, set⟩ := exists_text_of_writable writable
    exact .inl ⟨writable, _, field_text_of_set set⟩
  · exact .inr ⟨writable, field_text_of_unwritable writable⟩

namespace Policy

theorem parse_minutes_of_strange {text : String} {character : Char} (present : character ∈ text.toList)
    (strange : Text.IsStrange character) (field : String) :
    parseMinutes (some text) field = (15, some ⟨field, text⟩) := by
  have kept := Text.mem_stripped present strange.1
  have unread := Text.unread_of_strange kept strange
  have filled : (Text.stripped text.toList).isEmpty = false :=
    List.isEmpty_eq_false_iff.mpr (List.ne_nil_of_mem kept)
  simp [parseMinutes, filled, unread, defaultMinutes]

/-- What a stored value sets a number of minutes to: a number is taken as it is, a text is read, and
any other value stands for the default and is reported. -/
inductive SetsMinutes (field : String) : Option Value → Int × Option MalformedMinutes → Prop where
  | missing : SetsMinutes field none (0, none)
  | empty : SetsMinutes field (some .null) (0, none)
  | number {minutes : Int} (short : minutes.natAbs < Nat.pow 10 Text.digitLimit) :
      SetsMinutes field (some (.int minutes)) (minutes, none)
  | text {text : String} {result : Int × Option MalformedMinutes}
      (reads : ReadsMinutes field (some text) result) : SetsMinutes field (some (.string text)) result
  | other {value : Value} {text : String} (other : value.isMinutesKind = false)
      (known : value.text? = some text) : SetsMinutes field (some value) (15, some ⟨field, text⟩)

theorem sets_minutes_of_known {text : String} (filled : value ≠ .null)
    (known : value.text? = some text) (field : String) :
    SetsMinutes field (some value) (parseMinutes (some text) field) := by
  cases value with
  | null => exact (filled rfl).elim
  | string given =>
      cases known
      exact .text (reads_minutes _ field)
  | int number =>
      have short := (Value.writable_int_iff number).mp ((Value.text_known_iff _).mp ⟨text, known⟩)
      have written : Text.writeNumeral? number = some (Text.decimal number) := if_pos short
      cases Option.some.inj (known.symm.trans written)
      rw [@parse_minutes_decimal number short]
      exact .number short
  | _ =>
      obtain ⟨character, present, strange⟩ := Value.text_strange_of_kind rfl known
      rw [parse_minutes_of_strange present strange]
      exact .other rfl known

theorem sets_minutes_of_set (set : TextOf entries field raw) :
    SetsMinutes field (Value.lookup? entries field) (parseMinutes raw field) := by
  cases set with
  | missing unset =>
      rw [unset]
      exact .missing
  | empty unset =>
      rw [unset]
      exact .empty
  | written set filled known =>
      rw [set]
      exact sets_minutes_of_known filled known field

theorem stored_policy_of_writable (idleWritable : WritableAt entries idleField)
    (cycleWritable : WritableAt entries cycleField) :
    ∃ idle cycle, SetsMinutes idleField (Value.lookup? entries idleField) idle ∧
      SetsMinutes cycleField (Value.lookup? entries cycleField) cycle ∧
      ofSnapshot (some entries) =
        .ok (normalize idle.1 cycle.1, idle.2.toList ++ cycle.2.toList) ∧
      ∃ definition, Definition.validate (.mapping entries) = .ok definition ∧
        definition.toPolicy =
          (normalize idle.1 cycle.1, (idle.2.toList ++ cycle.2.toList).map .stripped) := by
  obtain ⟨idle, idleSet⟩ := exists_text_of_writable idleWritable
  obtain ⟨cycle, cycleSet⟩ := exists_text_of_writable cycleWritable
  refine ⟨_, _, sets_minutes_of_set idleSet, sets_minutes_of_set cycleSet, ?_, _,
    Definition.validate_of_set idleSet cycleSet, parse_config_strip idle cycle⟩
  rw [of_snapshot_some, stored_text_of_set idleSet, stored_text_of_set cycleSet]
  rfl

theorem snapshot_of_unwritable
    (long : ¬ (WritableAt entries idleField ∧ WritableAt entries cycleField)) :
    ofSnapshot (some entries) = .error .numeralTooLong := by
  rw [of_snapshot_some]
  by_cases idleWritable : WritableAt entries idleField
  · obtain ⟨idle, idleSet⟩ := exists_text_of_writable idleWritable
    rw [stored_text_of_set idleSet,
      stored_text_of_unwritable fun cycleWritable => long ⟨idleWritable, cycleWritable⟩]
    rfl
  · rw [stored_text_of_unwritable idleWritable]
    rfl

/-- A definition is refused for each of its fields that holds a number with too many digits. -/
theorem definition_of_unwritable
    (long : ¬ (WritableAt entries idleField ∧ WritableAt entries cycleField)) :
    ∃ issues, Definition.validate (.mapping entries) = .error (.refused issues) ∧ issues ≠ [] ∧
      ∀ issue ∈ issues, issue.cause = .numeralTooLong ∧ ¬ WritableAt entries issue.field := by
  simp only [Definition.validate]
  rcases field_text_cases entries idleField with
    ⟨idleWritable, idle, idleRead⟩ | ⟨idleLong, idleUnread⟩ <;>
  rcases field_text_cases entries cycleField with
    ⟨cycleWritable, cycle, cycleRead⟩ | ⟨cycleLong, cycleUnread⟩
  · exact (long ⟨idleWritable, cycleWritable⟩).elim
  · rw [idleRead, cycleUnread]
    exact ⟨_, rfl, by simp, by simpa using cycleLong⟩
  · rw [idleUnread, cycleRead]
    exact ⟨_, rfl, by simp, by simpa using idleLong⟩
  · rw [idleUnread, cycleUnread]
    exact ⟨_, rfl, by simp, by simpa using ⟨idleLong, cycleLong⟩⟩

/-- A mapping is read as a snapshot, and accepted as a definition, just when no number that its two
fields hold has too many digits, alone or inside another value. Then both give the policy of the
minutes that the two values set, where any value that is no number stands for the default and is
reported, and a definition only quotes it stripped. Otherwise the snapshot fails for the number, and
the definition is refused for those of its fields that hold one. -/
theorem stored_minutes_are_read_iff (entries : List (Value × Value)) :
    let writable := WritableAt entries idleField ∧ WritableAt entries cycleField
    ((∃ read, ofSnapshot (some entries) = .ok read) ↔ writable) ∧
    ((∃ definition, Definition.validate (.mapping entries) = .ok definition) ↔ writable) ∧
    (writable →
      ∃ idle cycle, SetsMinutes idleField (Value.lookup? entries idleField) idle ∧
        SetsMinutes cycleField (Value.lookup? entries cycleField) cycle ∧
        ofSnapshot (some entries) =
          .ok (normalize idle.1 cycle.1, idle.2.toList ++ cycle.2.toList) ∧
        ∃ definition, Definition.validate (.mapping entries) = .ok definition ∧
          definition.toPolicy =
            (normalize idle.1 cycle.1, (idle.2.toList ++ cycle.2.toList).map .stripped)) ∧
    (¬ writable →
      ofSnapshot (some entries) = .error .numeralTooLong ∧
        ∃ issues, Definition.validate (.mapping entries) = .error (.refused issues) ∧ issues ≠ [] ∧
          ∀ issue ∈ issues, issue.cause = .numeralTooLong ∧ ¬ WritableAt entries issue.field) := by
  intro writable
  refine ⟨⟨?_, ?_⟩, ⟨?_, ?_⟩, fun both => stored_policy_of_writable both.1 both.2,
    fun long => ⟨snapshot_of_unwritable long, definition_of_unwritable long⟩⟩
  · rintro ⟨read, accepted⟩
    by_contra long
    rw [snapshot_of_unwritable long] at accepted
    cases accepted
  · intro both
    obtain ⟨idle, cycle, -, -, accepted, -⟩ := stored_policy_of_writable both.1 both.2
    exact ⟨_, accepted⟩
  · rintro ⟨definition, accepted⟩
    by_contra long
    obtain ⟨issues, refused, -⟩ := definition_of_unwritable long
    rw [refused] at accepted
    cases accepted
  · intro both
    obtain ⟨idle, cycle, -, -, -, definition, accepted, -⟩ :=
      stored_policy_of_writable both.1 both.2
    exact ⟨definition, accepted⟩

def storedTwice (value : Value) : List (Value × Value) :=
  [(.string idleField, value), (.string cycleField, value)]

theorem stored_twice_refused {number : Nat} (long : ¬ number < Nat.pow 10 Text.digitLimit)
    (mentioned : Value.Mentions number value) :
    ofSnapshot (some (storedTwice value)) = .error .numeralTooLong ∧
      Definition.validate (.mapping (storedTwice value)) =
        .error (.refused [⟨idleField, .numeralTooLong⟩, ⟨cycleField, .numeralTooLong⟩]) := by
  have idleLong : ¬ WritableAt (storedTwice value) idleField :=
    fun writable => long (writable value rfl number mentioned)
  have cycleLong : ¬ WritableAt (storedTwice value) cycleField :=
    fun writable => long (writable value rfl number mentioned)
  refine ⟨snapshot_of_unwritable fun both => idleLong both.1, ?_⟩
  simp only [Definition.validate, field_text_of_unwritable idleLong,
    field_text_of_unwritable cycleLong]

/-- A number with too many digits keeps a mapping from being read, and so does one in a list. -/
theorem long_numbers_are_refused :
    (ofSnapshot (some (storedTwice (.int (Nat.pow 10 Text.digitLimit : Nat)))) =
        .error .numeralTooLong ∧
      Definition.validate (.mapping (storedTwice (.int (Nat.pow 10 Text.digitLimit : Nat)))) =
        .error (.refused [⟨idleField, .numeralTooLong⟩, ⟨cycleField, .numeralTooLong⟩])) ∧
    (ofSnapshot (some (storedTwice (.list [.int (Nat.pow 10 Text.digitLimit : Nat)]))) =
        .error .numeralTooLong ∧
      Definition.validate (.mapping (storedTwice (.list [.int (Nat.pow 10 Text.digitLimit : Nat)]))) =
        .error (.refused [⟨idleField, .numeralTooLong⟩, ⟨cycleField, .numeralTooLong⟩])) ∧
    Failure.numeralTooLong.name = "ValueError" := by
  have long : ¬ Nat.pow 10 Text.digitLimit < Nat.pow 10 Text.digitLimit := Nat.lt_irrefl _
  refine ⟨stored_twice_refused long .itself, stored_twice_refused long ?_, rfl⟩
  exact .item (List.mem_singleton_self _) .itself

end Policy

end Teardown
