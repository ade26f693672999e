import Teardown.Proofs.Restoration

/-!
# Agreement of the configuration paths

The two numbers of minutes come from a mapping in three ways: as texts, through a node definition,
which strips its texts, and through a snapshot, which does not. All three read the same policy and
report the same fields. A text that cannot be read is quoted as it stands, except by a definition,
which quotes it stripped.
-/

namespace Teardown

set_option autoImplicit false

variable {entries : List (Value × Value)} {field : String} {raw : Option String}

/-- The text that a field of a mapping sets. A missing or empty field sets none; a value sets its
own text, if it has one. -/
inductive TextOf (entries : List (Value × Value)) (field : String) : Option String → Prop where
  | missing (unset : Value.lookup? entries field = none) : TextOf entries field none
  | empty (unset : Value.lookup? entries field = some .null) : TextOf entries field none
  | written {value : Value} {text : String} (set : Value.lookup? entries field = some value)
      (filled : value ≠ .null) (known : value.text? = some text) :
      TextOf entries field (some text)

theorem stored_text_of_set (set : TextOf entries field raw) :
    Policy.storedText (Value.lookup? entries field) = .ok raw := by
  cases set with
  | missing unset =>
      rw [unset]
      rfl
  | empty unset =>
      rw [unset]
      rfl
  | @written value text set filled known =>
      rw [set]
      exact Policy.stored_text_of_known filled known

theorem field_text_of_set (set : TextOf entries field raw) :
    Definition.fieldText entries field = .ok (raw.map Text.strip) := by
  unfold Definition.fieldText
  cases set with
  | missing unset =>
      rw [unset]
      rfl
  | empty unset =>
      rw [unset]
      rfl
  | @written value text set filled known =>
      simp only [set, known, Option.map_some]

namespace Policy

def MalformedMinutes.stripped (warning : MalformedMinutes) : MalformedMinutes :=
  { warning with raw := Text.strip warning.raw }

/-- Blanks around a text matter only where it is quoted. -/
theorem parse_minutes_strip (raw : Option String) (field : String) :
    parseMinutes (raw.map Text.strip) field =
      ((parseMinutes raw field).1, (parseMinutes raw field).2.map .stripped) := by
  cases raw with
  | none => rfl
  | some text =>
      simp only [Option.map_some, parseMinutes, Text.toList_strip, Text.stripped_stripped]
      by_cases blank : (Text.stripped text.toList).isEmpty = true
      · simp only [if_pos blank, Option.map_none]
      · simp only [if_neg blank]
        cases Text.readNumeral? (Text.stripped text.toList) <;> rfl

theorem parse_config_strip (idle cycle : Option String) :
    parseConfig (idle.map Text.strip) (cycle.map Text.strip) =
      ((parseConfig idle cycle).1, (parseConfig idle cycle).2.map .stripped) := by
  simp only [parseConfig, parse_minutes_strip, List.map_append, Option.toList_map]

theorem fields_of_stripped (warnings : List MalformedMinutes) :
    (warnings.map MalformedMinutes.stripped).map (·.field) = warnings.map (·.field) := by
  simp [MalformedMinutes.stripped]

end Policy

theorem Definition.validate_of_set {idle cycle : Option String}
    (idleSet : TextOf entries Policy.idleField idle)
    (cycleSet : TextOf entries Policy.cycleField cycle) :
    Definition.validate (.mapping entries) =
      .ok ⟨idle.map Text.strip, cycle.map Text.strip⟩ := by
  simp only [Definition.validate, field_text_of_set idleSet, field_text_of_set cycleSet]

/-- Whatever else a mapping holds, its snapshot reading is the reading of the two texts, reports and
all, and its definition is accepted, reads the same policy and reports the same fields in the same
order. -/
theorem configuration_paths_agree (entries : List (Value × Value)) (idle cycle : Option String)
    (idleSet : TextOf entries Policy.idleField idle)
    (cycleSet : TextOf entries Policy.cycleField cycle) :
    Policy.ofSnapshot (some entries) = .ok (Policy.parseConfig idle cycle) ∧
      ∃ definition, Definition.validate (.mapping entries) = .ok definition ∧
        definition.toPolicy.1 = (Policy.parseConfig idle cycle).1 ∧
        definition.toPolicy.2.map (·.field) =
          (Policy.parseConfig idle cycle).2.map (·.field) ∧
        definition.toPolicy.2 = (Policy.parseConfig idle cycle).2.map .stripped := by
  have defined := Policy.parse_config_strip idle cycle
  constructor
  · rw [Policy.of_snapshot_some, stored_text_of_set idleSet, stored_text_of_set cycleSet]
    rfl
  · refine ⟨_, Definition.validate_of_set idleSet cycleSet, ?_⟩
    simp only [Definition.toPolicy, defined]
    exact ⟨trivial, Policy.fields_of_stripped _, trivial⟩

def misspelt : List (Value × Value) :=
  [ (.string "owner", .list [.null]),
    (.string Policy.cycleField, .bool true),
    (.string Policy.idleField, .string "\t1O ") ]

theorem misspelt_minutes_agree :
    TextOf misspelt Policy.idleField (some "\t1O ") ∧
      TextOf misspelt Policy.cycleField (some "True") ∧
      Policy.ofSnapshot (some misspelt) =
        .ok (⟨15, 15⟩, [⟨Policy.idleField, "\t1O "⟩, ⟨Policy.cycleField, "True"⟩]) ∧
      ∃ definition, Definition.validate (.mapping misspelt) = .ok definition ∧
        definition.toPolicy =
          (⟨15, 15⟩, [⟨Policy.idleField, "1O"⟩, ⟨Policy.cycleField, "True"⟩]) := by
  have idleSet : TextOf misspelt Policy.idleField (some "\t1O ") :=
    .written rfl nofun rfl
  have cycleSet : TextOf misspelt Policy.cycleField (some "True") :=
    .written rfl nofun rfl
  obtain ⟨stored, definition, valid, policy, -, warnings⟩ :=
    configuration_paths_agree misspelt _ _ idleSet cycleSet
  exact ⟨idleSet, cycleSet, stored, definition, valid, Prod.ext policy warnings⟩

end Teardown
