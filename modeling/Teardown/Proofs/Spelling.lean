import Mathlib.Data.Nat.Digits.Defs
import Mathlib.Logic.Relation
import Teardown.Policy.Config
import Teardown.Proofs.Numeral

/-!
# Spellings of numbers

The grammar of numerals, stated apart from the reader: an optional sign, and groups of decimal digits
of any scripts with one low line between any two groups. A text of minutes is read by this grammar and
nothing else, and a number keeps its value however it is spelt.
-/

namespace Teardown.Text

set_option autoImplicit false

def IsDigit (character : Char) : Prop := (digitValue? character).isSome = true

instance (character : Char) : Decidable (IsDigit character) :=
  inferInstanceAs (Decidable (_ = true))

inductive Sign where
  | plus
  | minus
  deriving DecidableEq

def Sign.mark : Sign → Char
  | .plus => '+'
  | .minus => '-'

def marks (sign : Option Sign) : List Char := (sign.map Sign.mark).toList

def signed (sign : Option Sign) (magnitude : Nat) : Int :=
  if sign = some .minus then -(magnitude : Int) else magnitude

def digitValues (characters : List Char) : List Nat := characters.filterMap digitValue?

structure Numeral where
  sign : Option Sign
  groups : List (List Char)
  present : groups ≠ []
  filled : [] ∉ groups
  digital : ∀ group ∈ groups, ∀ character ∈ group, IsDigit character

namespace Numeral

def spelling (numeral : Numeral) : List Char :=
  marks numeral.sign ++ ['_'].intercalate numeral.groups

def digits (numeral : Numeral) : List Nat := digitValues numeral.groups.flatten

/-- The digits are those of a decimal number, the least significant one last. -/
def value (numeral : Numeral) : Int :=
  signed numeral.sign (Nat.ofDigits 10 numeral.digits.reverse)

end Numeral

/-- A digit, then further ones with at most one low line before each: what the reader of digits takes. -/
inductive Run : List Char → Prop where
  | last {character : Char} (digit : IsDigit character) : Run [character]
  | next {character : Char} {rest : List Char} (digit : IsDigit character) (later : Run rest) :
      Run (character :: rest)
  | separated {character : Char} {rest : List Char} (digit : IsDigit character)
      (later : Run rest) : Run (character :: '_' :: rest)

theorem digit_ne_mark {character : Char} (digit : IsDigit character) :
    character ≠ '_' ∧ ∀ sign : Sign, character ≠ sign.mark := by
  constructor
  · rintro rfl
    exact absurd digit (by decide)
  · rintro sign rfl
    cases sign <;> exact absurd digit (by decide)

theorem digit_values_cons {character : Char} {value : Nat}
    (known : digitValue? character = some value) (rest : List Char) :
    digitValues (character :: rest) = value :: digitValues rest :=
  List.filterMap_cons_some known

theorem digit_values_append (first last : List Char) :
    digitValues (first ++ last) = digitValues first ++ digitValues last :=
  List.filterMap_append

theorem digit_values_separated (rest : List Char) : digitValues ('_' :: rest) = digitValues rest :=
  List.filterMap_cons_none (by decide)

theorem digit_values_marks (sign : Option Sign) (rest : List Char) :
    digitValues (marks sign ++ rest) = digitValues rest := by
  rcases sign with _ | _ | _
  · rfl
  · exact List.filterMap_cons_none (by decide)
  · exact List.filterMap_cons_none (by decide)

theorem run_starts {characters : List Char} (run : Run characters) :
    ∃ first rest, characters = first :: rest ∧ IsDigit first := by
  cases run with
  | last digit => exact ⟨_, _, rfl, digit⟩
  | next digit later => exact ⟨_, _, rfl, digit⟩
  | separated digit later => exact ⟨_, _, rfl, digit⟩

theorem run_of_digit_run {characters : List Char} {digits : List Nat}
    (read : digitRun? characters = some digits) :
    Run characters ∧ digits = digitValues characters := by
  fun_induction digitRun? characters generalizing digits with
  | case1 => cases read
  | case2 character =>
      obtain ⟨digit, known, rfl⟩ := Option.map_eq_some_iff.mp read
      exact ⟨.last (by simp [IsDigit, known]), (digit_values_cons known []).symm⟩
  | case3 character rest digit more later known ih =>
      cases read
      obtain ⟨run, rfl⟩ := ih later
      refine ⟨.separated (by simp [IsDigit, known]) run, ?_⟩
      rw [digit_values_cons known, digit_values_separated]
  | case4 => cases read
  | case5 character next rest mark digit more later known ih =>
      cases read
      obtain ⟨run, rfl⟩ := ih later
      exact ⟨.next (by simp [IsDigit, known]) run, (digit_values_cons known _).symm⟩
  | case6 => cases read

theorem digit_run_of_run {characters : List Char} (run : Run characters) :
    digitRun? characters = some (digitValues characters) := by
  induction run with
  | last digit =>
      obtain ⟨value, known⟩ := Option.isSome_iff_exists.mp digit
      rw [digitRun?, digit_values_cons known, known]
      rfl
  | next digit later ih =>
      obtain ⟨value, known⟩ := Option.isSome_iff_exists.mp digit
      obtain ⟨first, rest, rfl, digital⟩ := run_starts later
      rw [digitRun?, digit_values_cons known, known, ih]
      exact (digit_ne_mark digital).1
  | separated digit later ih =>
      obtain ⟨value, known⟩ := Option.isSome_iff_exists.mp digit
      rw [digitRun?, digit_values_cons known, digit_values_separated, known, ih]

theorem run_of_group {group : List Char} (filled : group ≠ [])
    (digital : ∀ character ∈ group, IsDigit character) : Run group := by
  induction group with
  | nil => exact absurd rfl filled
  | cons first rest ih =>
      have digit := digital first (by simp)
      cases rest with
      | nil => exact .last digit
      | cons second more =>
          exact .next digit (ih (by simp) fun character present => digital character (by simp [present]))

/-- A group in front of a run, with a low line between them, makes a longer run. -/
theorem run_of_group_before {group rest : List Char} (filled : group ≠ [])
    (digital : ∀ character ∈ group, IsDigit character) (later : Run rest) :
    Run (group ++ '_' :: rest) := by
  induction group with
  | nil => exact absurd rfl filled
  | cons first more ih =>
      have digit := digital first (by simp)
      cases more with
      | nil => exact .separated digit later
      | cons second more =>
          exact .next digit (ih (by simp) fun character present => digital character (by simp [present]))

theorem run_of_groups {groups : List (List Char)} (present : groups ≠ []) (filled : [] ∉ groups)
    (digital : ∀ group ∈ groups, ∀ character ∈ group, IsDigit character) :
    Run (['_'].intercalate groups) := by
  induction groups with
  | nil => exact absurd rfl present
  | cons group groups ih =>
      have nonempty : group ≠ [] := by
        rintro rfl
        exact filled (by simp)
      have digits := digital group (by simp)
      cases groups with
      | nil =>
          rw [List.intercalate_singleton]
          exact run_of_group nonempty digits
      | cons next groups =>
          rw [List.intercalate_cons_cons, List.append_assoc]
          apply run_of_group_before nonempty digits
          apply ih (by simp)
          · exact fun empty => filled (List.mem_cons_of_mem _ empty)
          · exact fun other among => digital other (List.mem_cons_of_mem _ among)

theorem groups_of_run {characters : List Char} (run : Run characters) :
    ∃ groups : List (List Char), groups ≠ [] ∧ [] ∉ groups ∧
      (∀ group ∈ groups, ∀ character ∈ group, IsDigit character) ∧
      ['_'].intercalate groups = characters := by
  induction run with
  | @last character digit =>
      exact ⟨[[character]], by simp, by simp, by simpa using digit, List.intercalate_singleton⟩
  | @next character rest digit later ih =>
      obtain ⟨groups, present, filled, digital, rfl⟩ := ih
      cases groups with
      | nil => exact absurd rfl present
      | cons group groups =>
          refine ⟨(character :: group) :: groups, by simp, ?_, ?_, ?_⟩
          · simpa using fun empty => filled (List.mem_cons_of_mem _ empty)
          · simp only [List.forall_mem_cons] at digital ⊢
            exact ⟨⟨digit, digital.1⟩, digital.2⟩
          · cases groups with
            | nil => rw [List.intercalate_singleton, List.intercalate_singleton]
            | cons next groups => rw [List.intercalate_cons_cons, List.intercalate_cons_cons]; rfl
  | @separated character rest digit later ih =>
      obtain ⟨groups, present, filled, digital, rfl⟩ := ih
      cases groups with
      | nil => exact absurd rfl present
      | cons group groups =>
          refine ⟨[character] :: group :: groups, by simp, ?_, ?_, ?_⟩
          · simpa using filled
          · simp only [List.forall_mem_cons, List.not_mem_nil, false_imp_iff, implies_true,
              and_true] at digital ⊢
            exact ⟨digit, digital⟩
          · rw [List.intercalate_cons_cons]
            rfl

theorem foldl_digits (digits : List Nat) (start : Nat) :
    digits.foldl (fun number digit => 10 * number + digit) start =
      Nat.ofDigits 10 digits.reverse + 10 ^ digits.length * start := by
  induction digits generalizing start with
  | nil => simp
  | cons digit digits ih =>
      rw [List.foldl_cons, ih, Nat.ofDigits_reverse_cons, List.length_cons, pow_succ]
      ring

theorem of_digits_eq (digits : List Nat) : ofDigits digits = Nat.ofDigits 10 digits.reverse := by
  rw [ofDigits, foldl_digits, Nat.mul_zero, Nat.add_zero]

theorem read_magnitude_iff (characters : List Char) (magnitude : Nat) :
    readMagnitude? characters = some magnitude ↔
      Run characters ∧ (digitValues characters).length ≤ digitLimit ∧
        magnitude = ofDigits (digitValues characters) := by
  unfold readMagnitude?
  cases read : digitRun? characters with
  | none =>
      refine iff_of_false (by simp) fun given => ?_
      rw [digit_run_of_run given.1] at read
      cases read
  | some digits =>
      obtain ⟨run, rfl⟩ := run_of_digit_run read
      simp only [Option.ite_none_right_eq_some, Option.some.injEq]
      exact ⟨fun given => ⟨run, given.1, given.2.symm⟩, fun given => ⟨given.2.1, given.2.2.symm⟩⟩

/-- The text is a sign, if any, and a run. -/
def Spelt (characters : List Char) (sign : Option Sign) : Prop :=
  ∃ run, characters = marks sign ++ run ∧ Run run

theorem digit_values_of_numeral (numeral : Numeral) :
    digitValues numeral.spelling = numeral.digits := by
  rw [Numeral.spelling, digit_values_marks, Numeral.digits]
  have joined : ∀ groups : List (List Char),
      digitValues (['_'].intercalate groups) = digitValues groups.flatten := by
    intro groups
    induction groups with
    | nil => rfl
    | cons group groups ih =>
        cases groups with
        | nil => rw [List.intercalate_singleton, List.flatten_singleton]
        | cons next groups =>
            rw [List.intercalate_cons_cons, List.append_assoc, digit_values_append, List.flatten_cons,
              digit_values_append _ (next :: groups).flatten, ← ih]
            exact congrArg _ (digit_values_separated _)
  exact joined numeral.groups

theorem spelt_of_numeral (numeral : Numeral) : Spelt numeral.spelling numeral.sign :=
  ⟨_, rfl, run_of_groups numeral.present numeral.filled numeral.digital⟩

theorem numeral_of_spelt {characters : List Char} {sign : Option Sign}
    (spelt : Spelt characters sign) :
    ∃ numeral : Numeral, numeral.spelling = characters ∧ numeral.sign = sign := by
  obtain ⟨run, rfl, digits⟩ := spelt
  obtain ⟨groups, present, filled, digital, rfl⟩ := groups_of_run digits
  exact ⟨⟨sign, groups, present, filled, digital⟩, rfl, rfl⟩

theorem exists_marks (characters : List Char) : ∃ sign run, characters = marks sign ++ run ∧
    readNumeral? characters = (readMagnitude? run).map (signed sign) := by
  fun_cases readNumeral? characters with
  | case1 rest => exact ⟨some .plus, rest, rfl, rfl⟩
  | case2 rest => exact ⟨some .minus, rest, rfl, read_negative rest⟩
  | case3 => exact ⟨none, characters, rfl, rfl⟩

theorem read_marked (sign : Option Sign) {run : List Char} (digits : Run run) :
    readNumeral? (marks sign ++ run) = (readMagnitude? run).map (signed sign) := by
  rcases sign with _ | _ | _
  · obtain ⟨first, rest, rfl, digit⟩ := run_starts digits
    have unmarked := (digit_ne_mark digit).2
    change readNumeral? (first :: rest) = _
    rw [readNumeral?]
    · rfl
    · intro later same
      exact unmarked .plus (List.cons.inj same).1
    · intro later same
      exact unmarked .minus (List.cons.inj same).1
  · rfl
  · exact read_negative run

/-- The reader of numbers takes a text just when it is spelt as a number that is not too long. -/
theorem read_numeral_iff_spelt (characters : List Char) (number : Int) :
    readNumeral? characters = some number ↔ ∃ sign, Spelt characters sign ∧
      (digitValues characters).length ≤ digitLimit ∧
        number = signed sign (ofDigits (digitValues characters)) := by
  constructor
  · intro read
    obtain ⟨sign, run, rfl, split⟩ := exists_marks characters
    rw [split] at read
    obtain ⟨magnitude, known, rfl⟩ := Option.map_eq_some_iff.mp read
    obtain ⟨digits, short, rfl⟩ := (read_magnitude_iff _ _).mp known
    rw [digit_values_marks]
    exact ⟨sign, ⟨run, rfl, digits⟩, short, rfl⟩
  · rintro ⟨sign, ⟨run, rfl, digits⟩, short, rfl⟩
    rw [digit_values_marks] at short ⊢
    rw [read_marked sign digits, (read_magnitude_iff run _).mpr ⟨digits, short, rfl⟩]
    rfl

/-- The reader of numbers takes the numerals that are not too long, at their value. -/
theorem read_numeral_iff (characters : List Char) (number : Int) :
    readNumeral? characters = some number ↔ ∃ numeral : Numeral, numeral.spelling = characters ∧
      numeral.digits.length ≤ digitLimit ∧ numeral.value = number := by
  rw [read_numeral_iff_spelt]
  constructor
  · intro given
    obtain ⟨sign, spelt, short, rfl⟩ := given
    obtain ⟨numeral, rfl, rfl⟩ := numeral_of_spelt spelt
    rw [digit_values_of_numeral] at short ⊢
    exact ⟨numeral, rfl, short, by rw [Numeral.value, of_digits_eq]⟩
  · intro given
    obtain ⟨numeral, rfl, short, rfl⟩ := given
    rw [digit_values_of_numeral]
    exact ⟨numeral.sign, spelt_of_numeral numeral, short, by rw [Numeral.value, of_digits_eq]⟩

/-- No set of digits holds a blank. -/
theorem zeros_clear : ∀ first ∈ decimalZeros, first = 0x30 ∨
    (0xA0 < first ∧ first + 10 ≤ 0x1680) ∨ (0x1680 < first ∧ first + 10 ≤ 0x2000) ∨
      0x3000 < first := by
  decide

theorem digit_clear {character : Char} (digit : IsDigit character) : isBlank character = false := by
  obtain ⟨value, known⟩ := Option.isSome_iff_exists.mp digit
  obtain ⟨first, found, -⟩ := Option.map_eq_some_iff.mp known
  have inside := List.find?_some found
  have zone := zeros_clear first (List.mem_of_find?_eq_some found)
  simp only [Bool.and_eq_true, decide_eq_true_eq] at inside
  simp only [isBlank, Bool.or_eq_false_iff, Bool.and_eq_false_iff, decide_eq_false_iff_not,
    beq_eq_false_iff_ne]
  omega

theorem dropWhile_blank_around (before : List Char) {first : Char} (solid : isBlank first = false)
    (after : List Char) :
    (before ++ first :: after).dropWhile isBlank = before.dropWhile isBlank ++ first :: after := by
  induction before with
  | nil => simp [solid]
  | cons character before ih =>
      by_cases blank : isBlank character = true
      · simpa [blank] using ih
      · simp [blank]

theorem drop_trailing_after (before : List Char) {first : Char} (solid : isBlank first = false)
    (after : List Char) :
    dropTrailing (before ++ first :: after) = before ++ first :: dropTrailing after := by
  rw [dropTrailing, dropTrailing]
  simp only [List.reverse_append, List.reverse_cons, List.append_assoc, List.singleton_append,
    dropWhile_blank_around _ solid, List.reverse_reverse]

theorem drop_trailing_solid {first : Char} (solid : isBlank first = false) (rest : List Char) :
    dropTrailing (first :: rest) = first :: dropTrailing rest :=
  drop_trailing_after [] solid rest

theorem stripped_around (before : List Char) {first : Char} (solid : isBlank first = false)
    (after : List Char) :
    stripped (before ++ first :: after) =
      before.dropWhile isBlank ++ first :: dropTrailing after := by
  rw [stripped, dropWhile_blank_around before solid, drop_trailing_after _ solid]

theorem drop_trailing_append_blank (characters : List Char) {blanks : List Char}
    (blank : ∀ character ∈ blanks, isBlank character = true) :
    dropTrailing (characters ++ blanks) = dropTrailing characters := by
  rw [dropTrailing, dropTrailing, List.reverse_append,
    List.dropWhile_append_of_pos fun character present => blank character (List.mem_reverse.mp present)]

theorem stripped_between_blanks {left right : List Char} (characters : List Char)
    (before : ∀ character ∈ left, isBlank character = true)
    (after : ∀ character ∈ right, isBlank character = true) :
    stripped (left ++ characters ++ right) = stripped characters := by
  rw [stripped, stripped, List.append_assoc, List.dropWhile_append_of_pos before,
    List.dropWhile_append]
  split
  · next empty =>
      rw [List.isEmpty_iff.mp empty, List.dropWhile_eq_nil_iff.mpr after]
  · exact drop_trailing_append_blank _ after

/-- One change of how a number is spelt: blanks around it, a plus where it has no sign, a zero in front
of its digits, a low line between two digits, or a digit of another script. -/
inductive Respelling : List Char → List Char → Prop where
  | blanks {text left right : List Char}
      (before : ∀ character ∈ left, isBlank character = true)
      (after : ∀ character ∈ right, isBlank character = true) :
      Respelling text (left ++ text ++ right)
  | plus {left rest : List Char} {first : Char}
      (before : ∀ character ∈ left, isBlank character = true) (digit : IsDigit first) :
      Respelling (left ++ first :: rest) (left ++ '+' :: first :: rest)
  | zero {left rest : List Char} (sign : Option Sign) {nought first : Char}
      (before : ∀ character ∈ left, isBlank character = true)
      (nil : digitValue? nought = some 0) (digit : IsDigit first) :
      Respelling (left ++ marks sign ++ first :: rest) (left ++ marks sign ++ nought :: first :: rest)
  | lowLine {before after : List Char} {first second : Char} (digit : IsDigit first)
      (next : IsDigit second) :
      Respelling (before ++ first :: second :: after) (before ++ first :: '_' :: second :: after)
  | script {before after : List Char} {digit other : Char} {value : Nat}
      (known : digitValue? digit = some value) (same : digitValue? other = some value) :
      Respelling (before ++ digit :: after) (before ++ other :: after)

/-- What begins with a digit inside a run can be replaced by another run. -/
theorem run_of_replaced {before after tail : List Char} {first : Char}
    (run : Run (before ++ first :: after)) (digit : IsDigit first)
    (replaces : Run (first :: after) → Run tail) : Run (before ++ tail) := by
  generalize whole : before ++ first :: after = characters at run
  induction run generalizing before with
  | @last character known =>
      cases before with
      | nil =>
          cases whole
          exact replaces (.last known)
      | cons head more => simp at whole
  | @next character rest known later ih =>
      cases before with
      | nil =>
          cases whole
          exact replaces (.next known later)
      | cons head more =>
          obtain ⟨rfl, rest⟩ := List.cons.inj whole
          exact .next known (ih rest)
  | @separated character rest known later ih =>
      match before with
      | [] =>
          cases whole
          exact replaces (.separated known later)
      | [head] =>
          cases whole
          exact absurd digit (by decide)
      | head :: mark :: more =>
          cases whole
          exact .separated known (ih rfl)

theorem spelt_of_replaced {before after tail : List Char} {first : Char} {sign : Option Sign}
    (spelt : Spelt (before ++ first :: after) sign) (digit : IsDigit first)
    (replaces : Run (first :: after) → Run tail) : Spelt (before ++ tail) sign := by
  obtain ⟨run, whole, digits⟩ := spelt
  cases sign with
  | none =>
      obtain rfl : before ++ first :: after = run := whole
      exact ⟨_, rfl, run_of_replaced digits digit replaces⟩
  | some sign =>
      change _ = sign.mark :: run at whole
      cases before with
      | nil => exact absurd (List.cons.inj whole).1 ((digit_ne_mark digit).2 sign)
      | cons head more =>
          obtain ⟨rfl, rfl⟩ := List.cons.inj whole
          exact ⟨_, rfl, run_of_replaced digits digit replaces⟩

theorem run_of_spelt {characters rest : List Char} {sign : Option Sign} {first : Char}
    (spelt : Spelt characters sign) (digit : IsDigit first) (other : Option Sign)
    (begun : characters = marks other ++ first :: rest) : sign = other ∧ Run (first :: rest) := by
  obtain ⟨run, rfl, digits⟩ := spelt
  obtain ⟨head, more, rfl, known⟩ := run_starts digits
  have heads := (digit_ne_mark known).2
  have firsts := (digit_ne_mark digit).2
  cases sign with
  | none =>
      cases other with
      | none =>
          cases begun
          exact ⟨rfl, digits⟩
      | some other => exact absurd (List.cons.inj begun).1 (heads other)
  | some sign =>
      cases other with
      | none => exact absurd (List.cons.inj begun).1.symm (firsts sign)
      | some other =>
          obtain ⟨marked, rfl, rfl⟩ : sign.mark = other.mark ∧ head = first ∧ more = rest := by
            simpa [marks] using begun
          refine ⟨?_, digits⟩
          cases sign <;> cases other <;> first | rfl | exact absurd marked (by decide)

theorem stripped_signed {left : List Char} {first : Char}
    (before : ∀ character ∈ left, isBlank character = true) (digit : IsDigit first)
    (sign : Option Sign) (rest : List Char) :
    stripped (left ++ marks sign ++ first :: rest) = marks sign ++ first :: dropTrailing rest := by
  rw [stripped_around _ (digit_clear digit), List.dropWhile_append_of_pos before]
  congr 1
  rcases sign with _ | _ | _ <;> decide

theorem of_digits_zero (digits : List Nat) : ofDigits (0 :: digits) = ofDigits digits := rfl

theorem digit_of_value {character : Char} {value : Nat} (known : digitValue? character = some value) :
    IsDigit character := by
  simp [IsDigit, known]

theorem run_separated {first second : Char} {rest : List Char} (run : Run (first :: second :: rest))
    (next : IsDigit second) : Run (first :: '_' :: second :: rest) := by
  cases run with
  | next digit later => exact .separated digit later
  | separated digit later => exact absurd next (by decide)

theorem run_with_first {first other : Char} {rest : List Char} (run : Run (first :: rest))
    (digit : IsDigit other) : Run (other :: rest) := by
  cases run with
  | last => exact .last digit
  | next _ later => exact .next digit later
  | separated _ later => exact .separated digit later

/-- A respelt text is spelt as the same number. -/
theorem spelt_of_respelling {text respelt : List Char} (change : Respelling text respelt)
    {sign : Option Sign} (spelt : Spelt (stripped text) sign) :
    ∃ signAfter, Spelt (stripped respelt) signAfter ∧
      signed signAfter (ofDigits (digitValues (stripped respelt))) =
        signed sign (ofDigits (digitValues (stripped text))) := by
  cases change with
  | blanks before after =>
      rw [stripped_between_blanks _ before after]
      exact ⟨sign, spelt, rfl⟩
  | @plus left rest first before digit =>
      have unsigned : stripped (left ++ first :: rest) = first :: dropTrailing rest := by
        simpa [marks] using stripped_signed before digit none rest
      have plussed : stripped (left ++ '+' :: first :: rest) =
          marks (some .plus) ++ first :: dropTrailing rest := by
        simpa [marks, Sign.mark] using stripped_signed before digit (some .plus) rest
      obtain ⟨rfl, run⟩ := run_of_spelt spelt digit none unsigned
      rw [plussed, unsigned, digit_values_marks]
      exact ⟨some .plus, ⟨_, rfl, run⟩, rfl⟩
  | @zero left rest other nought first before nil digit =>
      have zero : IsDigit nought := by simp [IsDigit, nil]
      have former := stripped_signed before digit other rest
      have longer : stripped (left ++ marks other ++ nought :: first :: rest) =
          marks other ++ nought :: first :: dropTrailing rest := by
        rw [stripped_signed before zero, drop_trailing_solid (digit_clear digit)]
      obtain ⟨rfl, run⟩ := run_of_spelt spelt digit _ former
      rw [longer, former, digit_values_marks, digit_values_marks, digit_values_cons nil]
      exact ⟨sign, ⟨_, rfl, .next zero run⟩, by rw [of_digits_zero]⟩
  | @lowLine before after first second digit next =>
      have former := stripped_around before (digit_clear digit) (second :: after)
      have latter := stripped_around before (digit_clear digit) ('_' :: second :: after)
      rw [drop_trailing_solid (digit_clear next)] at former
      have solid : isBlank '_' = false := by decide
      rw [drop_trailing_solid solid, drop_trailing_solid (digit_clear next)] at latter
      rw [former] at spelt
      refine ⟨sign, ?_, ?_⟩
      · rw [latter]
        exact spelt_of_replaced spelt digit fun run => run_separated run next
      · obtain ⟨value, known⟩ := Option.isSome_iff_exists.mp digit
        rw [former, latter, digit_values_append, digit_values_append, digit_values_cons known,
          digit_values_cons known, digit_values_separated]
  | @script before after digit other value known same =>
      have former := stripped_around before (digit_clear (digit_of_value known)) after
      have latter := stripped_around before (digit_clear (digit_of_value same)) after
      rw [former] at spelt
      refine ⟨sign, ?_, ?_⟩
      · rw [latter]
        exact spelt_of_replaced spelt (digit_of_value known)
          fun run => run_with_first run (digit_of_value same)
      · rw [former, latter, digit_values_append, digit_values_append, digit_values_cons known,
          digit_values_cons same]

theorem spelt_of_respellings {text respelt : List Char}
    (changes : Relation.ReflTransGen Respelling text respelt) {sign : Option Sign}
    (spelt : Spelt (stripped text) sign) :
    ∃ signAfter, Spelt (stripped respelt) signAfter ∧
      signed signAfter (ofDigits (digitValues (stripped respelt))) =
        signed sign (ofDigits (digitValues (stripped text))) := by
  induction changes with
  | refl => exact ⟨sign, spelt, rfl⟩
  | tail earlier last ih =>
      obtain ⟨between, speltBetween, sameBetween⟩ := ih
      obtain ⟨signAfter, speltAfter, sameAfter⟩ := spelt_of_respelling last speltBetween
      exact ⟨signAfter, speltAfter, sameAfter.trans sameBetween⟩

theorem digit_values_stripped_le (text : List Char) :
    (digitValues (stripped text)).length ≤ (digitValues text).length := by
  have trailing (characters : List Char) : (dropTrailing characters).Sublist characters :=
    (List.rdropWhile_prefix (p := isBlank) (l := characters)).sublist
  have whole : (stripped text).Sublist text := (trailing _).trans (List.dropWhile_sublist _)
  exact (whole.filterMap digitValue?).length_le

/-- However a number is spelt anew, it is read as the same number, if it is not too long then. -/
theorem read_of_respellings {text respelt : List Char} {number : Int}
    (changes : Relation.ReflTransGen Respelling text respelt)
    (read : readNumeral? (stripped text) = some number)
    (short : (digitValues respelt).length ≤ digitLimit) :
    readNumeral? (stripped respelt) = some number := by
  obtain ⟨sign, spelt, -, rfl⟩ := (read_numeral_iff_spelt _ _).mp read
  obtain ⟨signAfter, speltAfter, same⟩ := spelt_of_respellings changes spelt
  exact (read_numeral_iff_spelt _ _).mpr
    ⟨signAfter, speltAfter, (digit_values_stripped_le respelt).trans short, same.symm⟩

theorem not_read_nil : readNumeral? [] = none := by decide

end Teardown.Text

namespace Teardown.Policy

/-- What a text of minutes is read as, by the grammar of numerals alone. -/
inductive ReadsMinutes (field : String) : Option String → Int × Option MalformedMinutes → Prop where
  | missing : ReadsMinutes field none (0, none)
  | blank {text : String} (empty : Text.stripped text.toList = []) :
      ReadsMinutes field (some text) (0, none)
  | number {text : String} (numeral : Text.Numeral)
      (spelt : numeral.spelling = Text.stripped text.toList)
      (short : numeral.digits.length ≤ Text.digitLimit) :
      ReadsMinutes field (some text) (numeral.value, none)
  | malformed {text : String} (nonempty : Text.stripped text.toList ≠ [])
      (unspelt : ∀ numeral : Text.Numeral, numeral.spelling = Text.stripped text.toList →
        Text.digitLimit < numeral.digits.length) :
      ReadsMinutes field (some text) (15, some ⟨field, text⟩)

theorem parse_minutes_of_read {text : String} {number : Int}
    (read : Text.readNumeral? (Text.stripped text.toList) = some number) (field : String) :
    parseMinutes (some text) field = (number, none) := by
  have nonempty : (Text.stripped text.toList).isEmpty = false := by
    cases blank : Text.stripped text.toList with
    | nil =>
        rw [blank, Text.not_read_nil] at read
        cases read
    | cons first rest => rfl
  simp [parseMinutes, nonempty, read]

theorem reads_minutes (raw : Option String) (field : String) :
    ReadsMinutes field raw (parseMinutes raw field) := by
  fun_cases parseMinutes raw field with
  | case1 => exact .missing
  | case2 text characters empty => exact .blank (List.isEmpty_iff.mp empty)
  | case3 text characters filled minutes read =>
      obtain ⟨numeral, spelt, short, rfl⟩ := (Text.read_numeral_iff _ _).mp read
      exact .number numeral spelt short
  | case4 text characters filled unread =>
      refine .malformed (fun empty => filled (List.isEmpty_iff.mpr empty)) fun numeral spelt => ?_
      by_contra short
      have read := (Text.read_numeral_iff characters numeral.value).mpr
        ⟨numeral, spelt, Nat.le_of_not_lt short, rfl⟩
      rw [unread] at read
      cases read

theorem parse_minutes_of_reads {raw : Option String} {field : String}
    {result : Int × Option MalformedMinutes} (reads : ReadsMinutes field raw result) :
    parseMinutes raw field = result := by
  cases reads with
  | missing => rfl
  | blank empty => simp [parseMinutes, empty]
  | number numeral spelt short =>
      exact parse_minutes_of_read ((Text.read_numeral_iff _ _).mpr ⟨numeral, spelt, short, rfl⟩) field
  | @malformed text nonempty unspelt =>
      have unread : Text.readNumeral? (Text.stripped text.toList) = none := by
        by_contra given
        obtain ⟨number, read⟩ := Option.ne_none_iff_exists'.mp given
        obtain ⟨numeral, spelt, short, -⟩ := (Text.read_numeral_iff _ _).mp read
        exact absurd short (Nat.not_le_of_lt (unspelt numeral spelt))
      simp [parseMinutes, nonempty, unread, defaultMinutes]

theorem read_of_parse_minutes {text field : String} {number : Int}
    (filled : Text.stripped text.toList ≠ [])
    (parsed : parseMinutes (some text) field = (number, none)) :
    Text.readNumeral? (Text.stripped text.toList) = some number := by
  cases read : Text.readNumeral? (Text.stripped text.toList) with
  | none => simp [parseMinutes, filled, read] at parsed
  | some value => rw [← (Prod.mk.inj ((parse_minutes_of_read read field).symm.trans parsed)).1]

/-- Every text of minutes is read, by the grammar and by nothing else; a malformed text is reported
with the field and the text itself; and a number is the same number however it is spelt. -/
theorem minutes_are_read_by_grammar (field : String) :
    (∀ raw : Option String, configText (raw.elim .null .string) = .ok raw) ∧
    (∀ raw result, parseMinutes raw field = result ↔ ReadsMinutes field raw result) ∧
    (∀ text, (MalformedMinutes.mk field text).text =
      "Malformed " ++ field ++ " value: " ++ Text.quoted text ++ ", using default of 15 minutes") ∧
    ∀ (text respelt : String) (number : Int), Text.stripped text.toList ≠ [] →
      parseMinutes (some text) field = (number, none) →
      Relation.ReflTransGen Text.Respelling text.toList respelt.toList →
      (Text.digitValues respelt.toList).length ≤ Text.digitLimit →
      parseMinutes (some respelt) field = (number, none) := by
  refine ⟨?_, ?_, ?_, ?_⟩
  · intro raw
    cases raw <;> rfl
  · intro raw result
    constructor
    · rintro rfl
      exact reads_minutes raw field
    · exact parse_minutes_of_reads
  · intro text
    have ending : ", using default of " ++ (Text.decimal defaultMinutes ++ " minutes") =
        ", using default of 15 minutes" := by decide
    simp only [MalformedMinutes.text, String.append_assoc, ending]
  · intro text respelt number filled parsed changes short
    exact parse_minutes_of_read
      (Text.read_of_respellings changes (read_of_parse_minutes filled parsed) short) field

/-- Fifteen minutes, with a digit of another script, a zero, a low line, a plus and blanks. -/
theorem fifteen_is_spelt_anew :
    Text.stripped "15".toList ≠ [] ∧ parseMinutes (some "15") idleField = (15, none) ∧
    Relation.ReflTransGen Text.Respelling "15".toList "\t+0_1٥ ".toList ∧
    (Text.digitValues "\t+0_1٥ ".toList).length ≤ Text.digitLimit ∧
    parseMinutes (some "\t+0_1٥ ") idleField = (15, none) := by
  have filled : Text.stripped "15".toList ≠ [] := by decide
  have parsed : parseMinutes (some "15") idleField = (15, none) := by decide +kernel
  have short : (Text.digitValues "\t+0_1٥ ".toList).length ≤ Text.digitLimit := by decide +kernel
  have changes : Relation.ReflTransGen Text.Respelling "15".toList "\t+0_1٥ ".toList := by
    have values : Text.digitValue? '0' = some 0 ∧ Text.digitValue? '5' = some 5 ∧
        Text.digitValue? '٥' = some 5 := by decide +kernel
    have nought : Text.IsDigit '0' := by decide +kernel
    have one : Text.IsDigit '1' := by decide +kernel
    have script : Text.Respelling ['1', '5'] ['1', '٥'] :=
      @Text.Respelling.script ['1'] [] '5' '٥' 5 values.2.1 values.2.2
    have zero : Text.Respelling ['1', '٥'] ['0', '1', '٥'] :=
      @Text.Respelling.zero [] ['٥'] none '0' '1' (by simp) values.1 one
    have lowLine : Text.Respelling ['0', '1', '٥'] ['0', '_', '1', '٥'] :=
      @Text.Respelling.lowLine [] ['٥'] '0' '1' nought one
    have plus : Text.Respelling ['0', '_', '1', '٥'] ['+', '0', '_', '1', '٥'] :=
      @Text.Respelling.plus [] ['_', '1', '٥'] '0' (by simp) nought
    have blanks : Text.Respelling ['+', '0', '_', '1', '٥'] ['\t', '+', '0', '_', '1', '٥', ' '] :=
      @Text.Respelling.blanks ['+', '0', '_', '1', '٥'] ['\t'] [' ']
        (List.forall_mem_singleton.mpr (by decide)) (List.forall_mem_singleton.mpr (by decide))
    exact ((((Relation.ReflTransGen.single script).tail zero).tail lowLine).tail plus).tail blanks
  exact ⟨filled, parsed, changes, short,
    (minutes_are_read_by_grammar idleField).2.2.2 _ _ _ filled parsed changes short⟩

end Teardown.Policy
