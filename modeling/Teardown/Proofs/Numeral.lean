import Mathlib.Data.List.DropRight
import Teardown.Text.Blank
import Teardown.Text.Numeral

/-!
# Numerals that are written and read back

A number within the limit of digits is read back from its decimal text, and only such numbers are
read from any text. The decimal text has no blanks, so stripping leaves it alone; stripping a text
twice is stripping it once.
-/

namespace Teardown.Text

set_option autoImplicit false

theorem drop_trailing_eq_rdropWhile (characters : List Char) :
    dropTrailing characters = characters.rdropWhile isBlank := rfl

/-- What is left in front of trailing blanks begins as before. -/
theorem dropWhile_drop_trailing {characters : List Char}
    (begun : characters.dropWhile isBlank = characters) :
    (dropTrailing characters).dropWhile isBlank = dropTrailing characters := by
  rw [drop_trailing_eq_rdropWhile]
  obtain ⟨dropped, whole⟩ := List.rdropWhile_prefix (p := isBlank) (l := characters)
  cases kept : characters.rdropWhile isBlank with
  | nil => rfl
  | cons first rest =>
      rw [kept] at whole
      subst whole
      have clear : ¬ isBlank first = true := by
        have nonempty := List.dropWhile_eq_self_iff.mp begun
        exact nonempty (by simp)
      rw [List.dropWhile_cons_of_neg clear]

theorem stripped_stripped (characters : List Char) :
    stripped (stripped characters) = stripped characters := by
  have begun := dropWhile_drop_trailing (List.dropWhile_idempotent (p := isBlank) (l := characters))
  unfold stripped
  rw [begun]
  exact List.rdropWhile_idempotent isBlank _

theorem stripped_of_clear {characters : List Char}
    (clear : ∀ character ∈ characters, isBlank character = false) :
    stripped characters = characters := by
  have begun : characters.dropWhile isBlank = characters := by
    apply List.dropWhile_eq_self_iff.mpr
    intro nonempty
    simp [clear _ (List.getElem_mem nonempty)]
  rw [stripped, begun, drop_trailing_eq_rdropWhile]
  apply List.rdropWhile_eq_self_iff.mpr
  intro nonempty
  simp [clear _ (List.getLast_mem nonempty)]

theorem plain_digit_bounds {character : Char} (plain : character.isDigit = true) :
    0x30 ≤ character.toNat ∧ character.toNat ≤ 0x39 := by
  simp only [Char.isDigit, Bool.and_eq_true, decide_eq_true_eq] at plain
  exact plain

theorem plain_digit_clear {character : Char} (plain : character.isDigit = true) :
    isBlank character = false := by
  have bounds := plain_digit_bounds plain
  simp only [isBlank, Bool.or_eq_false_iff, Bool.and_eq_false_iff, decide_eq_false_iff_not,
    beq_eq_false_iff_ne]
  omega

theorem digit_value_of_plain {character : Char} (plain : character.isDigit = true) :
    digitValue? character = some (character.toNat - 0x30) := by
  have bounds := plain_digit_bounds plain
  have zeros : decimalZeros = 0x30 :: decimalZeros.tail := rfl
  rw [digitValue?, zeros, List.find?_cons_of_pos]
  · rfl
  · simp only [Bool.and_eq_true, decide_eq_true_eq]
    omega

theorem plain_digit_ne {character : Char} (plain : character.isDigit = true) :
    character ≠ '_' ∧ character ≠ '+' ∧ character ≠ '-' := by
  refine ⟨?_, ?_, ?_⟩ <;> (rintro rfl; revert plain; decide)

/-- A run of plain digits is read digit by digit. -/
theorem digit_run_of_plain {characters : List Char} (some : characters ≠ [])
    (plain : ∀ character ∈ characters, character.isDigit = true) :
    digitRun? characters = .some (characters.map fun character => character.toNat - 0x30) := by
  induction characters with
  | nil => exact (some rfl).elim
  | cons first rest ih =>
      have value := digit_value_of_plain (plain first (by simp))
      cases rest with
      | nil => simp [digitRun?, value]
      | cons next later =>
          have later := ih (by simp) fun character present => plain character (by simp [present])
          have mark := (plain_digit_ne (plain next (by simp))).1
          rw [digitRun?, value, later]
          · rfl
          · exact mark

theorem digit_run_lt {characters : List Char} {digits : List Nat}
    (read : digitRun? characters = some digits) : ∀ digit ∈ digits, digit < 10 := by
  fun_induction digitRun? characters generalizing digits with
  | case1 => cases read
  | case2 character =>
      obtain ⟨digit, known, rfl⟩ := Option.map_eq_some_iff.mp read
      simpa using digitValue?_lt known
  | case3 character rest digit more later known ih =>
      cases read
      simpa using ⟨digitValue?_lt known, ih later⟩
  | case4 => cases read
  | case5 character next rest mark digit more later known ih =>
      cases read
      simpa using ⟨digitValue?_lt known, ih later⟩
  | case6 => cases read

theorem foldl_digits_lt {digits : List Nat} (small : ∀ digit ∈ digits, digit < 10)
    (start : Nat) :
    digits.foldl (fun number digit => 10 * number + digit) start <
      (start + 1) * Nat.pow 10 digits.length := by
  induction digits generalizing start with
  | nil => simp
  | cons digit rest ih =>
      have first := small digit (by simp)
      have later := ih (fun other present => small other (by simp [present])) (10 * start + digit)
      have grown : 10 * start + digit + 1 ≤ (start + 1) * 10 := by omega
      calc
        _ < (10 * start + digit + 1) * Nat.pow 10 rest.length := later
        _ ≤ (start + 1) * 10 * Nat.pow 10 rest.length := Nat.mul_le_mul_right _ grown
        _ = (start + 1) * Nat.pow 10 (digit :: rest).length := by
          rw [List.length_cons, Nat.mul_assoc, Nat.mul_comm 10]
          rfl

theorem of_digits_lt {digits : List Nat} (small : ∀ digit ∈ digits, digit < 10) :
    ofDigits digits < Nat.pow 10 digits.length := by
  have bound := foldl_digits_lt small 0
  rwa [Nat.zero_add, Nat.one_mul] at bound

theorem magnitude_lt {characters : List Char} {magnitude : Nat}
    (read : readMagnitude? characters = some magnitude) : magnitude < Nat.pow 10 digitLimit := by
  unfold readMagnitude? at read
  cases run : digitRun? characters with
  | none =>
      rw [run] at read
      cases read
  | some digits =>
      rw [run] at read
      by_cases few : digits.length ≤ digitLimit
      · simp only [if_pos few, Option.some.injEq] at read
        subst read
        have bound := of_digits_lt (digit_run_lt run)
        rw [Nat.pow_eq] at bound ⊢
        exact Nat.lt_of_lt_of_le bound (Nat.pow_le_pow_right (by decide) few)
      · simp [if_neg few] at read

theorem read_negative (rest : List Char) :
    readNumeral? ('-' :: rest) =
      (readMagnitude? rest).map fun magnitude : Nat => -(magnitude : Int) := by
  rw [readNumeral?]
  cases readMagnitude? rest <;> rfl

/-- No numeral stands for a number that is too long to be written. -/
theorem numeral_lt {characters : List Char} {number : Int}
    (read : readNumeral? characters = some number) :
    number.natAbs < Nat.pow 10 digitLimit := by
  fun_cases readNumeral? characters with
  | case1 rest =>
      obtain ⟨magnitude, known, rfl⟩ := Option.map_eq_some_iff.mp read
      exact magnitude_lt known
  | case2 rest =>
      rw [read_negative] at read
      obtain ⟨magnitude, known, rfl⟩ := Option.map_eq_some_iff.mp read
      rw [Int.natAbs_neg, Int.natAbs_natCast]
      exact magnitude_lt known
  | case3 characters unplussed unminused =>
      rw [readNumeral?] at read
      · obtain ⟨magnitude, known, rfl⟩ := Option.map_eq_some_iff.mp read
        exact magnitude_lt known
      · exact unplussed
      · exact unminused

theorem plain_of_decimal_digit {magnitude : Nat} {character : Char}
    (present : character ∈ decimalDigits magnitude) : character.isDigit = true :=
  Nat.isDigit_of_mem_toDigits (by decide) (by decide) present

theorem decimal_digits_begin (magnitude : Nat) :
    ∃ first later, decimalDigits magnitude = first :: later ∧ first.isDigit = true := by
  cases written : decimalDigits magnitude with
  | nil => exact (Nat.toDigits_ne_nil written).elim
  | cons first later =>
      exact ⟨first, later, rfl, plain_of_decimal_digit (by rw [written]; simp)⟩

theorem of_digits_decimal_digits (magnitude : Nat) :
    ofDigits ((decimalDigits magnitude).map fun character => character.toNat - 0x30) =
      magnitude := by
  rw [ofDigits, List.foldl_map]
  exact Nat.ofDigitChars_eq_foldl.symm.trans Nat.ofDigitChars_ten_toDigits

theorem length_decimal_digits_le_iff (magnitude : Nat) {limit : Nat} (positive : 0 < limit) :
    (decimalDigits magnitude).length ≤ limit ↔ magnitude < Nat.pow 10 limit :=
  Nat.length_toDigits_le_iff (by decide) positive

theorem read_decimal_digits {magnitude : Nat} (short : magnitude < Nat.pow 10 digitLimit) :
    readMagnitude? (decimalDigits magnitude) = some magnitude := by
  have few := (length_decimal_digits_le_iff magnitude (by decide)).mpr short
  have run : digitRun? (decimalDigits magnitude) = _ :=
    digit_run_of_plain Nat.toDigits_ne_nil fun _ => plain_of_decimal_digit
  rw [readMagnitude?, run]
  simp only [List.length_map, if_pos few, of_digits_decimal_digits]

/-- Every number that can be written is read back from its text. -/
theorem read_decimal_text {number : Int} (short : number.natAbs < Nat.pow 10 digitLimit) :
    readNumeral? (decimalText number) = some number := by
  have read := read_decimal_digits short
  unfold decimalText
  by_cases negative : number < 0
  · rw [if_pos negative, read_negative, read, Option.map_some]
    congr 1
    omega
  · rw [if_neg negative]
    obtain ⟨first, rest, written, plain⟩ := decimal_digits_begin number.natAbs
    have signs := (plain_digit_ne plain).2
    rw [written] at read ⊢
    rw [readNumeral?, read, Option.map_some]
    · congr 1
      exact Int.natAbs_of_nonneg (Int.not_lt.mp negative)
    · intro later same
      exact signs.1 (List.cons.inj same).1
    · intro later same
      exact signs.2 (List.cons.inj same).1

theorem decimal_text_clear (number : Int) :
    ∀ character ∈ decimalText number, isBlank character = false := by
  intro character present
  unfold decimalText at present
  split at present
  · rcases List.mem_cons.mp present with rfl | digit
    · decide
    · exact plain_digit_clear (plain_of_decimal_digit digit)
  · exact plain_digit_clear (plain_of_decimal_digit present)

theorem decimal_text_ne_nil (number : Int) : decimalText number ≠ [] := by
  unfold decimalText
  split
  · exact List.cons_ne_nil _ _
  · exact Nat.toDigits_ne_nil

end Teardown.Text
