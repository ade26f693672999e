import Teardown.Json.Reader
import Teardown.Json.Writer
import Teardown.Proofs.Numeral

/-!
# Written JSON is read back

What is written of a value whose numbers are whole and short, and whose mappings are keyed by
strings, is one line without control characters, and reading that line gives the value.
-/

namespace Teardown.Json

set_option autoImplicit false

/-- The character in front of what is read of the rest. -/
def inFront (character : Char) (read : List Char × List Char) : List Char × List Char :=
  (character :: read.1, read.2)

theorem read_broken_escape {a b c d : Char} (broken : fourHex? a b c d = none)
    (tail : List Char) : readString? ('\\' :: 'u' :: a :: b :: c :: d :: tail) = none := by
  rw [readString?.eq_def]
  split <;> grind

/-- An escape that is no half of a pair is read on its own, whatever comes after it. -/
theorem read_single_escape {a b c d : Char} {code : Nat} (known : fourHex? a b c d = some code)
    (single : isHighSurrogate code = false ∧ isLowSurrogate code = false) (tail : List Char) :
    readString? ('\\' :: 'u' :: a :: b :: c :: d :: tail) =
      (readString? tail).map (inFront (Char.ofNat code)) := by
  -- the reader looks at the next escape first, to see whether the two are a pair
  by_cases followed : ∃ e f g h rest, tail = '\\' :: 'u' :: e :: f :: g :: h :: rest
  · obtain ⟨e, f, g, h, rest, rfl⟩ := followed
    cases next : fourHex? e f g h with
    | some later =>
        rw [readString?, known, next]
        simp only [single, Bool.false_and, Bool.or_self, Bool.false_eq_true, if_false]
        rfl
    | none =>
        rw [readString?, known, next, read_broken_escape next]
        rfl
  · rw [readString?, known]
    · simp only [single, Bool.or_self, Bool.false_eq_true, if_false]
      rfl
    · intro e f g h rest same
      exact followed ⟨e, f, g, h, rest, same⟩

theorem read_short_escape {mark target : Char} (known : escapeTarget? mark = some target)
    (short : mark ≠ 'u') (tail : List Char) :
    readString? ('\\' :: mark :: tail) = (readString? tail).map (inFront target) := by
  rw [readString?, known]
  · rfl
  · intro a b c d e f g h rest same
    exact (short same).elim
  · intro a b c d rest same
    exact (short same).elim

theorem control_not_surrogate {code : Nat} (control : code < 0x20) :
    isHighSurrogate code = false ∧ isLowSurrogate code = false := by
  simp only [isHighSurrogate, isLowSurrogate, Bool.and_eq_false_iff, decide_eq_false_iff_not]
  omega

theorem four_hex_of_digits {code : Nat} (short : code < 0x10000) :
    fourHex? (Text.hexDigit (code / 16 / 16 / 16 % 16)) (Text.hexDigit (code / 16 / 16 % 16))
      (Text.hexDigit (code / 16 % 16)) (Text.hexDigit (code % 16)) = some code := by
  have small (value : Nat) : value % 16 < 16 := Nat.mod_lt value (by decide)
  simp only [fourHex?, Text.hexValue?_hexDigit (small _), Option.some.injEq]
  omega

/-- Every character is read back from its written form. -/
theorem read_escaped (character : Char) (tail : List Char) :
    readString? (escaped character ++ tail) = (readString? tail).map (inFront character) := by
  fun_cases escaped character with
  | case1 mark =>
      rcases mark with rfl | rfl
      · exact read_short_escape rfl (by decide) tail
      · exact read_short_escape rfl (by decide) tail
  | case2 _ same | case3 _ _ same | case4 _ _ _ same | case5 _ _ _ _ same
  | case6 _ _ _ _ _ same =>
      subst same
      exact read_short_escape rfl (by decide) tail
  | case7 _ _ _ _ _ _ control =>
      have short : character.toNat < 0x10000 := by omega
      have known := four_hex_of_digits short
      have read := read_single_escape known (control_not_surrogate control) tail
      rwa [Char.ofNat_toNat] at read
  | case8 plain _ _ _ _ _ clear =>
      obtain ⟨unquoted, unescaped⟩ := not_or.mp plain
      rw [List.singleton_append, readString?]
      · rw [if_neg (not_or.mpr ⟨unescaped, clear⟩)]
        rfl
      · exact unquoted
      all_goals simp_all

theorem read_written_string (characters rest : List Char) :
    readString? (characters.flatMap escaped ++ '"' :: rest) = some (characters, rest) := by
  induction characters with
  | nil => rfl
  | cons first later ih =>
      rw [List.flatMap_cons, List.append_assoc, read_escaped, ih]
      rfl

/-- No character below the space. -/
def IsClear (characters : List Char) : Prop :=
  ∀ character ∈ characters, 0x20 ≤ character.toNat

@[simp]
theorem is_clear_nil : IsClear [] := fun _ present => nomatch present

@[simp]
theorem is_clear_cons {first : Char} {later : List Char} :
    IsClear (first :: later) ↔ 0x20 ≤ first.toNat ∧ IsClear later :=
  List.forall_mem_cons

@[simp]
theorem is_clear_append {characters others : List Char} :
    IsClear (characters ++ others) ↔ IsClear characters ∧ IsClear others :=
  List.forall_mem_append

theorem hex_digit_clear (value : Nat) : 0x20 ≤ (Text.hexDigit (value % 16)).toNat := by
  have all : ∀ each ∈ List.range 16, 0x20 ≤ (Text.hexDigit each).toNat := by decide
  exact all _ (List.mem_range.mpr (Nat.mod_lt value (by decide)))

theorem hex_text_clear (width value : Nat) : IsClear (Text.hexText width value) := by
  induction width generalizing value with
  | zero => exact is_clear_nil
  | succ width ih => simp [Text.hexText, ih, hex_digit_clear]

theorem escaped_clear (character : Char) : IsClear (escaped character) := by
  fun_cases escaped character with
  | case1 mark =>
      rcases mark with rfl | rfl
      · simp
      · simp
  | case2 | case3 | case4 | case5 | case6 => simp
  | case7 => simpa using hex_text_clear 4 character.toNat
  | case8 _ _ _ _ _ _ clear => simpa using clear

theorem written_string_clear (characters : List Char) : IsClear (writeString characters) := by
  have body : IsClear (characters.flatMap escaped) := by
    intro character present
    obtain ⟨source, -, written⟩ := List.mem_flatMap.mp present
    exact escaped_clear source character written
  simpa [writeString] using body

theorem decimal_text_no_control (number : Int) : IsClear (Text.decimalText number) := by
  have digits : IsClear (Text.decimalDigits number.natAbs) := by
    intro character present
    have bounds := Text.plain_digit_bounds (Text.plain_of_decimal_digit present)
    omega
  unfold Text.decimalText
  split
  · simpa using digits
  · exact digits

/-- What can stand after a number: anything but one more digit. -/
def EndsNumber (rest : List Char) : Prop := ∀ first ∈ rest.head?, first.isDigit = false

theorem leading_number_of_digits (magnitude : Nat) {rest : List Char} (ended : EndsNumber rest) :
    Text.leadingNumber? (Text.decimalDigits magnitude ++ rest) = some (magnitude, rest) := by
  have plain : ∀ character ∈ Text.decimalDigits magnitude, character.isDigit = true :=
    fun _ => Text.plain_of_decimal_digit
  have digits : rest.takeWhile Char.isDigit = [] ∧ rest.dropWhile Char.isDigit = rest := by
    cases rest with
    | nil => exact ⟨rfl, rfl⟩
    | cons first later => simp [ended first rfl]
  unfold Text.leadingNumber?
  simp only [List.takeWhile_append_of_pos plain, List.dropWhile_append_of_pos plain, digits,
    List.append_nil, List.isEmpty_iff, Text.of_digits_decimal_digits]
  exact if_neg Nat.toDigits_ne_nil

theorem decimal_text_begins (number : Int) :
    ∃ first later, Text.decimalText number = first :: later ∧
      (first = '-' ∨ first.isDigit = true) := by
  unfold Text.decimalText
  split
  · exact ⟨_, _, rfl, .inl rfl⟩
  · obtain ⟨first, later, digits, plain⟩ := Text.decimal_digits_begin number.natAbs
    exact ⟨first, later, digits, .inr plain⟩

theorem read_decimal_number (number : Int) {rest : List Char} (ended : EndsNumber rest) :
    readNumber? (Text.decimalText number ++ rest) = some (number, rest) := by
  have read := leading_number_of_digits number.natAbs ended
  unfold Text.decimalText
  by_cases negative : number < 0
  · have value : -(number.natAbs : Int) = number := by omega
    rw [if_pos negative, List.cons_append, readNumber?, read]
    simp only [Option.map_some, value]
  · have value : (number.natAbs : Int) = number := by omega
    obtain ⟨first, later, digits, plain⟩ := Text.decimal_digits_begin number.natAbs
    rw [if_neg negative, readNumber?, read]
    · simp only [Option.map_some, value]
    · intro others same
      rw [digits] at same
      exact (Text.plain_digit_ne plain).2.2 (List.cons.inj same).1

/-- What a JSON text keeps: whole numbers within the limit of digits, and mappings whose keys are
strings. -/
inductive Exact : Value → Prop where
  | null : Exact .null
  | bool (flag : Bool) : Exact (.bool flag)
  | int {number : Int} (short : number.natAbs < Nat.pow 10 Text.digitLimit) : Exact (.int number)
  | string (text : String) : Exact (.string text)
  | list {items : List Value} (each : ∀ item ∈ items, Exact item) : Exact (.list items)
  | mapping {entries : List (Value × Value)}
      (named : ∀ entry ∈ entries, ∃ name, entry.1 = .string name)
      (each : ∀ entry ∈ entries, Exact entry.2) : Exact (.mapping entries)

theorem Exact.of_small {number : Int} (small : number.natAbs < Nat.pow 10 20) :
    Exact (.int number) := by
  have grown (limit : Nat) (more : 20 ≤ limit) : Nat.pow 10 20 ≤ Nat.pow 10 limit :=
    Nat.pow_le_pow_right (by decide) more
  exact .int (Nat.lt_of_lt_of_le small (grown Text.digitLimit (by decide)))

/-- A character that a value can begin with. -/
def Opens (character : Char) : Prop :=
  isSpace character = false ∧ character ≠ ']' ∧ character ≠ '\x7d'

instance (character : Char) : Decidable (Opens character) :=
  inferInstanceAs (Decidable (_ ∧ _))

/-- A clear text from which a value is read, whatever comes after it. A step of fuel for each
character is enough. -/
structure IsTextOf (value : Value) (text : List Char) : Prop where
  clear : IsClear text
  opens : ∃ first later, text = first :: later ∧ Opens first
  read : ∀ fuel rest, text.length ≤ fuel + 1 → EndsNumber rest →
    readValue? (fuel + 1) (text ++ rest) = some (value, rest)

theorem skip_no_space (first : Char) (visible : isSpace first = false) (later : List Char) :
    skipSpace (first :: later) = first :: later := by
  simp [skipSpace, visible]

theorem read_value_after_space (fuel : Nat) (characters : List Char) :
    readValue? fuel (' ' :: characters) = readValue? fuel characters := by
  cases fuel with
  | zero => rfl
  | succ fuel => rw [readValue?, readValue?]; rfl

theorem null_text : IsTextOf .null "null".toList where
  clear := by simp
  opens := ⟨'n', _, rfl, by decide⟩
  read := fun _ _ _ _ => rfl

theorem bool_text (flag : Bool) :
    IsTextOf (.bool flag) (if flag then "true".toList else "false".toList) := by
  cases flag with
  | true => exact ⟨by simp, ⟨'t', _, rfl, by decide⟩, fun _ _ _ _ => rfl⟩
  | false => exact ⟨by simp, ⟨'f', _, rfl, by decide⟩, fun _ _ _ _ => rfl⟩

theorem string_text (text : String) : IsTextOf (.string text) (writeString text.toList) where
  clear := written_string_clear text.toList
  opens := ⟨'"', _, rfl, by decide⟩
  read := by
    intro fuel rest _ _
    have read := read_written_string text.toList rest
    rw [writeString, List.cons_append, List.append_assoc, readValue?, skip_no_space _ rfl]
    simp [read]

theorem opens_number {first : Char} (begins : first = '-' ∨ first.isDigit = true) :
    Opens first := by
  rcases begins with rfl | plain
  · decide
  · have unlike (other : Char) (strange : other.isDigit = false) : first ≠ other := by
      rintro rfl
      simp [plain] at strange
    refine ⟨?_, unlike ']' rfl, unlike '\x7d' rfl⟩
    simp [isSpace, unlike ' ' rfl, unlike '\n' rfl, unlike '\r' rfl, unlike '\t' rfl]

theorem read_value_number {first : Char} (begins : first = '-' ∨ first.isDigit = true)
    (fuel : Nat) (later : List Char) :
    readValue? (fuel + 1) (first :: later) =
      (readNumber? (first :: later)).map fun (number, after) => (.int number, after) := by
  have visible := (opens_number begins).1
  rw [readValue?, skip_no_space _ visible]
  split
  all_goals simp_all

theorem int_text (number : Int) : IsTextOf (.int number) (Text.decimalText number) where
  clear := decimal_text_no_control number
  opens := by
    obtain ⟨first, later, text, begins⟩ := decimal_text_begins number
    exact ⟨first, later, text, opens_number begins⟩
  read := by
    intro fuel rest _ ended
    have read := read_decimal_number number ended
    obtain ⟨first, later, text, begins⟩ := decimal_text_begins number
    rw [text, List.cons_append] at read ⊢
    rw [read_value_number begins, read]
    rfl

theorem separated_begins (part : List Char) (parts : List (List Char)) :
    ∃ rest, separated (part :: parts) = part ++ rest := by
  cases parts with
  | nil => exact ⟨[], (List.append_nil part).symm⟩
  | cons next more => exact ⟨_, rfl⟩

theorem separated_cons_cons (part next : List Char) (more : List (List Char)) :
    separated (part :: next :: more) = part ++ ',' :: ' ' :: separated (next :: more) := rfl

theorem IsTextOf.length_pos {value : Value} {text : List Char} (written : IsTextOf value text) :
    0 < text.length := by
  obtain ⟨first, later, rfl, -⟩ := written.opens
  simp

/-- A value is read with as much fuel as it has characters. -/
theorem IsTextOf.read_of_le {value : Value} {text rest : List Char} {fuel : Nat}
    (written : IsTextOf value text) (enough : text.length ≤ fuel) (ended : EndsNumber rest) :
    readValue? fuel (text ++ rest) = some (value, rest) := by
  obtain ⟨less, rfl⟩ := Nat.exists_eq_add_one.mpr (written.length_pos.trans_le enough)
  exact written.read less rest enough ended

theorem ends_before {mark : Char} (strange : mark.isDigit = false) (rest : List Char) :
    EndsNumber (mark :: rest) := by
  rintro first ⟨⟩
  exact strange

theorem separated_clear {Source : Type} {relation : Source → List Char → Prop}
    (clear : ∀ source part, relation source part → IsClear part) {sources : List Source}
    {parts : List (List Char)} (written : List.Forall₂ relation sources parts) :
    IsClear (separated parts) := by
  induction written with
  | nil => exact is_clear_nil
  | cons first later ih =>
      cases later with
      | nil => exact clear _ _ first
      | cons => simpa [separated_cons_cons] using ⟨clear _ _ first, ih⟩

section Steps

variable {fuel : Nat} {characters after : List Char} {value : Value}

theorem read_items_after_space (fuel : Nat) (characters : List Char) :
    readItems? fuel (' ' :: characters) = readItems? fuel characters := by
  cases fuel with
  | zero => rfl
  | succ fuel => rw [readItems?, readItems?, read_value_after_space]

theorem read_last_item (read : readValue? fuel characters = some (value, ']' :: after)) :
    readItems? (fuel + 1) characters = some ([value], after) := by
  rw [readItems?, read]
  rfl

theorem read_next_item
    (read : readValue? fuel characters = some (value, ',' :: ' ' :: after)) :
    readItems? (fuel + 1) characters =
      (readItems? fuel after).map fun (values, rest) => (value :: values, rest) := by
  rw [← read_items_after_space fuel after, readItems?, read]
  rfl

theorem read_members_after_space (fuel : Nat) (characters : List Char) :
    readMembers? fuel (' ' :: characters) = readMembers? fuel characters := by
  cases fuel with
  | zero => rfl
  | succ fuel => rw [readMembers?, readMembers?]; rfl

theorem read_last_member (name : String)
    (read : readValue? fuel characters = some (value, '\x7d' :: after)) :
    readMembers? (fuel + 1) (writeString name.toList ++ ':' :: ' ' :: characters) =
      some ([(.string name, value)], after) := by
  have label := read_written_string name.toList (':' :: ' ' :: characters)
  rw [← read_value_after_space] at read
  rw [writeString, List.cons_append, List.append_assoc, readMembers?, skip_no_space _ rfl]
  simp only [List.singleton_append, label, skip_no_space ':' rfl, read,
    skip_no_space '\x7d' rfl, String.ofList_toList]

theorem read_next_member (name : String)
    (read : readValue? fuel characters = some (value, ',' :: ' ' :: after)) :
    readMembers? (fuel + 1) (writeString name.toList ++ ':' :: ' ' :: characters) =
      (readMembers? fuel after).map fun (entries, rest) =>
        ((.string name, value) :: entries, rest) := by
  have label := read_written_string name.toList (':' :: ' ' :: characters)
  rw [← read_value_after_space] at read
  rw [← read_members_after_space fuel after, writeString, List.cons_append, List.append_assoc,
    readMembers?, skip_no_space _ rfl]
  simp only [List.singleton_append, label, skip_no_space ':' rfl, read,
    skip_no_space ',' rfl, String.ofList_toList]

theorem read_full_list {first : Char} {later : List Char} {values : List Value}
    (opens : Opens first) (read : readItems? fuel (first :: later) = some (values, after)) :
    readValue? (fuel + 1) ('[' :: first :: later) = some (.list values, after) := by
  obtain ⟨visible, unclosed, -⟩ := opens
  simp only [readValue?, skip_no_space '[' rfl, skip_no_space _ visible]
  split
  · next same => exact (unclosed (List.cons.inj same).1).elim
  · rw [read]
    rfl

theorem read_full_mapping {first : Char} {later : List Char} {entries : List (Value × Value)}
    (opens : Opens first) (read : readMembers? fuel (first :: later) = some (entries, after)) :
    readValue? (fuel + 1) ('\x7b' :: first :: later) = some (.mapping entries, after) := by
  obtain ⟨visible, -, unclosed⟩ := opens
  simp only [readValue?, skip_no_space '\x7b' rfl, skip_no_space _ visible]
  split
  · next same => exact (unclosed (List.cons.inj same).1).elim
  · rw [read]
    rfl

end Steps

theorem read_items {items : List Value} {parts : List (List Char)}
    (written : List.Forall₂ IsTextOf items parts) (filled : items ≠ []) (fuel : Nat)
    (enough : (separated parts).length < fuel) (rest : List Char) :
    readItems? fuel (separated parts ++ ']' :: rest) = some (items, rest) := by
  -- the fuel that is left after an item is enough for the text that is left after it
  induction written generalizing fuel with
  | nil => exact (filled rfl).elim
  | @cons item part items parts first later ih =>
      obtain ⟨fuel, rfl⟩ : ∃ less, fuel = less + 1 := Nat.exists_eq_add_one.mpr (by omega)
      cases later with
      | nil =>
          rw [separated] at enough ⊢
          exact read_last_item (first.read_of_le (by omega) (ends_before rfl rest))
      | @cons second next items parts following others =>
          rw [separated_cons_cons] at enough ⊢
          simp only [List.length_append, List.length_cons] at enough
          rw [List.append_assoc, List.cons_append, List.cons_append,
            read_next_item (first.read_of_le (by omega) (ends_before rfl _)),
            ih (by simp) _ (by omega)]
          rfl

/-- The text of an entry of a mapping. -/
inductive IsMember : Value × Value → List Char → Prop where
  | intro {value : Value} {text : List Char} (name : String) (written : IsTextOf value text) :
      IsMember (.string name, value) (writeString name.toList ++ ':' :: ' ' :: text)

theorem read_members {entries : List (Value × Value)} {parts : List (List Char)}
    (written : List.Forall₂ IsMember entries parts) (filled : entries ≠ []) (fuel : Nat)
    (enough : (separated parts).length < fuel) (rest : List Char) :
    readMembers? fuel (separated parts ++ '\x7d' :: rest) = some (entries, rest) := by
  induction written generalizing fuel with
  | nil => exact (filled rfl).elim
  | @cons entry part entries parts first later ih =>
      obtain ⟨fuel, rfl⟩ : ∃ less, fuel = less + 1 := Nat.exists_eq_add_one.mpr (by omega)
      obtain ⟨name, value⟩ := first
      cases later with
      | nil =>
          rw [separated] at enough ⊢
          simp only [List.length_append, List.length_cons] at enough
          rw [List.append_assoc]
          exact read_last_member name (value.read_of_le (by omega) (ends_before rfl rest))
      | @cons second next entries parts following others =>
          rw [separated_cons_cons] at enough ⊢
          simp only [List.length_append, List.length_cons] at enough
          rw [List.append_assoc, List.append_assoc, List.cons_append, List.cons_append,
            List.cons_append, List.cons_append,
            read_next_member name (value.read_of_le (by omega) (ends_before rfl _)),
            ih (by simp) _ (by omega)]
          rfl

theorem IsMember.clear (entry : Value × Value) (part : List Char) (member : IsMember entry part) :
    IsClear part := by
  obtain ⟨name, written⟩ := member
  simpa using ⟨written_string_clear name.toList, written.clear⟩

theorem list_text {items : List Value} {parts : List (List Char)}
    (written : List.Forall₂ IsTextOf items parts) :
    IsTextOf (.list items) ('[' :: (separated parts ++ [']'])) where
  clear := by
    simpa using separated_clear (fun _ _ => IsTextOf.clear) written
  opens := ⟨'[', _, rfl, by decide⟩
  read := by
    intro fuel rest enough _
    simp only [List.length_cons, List.length_append] at enough
    rw [List.cons_append, List.append_assoc, List.singleton_append]
    cases written with
    | nil => rfl
    | @cons item part items parts first later =>
        have read := read_items (.cons first later) (by simp) fuel (by omega) rest
        obtain ⟨opening, others, rfl, opens⟩ := first.opens
        obtain ⟨more, begun⟩ := separated_begins (opening :: others) parts
        rw [begun] at read ⊢
        exact read_full_list opens read

theorem mapping_text {entries : List (Value × Value)} {parts : List (List Char)}
    (written : List.Forall₂ IsMember entries parts) :
    IsTextOf (.mapping entries) ('\x7b' :: (separated parts ++ ['\x7d'])) where
  clear := by
    simpa using separated_clear IsMember.clear written
  opens := ⟨'\x7b', _, rfl, by decide⟩
  read := by
    intro fuel rest enough _
    simp only [List.length_cons, List.length_append] at enough
    rw [List.cons_append, List.append_assoc, List.singleton_append]
    cases written with
    | nil => rfl
    | @cons entry part entries parts first later =>
        have read := read_members (.cons first later) (by simp) fuel (by omega) rest
        obtain ⟨name, value⟩ := first
        obtain ⟨more, begun⟩ := separated_begins _ parts
        rw [begun] at read ⊢
        exact read_full_mapping (show Opens '"' by decide) read

theorem items_text {items : List Value}
    (each : ∀ item ∈ items, ∃ text, write? item = some text ∧ IsTextOf item text) :
    ∃ parts, writeItems? items = some parts ∧ List.Forall₂ IsTextOf items parts := by
  induction items with
  | nil => exact ⟨[], rfl, .nil⟩
  | cons item items ih =>
      obtain ⟨part, written, text⟩ := each item List.mem_cons_self
      obtain ⟨parts, rest, texts⟩ := ih fun other present => each other (.tail _ present)
      exact ⟨part :: parts, by rw [writeItems?, written, rest], .cons text texts⟩

theorem entries_text {entries : List (Value × Value)}
    (named : ∀ entry ∈ entries, ∃ name, entry.1 = .string name)
    (each : ∀ entry ∈ entries, ∃ text, write? entry.2 = some text ∧ IsTextOf entry.2 text) :
    ∃ parts, writeEntries? entries = some parts ∧ List.Forall₂ IsMember entries parts := by
  induction entries with
  | nil => exact ⟨[], rfl, .nil⟩
  | cons entry entries ih =>
      obtain ⟨key, value⟩ := entry
      obtain ⟨name, rfl⟩ := named _ List.mem_cons_self
      obtain ⟨part, written, text⟩ := each _ List.mem_cons_self
      obtain ⟨parts, rest, texts⟩ := ih (fun other present => named other (.tail _ present))
        fun other present => each other (.tail _ present)
      exact ⟨_, by rw [writeEntries?, writeScalar?, written, rest],
        .cons (.intro name text) texts⟩

/-- Every exact value is written, and what is written of it is a text of it. -/
theorem exact_text {value : Value} (kept : Exact value) :
    ∃ text, write? value = some text ∧ IsTextOf value text := by
  induction kept with
  | null => exact ⟨_, rfl, null_text⟩
  | bool flag => exact ⟨_, rfl, bool_text flag⟩
  | @int number short =>
      refine ⟨_, ?_, int_text number⟩
      rw [write?, writeScalar?, Text.writeNumeral?, if_pos short]
      · simp [Text.decimal]
      all_goals exact fun _ same => nomatch same
  | string text => exact ⟨_, by rw [write?], string_text text⟩
  | list _ each =>
      obtain ⟨parts, written, texts⟩ := items_text each
      exact ⟨_, by rw [write?, written]; rfl, list_text texts⟩
  | mapping named _ each =>
      obtain ⟨parts, written, texts⟩ := entries_text named each
      exact ⟨_, by rw [write?, written]; rfl, mapping_text texts⟩

/-- What is written of an exact value is read back, and has no control characters. -/
theorem read_back {value : Value} (kept : Exact value) :
    ∃ line, text? value = some line ∧ IsClear line.toList ∧ read? line = some value := by
  obtain ⟨text, written, isText⟩ := exact_text kept
  have read := isText.read text.length [] (by omega) (fun _ present => nomatch present)
  rw [List.append_nil] at read
  refine ⟨String.ofList text, by rw [text?, written]; rfl, by simpa using isText.clear, ?_⟩
  simp only [read?, String.toList_ofList, read]
  rfl

end Teardown.Json
