import Mathlib.Data.List.TakeWhile
import Mathlib.Data.Nat.Digits.Defs
import Custody.Conversion

/-!
# Integers and their numerals

A numeral is said here by its form and its positional value, apart from the reader: an optional
sign and a run of ASCII digits.  The reader of 64-bit integers accepts exactly the numerals whose
value is one, and the writer writes such a numeral.  A text converts to an integer exactly when it
is a numeral of one with blanks around it.
-/

namespace Custody.Text

section Trimming

theorem dropWhile_isBlank_of_inside {text : List Char} (inside : ∀ c ∈ text, isBlank c = false) :
    text.dropWhile isBlank = text := by
  cases text with
  | nil => rfl
  | cons c rest => exact List.dropWhile_cons_of_neg (by simp [inside c List.mem_cons_self])

/-- Trimming cuts the blanks around a text without blanks. -/
theorem trim_padded {front text back : List Char} (filled : text ≠ [])
    (before : ∀ c ∈ front, isBlank c = true) (inside : ∀ c ∈ text, isBlank c = false)
    (after : ∀ c ∈ back, isBlank c = true) : trim (front ++ text ++ back) = text := by
  have stays := dropWhile_isBlank_of_inside inside
  have reversed : text.reverse.dropWhile isBlank = text.reverse :=
    dropWhile_isBlank_of_inside fun c member => inside c (List.mem_reverse.mp member)
  have behind : ∀ c ∈ back.reverse, isBlank c = true :=
    fun c member => after c (List.mem_reverse.mp member)
  rw [trim, List.append_assoc, List.dropWhile_append_of_pos before, List.dropWhile_append, stays,
    if_neg (by simpa using filled), List.reverse_append, List.dropWhile_append_of_pos behind,
    reversed, List.reverse_reverse]

/-- A text is what trimming leaves of it between blanks. -/
theorem exists_padding (text : List Char) : ∃ front back, text = front ++ trim text ++ back ∧
    (∀ c ∈ front, isBlank c = true) ∧ ∀ c ∈ back, isBlank c = true := by
  obtain ⟨inner, rest⟩ : ∃ inner, inner = text.dropWhile isBlank := ⟨_, rfl⟩
  refine ⟨text.takeWhile isBlank, (inner.reverse.takeWhile isBlank).reverse, ?_, ?_, ?_⟩
  · have ends : inner = trim text ++ (inner.reverse.takeWhile isBlank).reverse := by
      rw [trim, ← rest, ← List.reverse_append, List.takeWhile_append_dropWhile,
        List.reverse_reverse]
    calc text = text.takeWhile isBlank ++ inner := by
          rw [rest, List.takeWhile_append_dropWhile]
      _ = text.takeWhile isBlank ++ trim text ++ (inner.reverse.takeWhile isBlank).reverse := by
          rw [List.append_assoc, ← ends]
  · intro c member
    exact List.mem_takeWhile_imp member
  · intro c member
    exact List.mem_takeWhile_imp (List.mem_reverse.mp member)

end Trimming

end Custody.Text

namespace Custody.Decimal

section Numerals

/-- At least one ASCII digit, and nothing else. -/
def IsRun (digits : List Char) : Prop :=
  digits ≠ [] ∧ ∀ c ∈ digits, c.isDigit = true

/-- The positional value of digits in base ten, the last one with weight one. -/
def positional (digits : List Char) : Nat :=
  Nat.ofDigits 10 (digits.map fun c => c.toNat - '0'.toNat).reverse

/-- A numeral and the number it stands for. -/
inductive Numeral : List Char → Int → Prop
  | unsigned {digits} (run : IsRun digits) : Numeral digits (positional digits)
  | positive {digits} (run : IsRun digits) : Numeral ('+' :: digits) (positional digits)
  | negative {digits} (run : IsRun digits) : Numeral ('-' :: digits) (-positional digits)

/-- A text writes a number when it is a numeral of it with blanks around. -/
def Writes (text : List Char) (number : Int) : Prop :=
  ∃ front numeral back, text = front ++ numeral ++ back ∧ Numeral numeral number ∧
    (∀ c ∈ front, Text.isBlank c = true) ∧ ∀ c ∈ back, Text.isBlank c = true

theorem isBlank_of_isDigit {c : Char} (digit : c.isDigit = true) : Text.isBlank c = false := by
  obtain ⟨least, most⟩ := Char.isDigit_iff_toNat.mp digit
  simp only [Char.reduceToNat] at least most
  have other : c ≠ ' ' := by
    rintro rfl
    exact absurd digit (by decide)
  rw [Text.isBlank, if_pos (by omega)]
  simp [other]
  omega

theorem Numeral.ne_nil {text : List Char} {number : Int} (numeral : Numeral text number) :
    text ≠ [] := by
  cases numeral with
  | unsigned run => exact run.1
  | positive _ => exact List.cons_ne_nil _ _
  | negative _ => exact List.cons_ne_nil _ _

theorem Numeral.isBlank_eq_false {text : List Char} {number : Int} (numeral : Numeral text number) :
    ∀ c ∈ text, Text.isBlank c = false := by
  cases numeral with
  | unsigned run => exact fun c member => isBlank_of_isDigit (run.2 c member)
  | positive run =>
    exact List.forall_mem_cons.mpr ⟨by decide, fun c member => isBlank_of_isDigit (run.2 c member)⟩
  | negative run =>
    exact List.forall_mem_cons.mpr ⟨by decide, fun c member => isBlank_of_isDigit (run.2 c member)⟩

theorem writes_iff {text : List Char} {number : Int} :
    Writes text number ↔ Numeral (Text.trim text) number := by
  constructor
  · rintro ⟨front, numeral, back, rfl, spelled, before, after⟩
    rwa [Text.trim_padded spelled.ne_nil before spelled.isBlank_eq_false after]
  · intro spelled
    obtain ⟨front, back, split, before, after⟩ := Text.exists_padding text
    exact ⟨front, _, back, split, spelled, before, after⟩

end Numerals

section Reading

theorem ofDigitChars_eq_positional (digits : List Char) :
    Nat.ofDigitChars 10 digits 0 = positional digits := by
  induction digits with
  | nil => rfl
  | cons c digits ih =>
    rw [Nat.ofDigitChars_cons, Nat.ofDigitChars_eq_ofDigitChars_zero, ih, Nat.mul_zero,
      Nat.zero_add, Nat.add_comm]
    simp only [positional, List.map_cons, Nat.ofDigits_reverse_cons, List.length_map]

theorem natural?_eq_some_iff {digits : List Char} {number : Nat} :
    natural? digits = some number ↔ IsRun digits ∧ positional digits = number := by
  simp [natural?, IsRun, ofDigitChars_eq_positional]

theorem splitSign_of_run {digits : List Char} (run : IsRun digits) :
    splitSign digits = (false, digits) := by
  unfold splitSign
  split
  · exact absurd (run.2 '-' List.mem_cons_self) (by decide)
  · exact absurd (run.2 '+' List.mem_cons_self) (by decide)
  · rfl

/-- A numeral is a sign and digits that have a value. -/
theorem numeral_iff {text : List Char} {number : Int} : Numeral text number ↔
    ∃ magnitude : Nat, natural? (splitSign text).2 = some magnitude ∧
      number = if (splitSign text).1 then -(magnitude : Int) else magnitude := by
  simp only [natural?_eq_some_iff]
  constructor
  · intro numeral
    cases numeral with
    | unsigned run =>
      rw [splitSign_of_run run]
      exact ⟨_, ⟨run, rfl⟩, rfl⟩
    | positive run => exact ⟨_, ⟨run, rfl⟩, rfl⟩
    | negative run => exact ⟨_, ⟨run, rfl⟩, rfl⟩
  · rintro ⟨_, ⟨run, rfl⟩, rfl⟩
    revert run
    fun_cases splitSign text with
    | case1 digits => exact .negative
    | case2 digits => exact .positive
    | case3 => exact .unsigned

/-- A number in the 64-bit range is taken as it is, and no other number is taken. -/
theorem narrowed_eq_ok_iff {fits : Prop} [Decidable fits] {number : Int} {value : Int64}
    {fault : IntegerFault} (range : fits ↔ -2 ^ 63 ≤ number ∧ number < 2 ^ 63) :
    (if fits then .ok (Int64.ofInt number) else .error fault) = Except.ok value ↔
      value.toInt = number := by
  constructor
  · intro taken
    split at taken
    case isTrue within =>
      obtain ⟨least, most⟩ := range.mp within
      rw [← Except.ok.inj taken, Int64.toInt_ofInt_of_le least most]
    case isFalse => cases taken
  · rintro rfl
    rw [if_pos (range.mpr ⟨value.le_toInt, value.toInt_lt⟩), Int64.ofInt_toInt]

/-- The reader accepts the numerals of 64-bit integers and nothing else. -/
theorem readInt64_eq_ok_iff {text : List Char} {value : Int64} :
    readInt64 text = .ok value ↔ Numeral text value.toInt := by
  rw [numeral_iff, readInt64]
  by_cases empty : text = []
  · subst empty
    simp [splitSign, natural?]
  rw [if_neg empty]
  rcases splitSign text with ⟨negative, digits⟩
  cases found : natural? digits with
  | none => simp [found]
  | some magnitude =>
    simp only [found, Option.some.injEq, exists_eq_left']
    cases negative with
    | true => exact narrowed_eq_ok_iff (by rw [Nat.one_shiftLeft]; omega)
    | false => exact narrowed_eq_ok_iff (by rw [Nat.one_shiftLeft]; omega)

/-- The writer writes a numeral of the integer. -/
theorem numeral_ofInt64 (value : Int64) : Numeral (ofInt64 value) value.toInt := by
  rw [ofInt64]
  cases value.toInt with
  | ofNat number =>
    obtain ⟨run, same⟩ := natural?_eq_some_iff.mp (natural?_toDigits number)
    have numeral := Numeral.unsigned run
    rwa [same] at numeral
  | negSucc number =>
    obtain ⟨run, same⟩ := natural?_eq_some_iff.mp (natural?_toDigits (number + 1))
    have numeral := Numeral.negative run
    rwa [same] at numeral

/-- The decimal text of an integer is read as the integer. -/
theorem readInt64_ofInt64 (value : Int64) : readInt64 (ofInt64 value) = .ok value :=
  readInt64_eq_ok_iff.mpr (numeral_ofInt64 value)

end Reading

end Custody.Decimal

namespace Custody.Value

theorem convert_format (value : Int64) : (integer value).convert .format .string =
    .ok (some (.string (String.ofList (Decimal.ofInt64 value)))) := rfl

theorem convert_parse (text : String) : (string text).convert .parse .integer =
    .ok ((Decimal.readInt64 (Text.trim text.toList)).toOption.map .integer) := rfl

/-- A text is parsed as an integer exactly when it writes the integer. -/
theorem convert_parse_eq_some_iff {text : String} {value : Int64} :
    (string text).convert .parse .integer = .ok (some (.integer value)) ↔
      Decimal.Writes text.toList value.toInt := by
  rw [convert_parse, Decimal.writes_iff, ← Decimal.readInt64_eq_ok_iff]
  cases Decimal.readInt64 (Text.trim text.toList) with
  | error fault => simp [Except.toOption]
  | ok read => simp [Except.toOption]

/-- The value of a text that writes no 64-bit integer is left to the running program. -/
theorem convert_parse_eq_none_iff {text : String} :
    (string text).convert .parse .integer = .ok none ↔
      ∀ value : Int64, ¬ Decimal.Writes text.toList value.toInt := by
  simp only [← convert_parse_eq_some_iff, convert_parse]
  cases Decimal.readInt64 (Text.trim text.toList) with
  | error fault => simp [Except.toOption]
  | ok read => simp [Except.toOption]

/-- An integer is formatted as a text that is parsed as the integer again.  A text is parsed as an
integer exactly when it is a numeral of it between blanks, and when it writes no number of the
64-bit range, the conversion is legal but its value unknown. -/
theorem integer_format_parse :
    (∀ value : Int64, ∃ text, (integer value).convert .format .string = .ok (some (.string text)) ∧
      (string text).convert .parse .integer = .ok (some (.integer value))) ∧
    ∀ text : String,
      (∀ value : Int64, (string text).convert .parse .integer = .ok (some (.integer value)) ↔
        Decimal.Writes text.toList value.toInt) ∧
      ((string text).convert .parse .integer = .ok none ↔
        ¬ ∃ number, Decimal.Writes text.toList number ∧ -2 ^ 63 ≤ number ∧ number < 2 ^ 63) := by
  refine ⟨?_, fun text => ⟨fun value => convert_parse_eq_some_iff, ?_⟩⟩
  · intro value
    refine ⟨_, convert_format value, convert_parse_eq_some_iff.mpr ?_⟩
    rw [String.toList_ofList]
    exact ⟨[], _, [], by simp, Decimal.numeral_ofInt64 value, by simp, by simp⟩
  · rw [convert_parse_eq_none_iff]
    constructor
    · rintro unread ⟨number, writes, least, most⟩
      rw [← Int64.toInt_ofInt_of_le least most] at writes
      exact unread _ writes
    · intro outside value writes
      exact outside ⟨_, writes, value.le_toInt, value.toInt_lt⟩

end Custody.Value
