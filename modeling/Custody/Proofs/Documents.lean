import Mathlib.Data.List.DropRight
import Custody.Json.Codec

/-!
# Written documents are read back

A document whose strings have a text and whose numbers are integers is read back from its text.
The writers differ only in the blanks that they put between the parts of a document, so what is
shown here is shown of any such layout.
-/

namespace Custody.Json

/-! ## Blanks -/

theorem skipSpace_append {blanks : List Char} (blank : skipSpace blanks = []) (text : List Char) :
    skipSpace (blanks ++ text) = skipSpace text :=
  List.dropWhile_append_of_pos (List.dropWhile_eq_nil_iff.mp blank)

theorem skipSpace_cons {c : Char} (solid : skipSpace [c] = [c]) (text : List Char) :
    skipSpace (c :: text) = c :: text := by
  simp only [skipSpace, List.dropWhile_cons] at solid ⊢
  split at solid
  · cases solid
  · next visible => rw [if_neg visible]

theorem skipSpace_skipSpace (text : List Char) : skipSpace (skipSpace text) = skipSpace text :=
  List.dropWhile_idempotent _ text

theorem value?_skipSpace (bound : Nat) (text : List Char) :
    value? bound (skipSpace text) = value? bound text := by
  cases bound with
  | zero => rfl
  | succ bound => simp only [value?, skipSpace_skipSpace]

theorem elements?_skipSpace (bound : Nat) (text : List Char) :
    elements? bound (skipSpace text) = elements? bound text := by
  cases bound with
  | zero => rfl
  | succ bound => simp only [elements?, value?_skipSpace]

theorem members?_skipSpace (bound : Nat) (text : List Char) :
    members? bound (skipSpace text) = members? bound text := by
  cases bound with
  | zero => rfl
  | succ bound => simp only [members?, skipSpace_skipSpace]

theorem value?_blanks {blanks : List Char} (blank : skipSpace blanks = []) (bound : Nat)
    (text : List Char) : value? bound (blanks ++ text) = value? bound text := by
  rw [← value?_skipSpace, skipSpace_append blank, value?_skipSpace]

theorem elements?_blanks {blanks : List Char} (blank : skipSpace blanks = []) (bound : Nat)
    (text : List Char) : elements? bound (blanks ++ text) = elements? bound text := by
  rw [← elements?_skipSpace, skipSpace_append blank, elements?_skipSpace]

theorem members?_blanks {blanks : List Char} (blank : skipSpace blanks = []) (bound : Nat)
    (text : List Char) : members? bound (blanks ++ text) = members? bound text := by
  rw [← members?_skipSpace, skipSpace_append blank, members?_skipSpace]

/-! ## Strings -/

theorem hexDigit?_digitChar : ∀ digit < 16, hexDigit? (Nat.digitChar digit) = some digit := by
  decide

theorem pieces?_plain {c : Char} (quote : c ≠ '"') (visible : ¬c.toNat < 0x20) (escape : c ≠ '\\')
    (rest : List Char) : pieces? (c :: rest) = (pieces? rest).map (prepend (.character c)) := by
  rw [pieces?.eq_def]
  simp only [if_neg quote, if_neg visible, if_neg escape]

theorem pieces?_short {letter meant : Char} (known : escaped? letter = some meant)
    (rest : List Char) :
    pieces? ('\\' :: letter :: rest) = (pieces? rest).map (prepend (.character meant)) := by
  have other : letter ≠ 'u' := by
    rintro rfl
    cases known
  rw [pieces?.eq_3 _ _ _ (fun _ _ _ _ _ same _ => other same), if_neg (by decide),
    if_neg (by decide), if_pos rfl, known]
  cases pieces? rest <;> rfl

/-- A control character is written by its number. -/
theorem pieces?_control {code : Nat} (small : code < 0x20) (rest : List Char) :
    pieces? ('\\' :: 'u' :: '0' :: '0' :: Nat.digitChar (code / 16) :: Nat.digitChar (code % 16) ::
      rest) = (pieces? rest).map (prepend (.codeUnit code)) := by
  have unit : codeUnit? '0' '0' (Nat.digitChar (code / 16)) (Nat.digitChar (code % 16)) =
      some code := by
    have whole : 16 * (code / 16) + code % 16 = code := Nat.div_add_mod code 16
    rw [codeUnit?, hexDigit?_digitChar _ (by omega), hexDigit?_digitChar _ (by omega)]
    simp only [Option.pure_def, Option.bind_eq_bind, Option.bind_some, hexDigit?]
    simp
    omega
  rw [pieces?.eq_2, if_neg (by decide), if_neg (by decide), if_pos rfl, unit]
  cases pieces? rest <;> rfl

/-- Each character of a text is written as one piece, which stands for it. -/
theorem exists_piece (c : Char) : ∃ piece : Piece,
    (∀ rest, pieces? (escapeChar c ++ rest) = (pieces? rest).map (prepend piece)) ∧
      ∀ pieces, textOf? (piece :: pieces) = (textOf? pieces).map (c :: ·) := by
  rw [escapeChar]
  split_ifs with quote escape backspace tab newLine formFeed carriageReturn control
  iterate 7
    · subst c
      exact ⟨_, pieces?_short rfl, fun _ => rfl⟩
  · refine ⟨.codeUnit c.toNat, pieces?_control control, fun pieces => ?_⟩
    have apart : isHighSurrogate c.toNat = false ∧ isLowSurrogate c.toNat = false := by
      simp only [isHighSurrogate, isLowSurrogate, Bool.and_eq_false_iff, decide_eq_false_iff_not]
      omega
    rw [textOf?.eq_def]
    simp only [apart.1, apart.2, Bool.false_eq_true, if_false, Char.ofNat_toNat]
  · exact ⟨.character c, pieces?_plain quote control escape, fun _ => rfl⟩

/-- A text in quotes is read back through its closing quote. -/
theorem string?_escaped (text : String) (rest : List Char) :
    string? (text.toList.flatMap escapeChar ++ '"' :: rest) = some (some text, rest) := by
  have along (chars : List Char) : ∃ pieces,
      pieces? (chars.flatMap escapeChar ++ '"' :: rest) = some (pieces, rest) ∧
        textOf? pieces = some chars := by
    induction chars with
    | nil => exact ⟨[], by simp [pieces?.eq_def], rfl⟩
    | cons c chars ih =>
        obtain ⟨piece, read, meant⟩ := exists_piece c
        obtain ⟨pieces, found, texts⟩ := ih
        refine ⟨piece :: pieces, ?_, ?_⟩
        · rw [List.flatMap_cons, List.append_assoc, read, found]
          rfl
        · rw [meant, texts]
          rfl
  obtain ⟨pieces, found, texts⟩ := along text.toList
  simp [string?, found, texts]

theorem quoteText_append (name : String) (rest : List Char) :
    quoteText (some name) ++ rest = '"' :: (name.toList.flatMap escapeChar ++ '"' :: rest) := by
  simp [quoteText, quote]

/-! ## Numbers -/

/-- What may stand behind a number: nothing that could be a part of it. -/
def Ends (rest : List Char) : Prop :=
  ∀ c ∈ rest.head?, c.isDigit = false ∧ c ≠ '.' ∧ c ≠ 'e' ∧ c ≠ 'E'

theorem Ends.cons {c : Char} (stops : c.isDigit = false ∧ c ≠ '.' ∧ c ≠ 'e' ∧ c ≠ 'E')
    (rest : List Char) : Ends (c :: rest) := by
  rintro d ⟨rfl⟩
  exact stops

theorem digits?_append {digits rest : List Char} (nonempty : digits ≠ [])
    (all : ∀ c ∈ digits, c.isDigit = true) (ends : Ends rest) :
    digits? (digits ++ rest) = some (digits, rest) := by
  have taken : rest.takeWhile Char.isDigit = [] ∧ rest.dropWhile Char.isDigit = rest := by
    cases rest with
    | nil => exact ⟨rfl, rfl⟩
    | cons c rest => simp [(ends c rfl).1]
  simp only [digits?, List.takeWhile_append_of_pos all, List.dropWhile_append_of_pos all, taken,
    List.append_nil, List.isEmpty_iff, if_neg nonempty]

/-- No decimal text but that of zero begins with a zero. -/
theorem eq_zero_of_toDigits {value : Nat} {rest : List Char}
    (same : Nat.toDigits 10 value = '0' :: rest) : value = 0 := by
  induction value using Nat.strongRecOn generalizing rest with
  | ind value ih =>
      rcases Nat.lt_or_ge value 10 with small | large
      · rw [Nat.toDigits_of_lt_base small] at same
        exact Nat.digitChar_eq_zero.mp (List.cons.inj same).1
      · rw [Nat.toDigits_of_base_le (by decide) large] at same
        cases leading : Nat.toDigits 10 (value / 10) with
        | nil => exact absurd leading Nat.toDigits_ne_nil
        | cons c more =>
            rw [leading, List.cons_append] at same
            rw [(List.cons.inj same).1] at leading
            have zero := ih (value / 10) (by omega) leading
            omega

/-- The decimal text of a number begins with no sign. -/
theorem toDigits_append_ne_sign (value : Nat) (rest more : List Char) :
    Nat.toDigits 10 value ++ rest ≠ '-' :: more := by
  intro same
  cases written : Nat.toDigits 10 value with
  | nil => exact Nat.toDigits_ne_nil written
  | cons c digits =>
      have digit := Decimal.isDigit_toDigits value c (by simp [written])
      rw [written] at same
      rw [(List.cons.inj same).1] at digit
      cases digit

theorem whole?_toDigits (value : Nat) {rest : List Char} (ends : Ends rest) :
    whole? (Nat.toDigits 10 value ++ rest) = some (Nat.toDigits 10 value, rest) := by
  rcases Nat.eq_zero_or_pos value with rfl | positive
  · have stops : rest.head?.any Char.isDigit = false := by
      cases rest with
      | nil => rfl
      | cons c rest => simp [(ends c rfl).1]
    rw [Nat.toDigits_zero, List.cons_append, List.nil_append, whole?, stops]
    rfl
  · rw [whole?.eq_2, digits?_append Nat.toDigits_ne_nil (Decimal.isDigit_toDigits value) ends]
    intro more same
    cases written : Nat.toDigits 10 value with
    | nil => exact Nat.toDigits_ne_nil written
    | cons c digits =>
        rw [written] at same
        rw [(List.cons.inj same).1] at written
        exact positive.ne' (eq_zero_of_toDigits written)

theorem fraction?_of_ends {rest : List Char} (ends : Ends rest) :
    fraction? rest = some ([], rest) := by
  apply fraction?.eq_2
  rintro more rfl
  exact (ends '.' rfl).2.1 rfl

theorem exponent?_of_ends {rest : List Char} (ends : Ends rest) :
    exponent? rest = some ([], rest) := by
  cases rest with
  | nil => rfl
  | cons c rest =>
      have other : ¬(c = 'e' ∨ c = 'E') := by
        rintro (same | same)
        · exact (ends c rfl).2.2.1 same
        · exact (ends c rfl).2.2.2 same
      rw [exponent?.eq_def]
      simp only [if_neg other]

/-- The text of an integer is read up to its end. -/
theorem number?_ofInt (value : Int) {rest : List Char} (ends : Ends rest) :
    number? (Decimal.ofInt value ++ rest) = some (Decimal.ofInt value, rest) := by
  cases value with
  | ofNat value =>
      rw [Decimal.ofInt, number?.eq_2 _ (toDigits_append_ne_sign value rest),
        whole?_toDigits value ends]
      simp [fraction?_of_ends ends, exponent?_of_ends ends]
  | negSucc value =>
      rw [Decimal.ofInt, List.cons_append, number?.eq_1, whole?_toDigits _ ends]
      simp [fraction?_of_ends ends, exponent?_of_ends ends]

theorem integer?_ofInt (value : Int) : integer? (Decimal.ofInt value) = some value := by
  cases value with
  | ofNat value =>
      have unsigned := toDigits_append_ne_sign value []
      rw [List.append_nil] at unsigned
      rw [Decimal.ofInt, integer?.eq_2 _ unsigned, Decimal.natural?_toDigits]
      rfl
  | negSucc value =>
      rw [Decimal.ofInt, integer?.eq_1, Decimal.natural?_toDigits]
      rfl

theorem exists_ofInt (value : Int) :
    ∃ c rest, Decimal.ofInt value = c :: rest ∧ (c.isDigit = true ∨ c = '-') := by
  cases value with
  | ofNat value =>
      cases written : Nat.toDigits 10 value with
      | nil => exact absurd written Nat.toDigits_ne_nil
      | cons c digits =>
          have digit := Decimal.isDigit_toDigits value c (by simp [written])
          exact ⟨c, digits, written, .inl digit⟩
  | negSucc value => exact ⟨'-', _, rfl, .inr rfl⟩

theorem value?_number {c : Char} (head : c.isDigit = true ∨ c = '-') (bound : Nat)
    (rest : List Char) :
    value? (bound + 1) (c :: rest) =
      (number? (c :: rest)).map fun found => (.number found.1, found.2) := by
  have other (d : Char) (opens : d.isDigit = false ∧ d ≠ '-') : c ≠ d := by
    rintro rfl
    simp [opens.1, opens.2] at head
  have solid : skipSpace (c :: rest) = c :: rest := by
    simp [skipSpace, other ' ' (by decide), other '\n' (by decide), other '\t' (by decide),
      other '\r' (by decide)]
  rw [value?, solid]
  split
  case h_7 => rfl
  all_goals
    next same => exact absurd (List.cons.inj same).1 (other _ (by decide))

/-! ## Elements and members -/

theorem elements?_last {bound : Nat} {text after rest : List Char} {element : Json}
    (read : value? bound text = some (element, after)) (closes : skipSpace after = ']' :: rest) :
    elements? (bound + 1) text = some ([element], rest) := by
  simp only [elements?, read, closes, Option.bind_eq_bind, Option.bind_some]
  rfl

theorem elements?_more {bound : Nat} {text after next rest : List Char} {element : Json}
    {others : List Json} (read : value? bound text = some (element, after))
    (comma : skipSpace after = ',' :: next) (behind : elements? bound next = some (others, rest)) :
    elements? (bound + 1) text = some (element :: others, rest) := by
  simp only [elements?, read, comma, behind, Option.bind_eq_bind, Option.bind_some]
  rfl

/-- No document begins with a closing bracket. -/
theorem value?_closing {text rest : List Char} (closes : skipSpace text = ']' :: rest)
    (bound : Nat) : value? bound text = none := by
  cases bound with
  | zero => rfl
  | succ bound =>
      simp only [value?, closes]
      rfl

theorem value?_array {bound : Nat} {text rest : List Char} {elements : List Json}
    (read : elements? bound text = some (elements, rest)) :
    value? (bound + 1) ('[' :: text) = some (.array elements, rest) := by
  rw [value?, skipSpace_cons rfl]
  simp only
  split
  · next closes =>
      cases bound with
      | zero => cases read
      | succ bound =>
          rw [elements?, value?_closing closes] at read
          cases read
  · rw [elements?_skipSpace, read]
    rfl

section

variable {bound : Nat} {text body colon content after next rest : List Char}
  {name : Option String} {value : Json}

theorem members?_last (opens : skipSpace text = '"' :: body)
    (named : string? body = some (name, colon)) (parts : skipSpace colon = ':' :: content)
    (read : value? bound content = some (value, after))
    (closes : skipSpace after = '\x7d' :: rest) :
    members? (bound + 1) text = some ([(name, value)], rest) := by
  simp only [members?, opens, named, parts, read, closes, Option.bind_eq_bind, Option.bind_some]
  rfl

theorem members?_more {others : List (Option String × Json)} (opens : skipSpace text = '"' :: body)
    (named : string? body = some (name, colon)) (parts : skipSpace colon = ':' :: content)
    (read : value? bound content = some (value, after)) (comma : skipSpace after = ',' :: next)
    (behind : members? bound next = some (others, rest)) :
    members? (bound + 1) text = some ((name, value) :: others, rest) := by
  simp only [members?, opens, named, parts, read, comma, behind, Option.bind_eq_bind,
    Option.bind_some]
  rfl

theorem value?_object {members : List (Option String × Json)}
    (read : members? bound text = some (members, rest)) :
    value? (bound + 1) ('\x7b' :: text) = some (.object members, rest) := by
  rw [value?, skipSpace_cons rfl]
  simp only
  split
  · next closes =>
      cases bound with
      | zero => cases read
      | succ bound =>
          rw [members?, closes] at read
          cases read
  · rw [members?_skipSpace, read]
    rfl

end

/-! ## Layouts -/

/-- The blanks that a writer puts between the parts of a document. -/
structure Layout where
  /-- In front of an element, a member or a closing bracket at a depth. -/
  gap : Nat → List Char
  /-- Behind a colon. -/
  colonGap : List Char
  skip_gap : ∀ depth, skipSpace (gap depth) = []
  skip_colonGap : skipSpace colonGap = []

namespace Layout

/-- No blanks. -/
def oneLine : Layout where
  gap _ := []
  colonGap := []
  skip_gap _ := rfl
  skip_colonGap := rfl

/-- A line for each element and member. -/
def manyLines : Layout where
  gap := breakLine
  colonGap := [' ']
  skip_gap depth := by
    simp [skipSpace, breakLine]
  skip_colonGap := rfl

mutual

/-- A document in a layout. -/
def write (layout : Layout) (depth : Nat) : Json → List Char
  | .null => ['n', 'u', 'l', 'l']
  | .bool true => ['t', 'r', 'u', 'e']
  | .bool false => ['f', 'a', 'l', 's', 'e']
  | .number literal => literal
  | .string text => quoteText text
  | .array [] => ['[', ']']
  | .array (first :: rest) =>
    '[' :: (layout.gap (depth + 1) ++ (layout.write (depth + 1) first ++
      layout.writeElements depth rest))
  | .object [] => ['\x7b', '\x7d']
  | .object ((name, value) :: rest) =>
    '\x7b' :: (layout.gap (depth + 1) ++ (quoteText name ++ ':' :: (layout.colonGap ++
      (layout.write (depth + 1) value ++ layout.writeMembers depth rest))))

/-- The elements after the first, through the closing bracket. -/
def writeElements (layout : Layout) (depth : Nat) : List Json → List Char
  | [] => layout.gap depth ++ [']']
  | element :: rest =>
    ',' :: (layout.gap (depth + 1) ++ (layout.write (depth + 1) element ++
      layout.writeElements depth rest))

/-- The members after the first, through the closing brace. -/
def writeMembers (layout : Layout) (depth : Nat) : List (Option String × Json) → List Char
  | [] => layout.gap depth ++ ['\x7d']
  | (name, value) :: rest =>
    ',' :: (layout.gap (depth + 1) ++ (quoteText name ++ ':' :: (layout.colonGap ++
      (layout.write (depth + 1) value ++ layout.writeMembers depth rest))))

end

mutual

theorem write_oneLine (depth : Nat) : (json : Json) → oneLine.write depth json = json.compact
  | .null | .bool true | .bool false | .number _ | .string _ => by simp only [write, compact]
  | .array [] | .object [] => by simp only [write, compact]
  | .array (first :: rest) => by
      simp only [write, compact, write_oneLine, writeElements_oneLine]
      rfl
  | .object ((name, value) :: rest) => by
      simp only [write, compact, write_oneLine, writeMembers_oneLine]
      rfl

theorem writeElements_oneLine (depth : Nat) :
    (elements : List Json) → oneLine.writeElements depth elements = compactElements elements
  | [] => by
      simp only [writeElements, compactElements]
      rfl
  | element :: rest => by
      simp only [writeElements, compactElements, write_oneLine, writeElements_oneLine]
      rfl

theorem writeMembers_oneLine (depth : Nat) : (members : List (Option String × Json)) →
    oneLine.writeMembers depth members = compactMembers members
  | [] => by
      simp only [writeMembers, compactMembers]
      rfl
  | (name, value) :: rest => by
      simp only [writeMembers, compactMembers, write_oneLine, writeMembers_oneLine]
      rfl

end

mutual

theorem write_manyLines (depth : Nat) :
    (json : Json) → manyLines.write depth json = json.pretty depth
  | .null | .bool true | .bool false | .number _ | .string _ => by simp only [write, pretty]
  | .array [] | .object [] => by simp only [write, pretty]
  | .array (first :: rest) => by
      simp only [write, pretty, write_manyLines, writeElements_manyLines, List.append_assoc]
      rfl
  | .object ((name, value) :: rest) => by
      simp only [write, pretty, write_manyLines, writeMembers_manyLines, List.append_assoc]
      rfl

theorem writeElements_manyLines (depth : Nat) : (elements : List Json) →
    manyLines.writeElements depth elements = prettyElements depth elements
  | [] => by
      simp only [writeElements, prettyElements]
      rfl
  | element :: rest => by
      simp only [writeElements, prettyElements, write_manyLines, writeElements_manyLines,
        List.append_assoc]
      rfl

theorem writeMembers_manyLines (depth : Nat) : (members : List (Option String × Json)) →
    manyLines.writeMembers depth members = prettyMembers depth members
  | [] => by
      simp only [writeMembers, prettyMembers]
      rfl
  | (name, value) :: rest => by
      simp only [writeMembers, prettyMembers, write_manyLines, writeMembers_manyLines,
        List.append_assoc]
      rfl

end

/-! ## Reading -/

/-- A document is read back from its text in a layout, whatever stands behind it. -/
def Reads (layout : Layout) (json : Json) : Prop :=
  ∀ depth bound rest, (layout.write depth json).length ≤ bound → Ends rest →
    value? bound (layout.write depth json ++ rest) = some (json, rest)

variable (layout : Layout)

theorem skipSpace_gap (depth : Nat) {c : Char} (solid : skipSpace [c] = [c]) (rest : List Char) :
    skipSpace (layout.gap depth ++ c :: rest) = c :: rest := by
  rw [skipSpace_append (layout.skip_gap depth), skipSpace_cons solid]

theorem ends_gap (depth : Nat) {c : Char}
    (stops : c.isDigit = false ∧ c ≠ '.' ∧ c ≠ 'e' ∧ c ≠ 'E') (rest : List Char) :
    Ends (layout.gap depth ++ c :: rest) := by
  have blank := List.dropWhile_eq_nil_iff.mp (layout.skip_gap depth)
  cases leading : layout.gap depth with
  | nil => exact .cons stops rest
  | cons d more =>
      have space := blank d (by simp [leading])
      simp only [decide_eq_true_eq] at space
      apply Ends.cons
      rcases space with rfl | rfl | rfl | rfl <;> decide

theorem ends_elements (depth : Nat) (elements : List Json) (rest : List Char) :
    Ends (layout.writeElements depth elements ++ rest) := by
  cases elements with
  | nil =>
      rw [writeElements, List.append_assoc]
      exact layout.ends_gap depth (by decide) rest
  | cons element others =>
      rw [writeElements, List.cons_append]
      exact .cons (by decide) _

theorem ends_members (depth : Nat) (members : List (Option String × Json)) (rest : List Char) :
    Ends (layout.writeMembers depth members ++ rest) := by
  cases members with
  | nil =>
      rw [writeMembers, List.append_assoc]
      exact layout.ends_gap depth (by decide) rest
  | cons member others =>
      rw [writeMembers, List.cons_append]
      exact .cons (by decide) _

variable {layout}

/-- The elements of an array are read back through its closing bracket. -/
theorem elements?_write {element : Json} {others : List Json} (reads : layout.Reads element)
    (behind : ∀ other ∈ others, layout.Reads other) (depth : Nat) {bound : Nat}
    (enough : (layout.write (depth + 1) element).length +
      (layout.writeElements depth others).length ≤ bound) (rest : List Char) :
    elements? bound
        (layout.write (depth + 1) element ++ (layout.writeElements depth others ++ rest)) =
      some (element :: others, rest) := by
  induction others generalizing element bound with
  | nil =>
      simp only [writeElements, List.length_append, List.length_singleton] at enough
      obtain ⟨bound, rfl⟩ := Nat.exists_eq_add_one.mpr (by omega : 0 < bound)
      apply elements?_last
      · exact reads _ _ _ (by omega) (layout.ends_elements depth [] rest)
      · rw [writeElements, List.append_assoc]
        exact layout.skipSpace_gap depth rfl rest
  | cons second others ih =>
      rw [List.forall_mem_cons] at behind
      simp only [writeElements, List.length_append, List.length_cons] at enough
      obtain ⟨bound, rfl⟩ := Nat.exists_eq_add_one.mpr (by omega : 0 < bound)
      apply elements?_more
      · exact reads _ _ _ (by omega) (layout.ends_elements depth (second :: others) rest)
      · rw [writeElements, List.cons_append, skipSpace_cons rfl]
      · rw [List.append_assoc, List.append_assoc, elements?_blanks (layout.skip_gap _)]
        exact ih behind.1 behind.2 (by omega)

/-- The members of an object are read back through its closing brace. -/
theorem members?_write {name : Option String} {value : Json}
    {others : List (Option String × Json)} (named : name.isSome = true)
    (reads : layout.Reads value)
    (behind : ∀ member ∈ others, member.1.isSome = true ∧ layout.Reads member.2) (depth : Nat)
    {bound : Nat}
    (enough : (layout.write (depth + 1) value).length +
      (layout.writeMembers depth others).length ≤ bound) (rest : List Char) :
    members? bound (quoteText name ++ ':' :: (layout.colonGap ++
        (layout.write (depth + 1) value ++ (layout.writeMembers depth others ++ rest)))) =
      some ((name, value) :: others, rest) := by
  induction others generalizing name value bound with
  | nil =>
      obtain ⟨name, rfl⟩ := Option.isSome_iff_exists.mp named
      simp only [writeMembers, List.length_append, List.length_singleton] at enough
      obtain ⟨bound, rfl⟩ := Nat.exists_eq_add_one.mpr (by omega : 0 < bound)
      rw [quoteText_append]
      apply members?_last (skipSpace_cons rfl _) (string?_escaped name _) (skipSpace_cons rfl _)
      · rw [value?_blanks layout.skip_colonGap]
        exact reads _ _ _ (by omega) (layout.ends_members depth [] rest)
      · rw [writeMembers, List.append_assoc]
        exact layout.skipSpace_gap depth rfl rest
  | cons second others ih =>
      obtain ⟨name, rfl⟩ := Option.isSome_iff_exists.mp named
      rw [List.forall_mem_cons] at behind
      simp only [writeMembers, List.length_append, List.length_cons] at enough
      obtain ⟨bound, rfl⟩ := Nat.exists_eq_add_one.mpr (by omega : 0 < bound)
      rw [quoteText_append]
      apply members?_more (skipSpace_cons rfl _) (string?_escaped name _) (skipSpace_cons rfl _)
      · rw [value?_blanks layout.skip_colonGap]
        exact reads _ _ _ (by omega) (layout.ends_members depth (second :: others) rest)
      · rw [writeMembers, List.cons_append, skipSpace_cons rfl]
      · simp only [List.append_assoc, List.cons_append]
        rw [members?_blanks (layout.skip_gap _)]
        exact ih behind.1.1 behind.1.2 behind.2 (by omega)

theorem reads_null : layout.Reads .null := by
  intro depth bound rest enough ends
  rw [write, List.length_cons] at enough
  obtain ⟨bound, rfl⟩ := Nat.exists_eq_add_one.mpr (by omega : 0 < bound)
  rw [write]
  rfl

theorem reads_bool (value : Bool) : layout.Reads (.bool value) := by
  intro depth bound rest enough ends
  cases value <;>
    rw [write, List.length_cons] at enough <;>
    obtain ⟨bound, rfl⟩ := Nat.exists_eq_add_one.mpr (by omega : 0 < bound) <;>
    rw [write] <;>
    rfl

theorem reads_integer (value : Int) : layout.Reads (.ofInt value) := by
  intro depth bound rest enough ends
  simp only [write, Json.ofInt] at enough ⊢
  obtain ⟨c, digits, written, head⟩ := exists_ofInt value
  rw [written, List.length_cons] at enough
  obtain ⟨bound, rfl⟩ := Nat.exists_eq_add_one.mpr (by omega : 0 < bound)
  have read := number?_ofInt value ends
  rw [written, List.cons_append] at read ⊢
  rw [value?_number head, read]
  rfl

theorem reads_text (text : String) : layout.Reads (.text text) := by
  intro depth bound rest enough ends
  simp only [write, Json.text, quoteText, quote, List.length_cons] at enough
  obtain ⟨bound, rfl⟩ := Nat.exists_eq_add_one.mpr (by omega : 0 < bound)
  rw [Json.text, write, quoteText_append, value?, skipSpace_cons rfl]
  simp only [string?_escaped, Option.map_some]

theorem reads_array {elements : List Json} (reads : ∀ element ∈ elements, layout.Reads element) :
    layout.Reads (.array elements) := by
  intro depth bound rest enough ends
  cases elements with
  | nil =>
      rw [write, List.length_cons] at enough
      obtain ⟨bound, rfl⟩ := Nat.exists_eq_add_one.mpr (by omega : 0 < bound)
      rw [write]
      rfl
  | cons element others =>
      rw [List.forall_mem_cons] at reads
      simp only [write, List.length_cons, List.length_append] at enough
      obtain ⟨bound, rfl⟩ := Nat.exists_eq_add_one.mpr (by omega : 0 < bound)
      simp only [write, List.cons_append, List.append_assoc]
      apply value?_array
      rw [elements?_blanks (layout.skip_gap _)]
      exact elements?_write reads.1 reads.2 depth (by omega) rest

theorem reads_object {members : List (Option String × Json)}
    (reads : ∀ member ∈ members, member.1.isSome = true ∧ layout.Reads member.2) :
    layout.Reads (.object members) := by
  intro depth bound rest enough ends
  cases members with
  | nil =>
      rw [write, List.length_cons] at enough
      obtain ⟨bound, rfl⟩ := Nat.exists_eq_add_one.mpr (by omega : 0 < bound)
      rw [write]
      rfl
  | cons member others =>
      rw [List.forall_mem_cons] at reads
      simp only [write, List.length_cons, List.length_append] at enough
      obtain ⟨bound, rfl⟩ := Nat.exists_eq_add_one.mpr (by omega : 0 < bound)
      simp only [write, List.cons_append, List.append_assoc]
      apply value?_object
      rw [members?_blanks (layout.skip_gap _)]
      exact members?_write reads.1.1 reads.1.2 reads.2 depth (by omega) rest

end Layout

/-! ## Plain documents -/

namespace Plain

theorem mono {depth deeper : Nat} {json : Json} (plain : Plain depth json)
    (deep : depth ≤ deeper) : Plain deeper json := by
  induction plain generalizing deeper with
  | null => exact .null deeper
  | bool depth value => exact .bool deeper value
  | integer depth inRange => exact .integer deeper inRange
  | text depth value => exact .text deeper value
  | array each ih =>
      obtain ⟨deeper, rfl⟩ := Nat.exists_eq_add_one.mpr (by omega : 0 < deeper)
      exact .array fun element inside => ih element inside (by omega)
  | object named each ih =>
      obtain ⟨deeper, rfl⟩ := Nat.exists_eq_add_one.mpr (by omega : 0 < deeper)
      exact .object named fun member inside => ih member inside (by omega)

theorem of_object {depth : Nat} {members : List (Option String × Json)}
    (plain : Plain (depth + 1) (.object members)) :
    (∀ member ∈ members, member.1.isSome = true) ∧ ∀ member ∈ members, Plain depth member.2 := by
  cases plain with
  | object named each => exact ⟨named, each⟩

theorem reads {depth : Nat} {json : Json} (plain : Plain depth json) (layout : Layout) :
    layout.Reads json := by
  induction plain with
  | null => exact Layout.reads_null
  | bool depth value => exact Layout.reads_bool value
  | integer depth inRange => exact Layout.reads_integer _
  | text depth value => exact Layout.reads_text value
  | array each ih => exact Layout.reads_array ih
  | object named each ih =>
      exact Layout.reads_object fun member inside => ⟨named member inside, ih member inside⟩

theorem areReadable {depth : Nat} {elements : List Json}
    (each : ∀ element ∈ elements, element.isReadable depth = true) :
    Json.areReadable depth elements = true := by
  induction elements with
  | nil => rw [Json.areReadable]
  | cons element others ih =>
      rw [List.forall_mem_cons] at each
      rw [Json.areReadable, each.1, ih each.2]
      rfl

theorem membersReadable {depth : Nat} {members : List (Option String × Json)}
    (named : ∀ member ∈ members, member.1.isSome = true)
    (each : ∀ member ∈ members, member.2.isReadable depth = true) :
    Json.membersReadable depth members = true := by
  induction members with
  | nil => rw [Json.membersReadable]
  | cons member others ih =>
      rw [List.forall_mem_cons] at named each
      rw [Json.membersReadable, named.1, each.1, ih named.2 each.2]
      rfl

theorem isReadable {depth : Nat} {json : Json} (plain : Plain depth json) :
    json.isReadable depth = true := by
  induction plain with
  | null | bool => rw [Json.isReadable]
  | integer depth inRange =>
      simp [Json.ofInt, Json.isReadable, integer?_ofInt, inRange]
  | text depth value =>
      rw [Json.text, Json.isReadable]
      rfl
  | array each ih =>
      rw [Json.isReadable]
      exact areReadable ih
  | object named each ih =>
      rw [Json.isReadable]
      exact membersReadable named ih

/-- A plain document is read back from its text. -/
theorem read?_write {depth : Nat} {json : Json} (plain : Plain depth json) (layout : Layout)
    (start : Nat) : read? (String.ofList (layout.write start json)) = some json := by
  have ends : Ends [] := by
    rintro c ⟨⟩
  have read :=
    plain.reads layout start (2 * (layout.write start json).length + 2) [] (by omega) ends
  rw [List.append_nil] at read
  simp only [read?, String.toList_ofList, read]
  rfl

theorem read?_render {depth : Nat} {json : Json} (plain : Plain depth json) :
    read? json.render = some json := by
  rw [render, ← Layout.write_oneLine 0]
  exact plain.read?_write .oneLine 0

theorem read?_renderPretty {depth : Nat} {json : Json} (plain : Plain depth json) :
    read? json.renderPretty = some json := by
  rw [renderPretty, ← Layout.write_manyLines]
  exact plain.read?_write .manyLines 0

end Plain

end Custody.Json
