import Custody.Operation.Parser
import Custody.Operation.Printer
import Custody.Proofs.Lexing
import Custody.Proofs.Numerals

/-!
# Printed operations as chunks

The written form of an operation, cut into its tokens.  A token is written with the gap in front of
it, and in front of what may follow it there: a blank, a mark, or the dots of a range.
-/

namespace Custody

/-! ## Letters and blanks -/

theorem Text.Ranges.contains_eq_false {left right : Ranges}
    (apart : ∀ a ∈ left, ∀ b ∈ right, a.2 < b.1 ∨ b.2 < a.1) {code : Nat}
    (inside : left.contains code = true) : right.contains code = false := by
  rw [Bool.eq_false_iff]
  intro both
  obtain ⟨a, first, low, high⟩ := (Ranges.contains_eq_true left code).mp inside
  obtain ⟨b, second, start, stop⟩ := (Ranges.contains_eq_true right code).mp both
  cases apart a first b second with
  | inl before => omega
  | inr behind => omega

theorem Text.letters_apart :
    ∀ a ∈ letterRanges, ∀ b ∈ blankRanges, a.2 < b.1 ∨ b.2 < a.1 := by
  decide +kernel

/-- No name begins with a blank or a comment. -/
theorem solid_of_isNameStart {c : Char} (starts : isNameStart c = true) :
    c ≠ '#' ∧ Text.isBlank c = false := by
  by_cases ascii : c.toNat < 0x80
  · have solid : ∀ code < 0x80, isNameStart (Char.ofNat code) = true →
        Char.ofNat code ≠ '#' ∧ Text.isBlank (Char.ofNat code) = false := by decide
    have plain := solid c.toNat ascii
    rw [Char.ofNat_toNat] at plain
    exact plain starts
  · have letter : Text.letterRanges.contains c.toNat = true := by
      have underscore : c ≠ '_' := by
        rintro rfl
        exact ascii (by decide)
      simpa [isNameStart, Text.isLetter, ascii, underscore] using starts
    constructor
    · rintro rfl
      exact ascii (by decide)
    · rw [Text.isBlank, if_neg ascii]
      exact Text.Ranges.contains_eq_false Text.letters_apart letter

/-! ## What stands behind a printed token -/

/-- The characters that stand behind a printed token, unless it is the dots of a range. -/
def separators : List Char :=
  [' ', ',', ':', '[', ']', '\x7d']

/-- A text that ends a printed token in front of it. -/
def Breaks (rest : List Char) : Prop :=
  (∀ c ∈ rest.head?, c ∈ separators) ∨ ∃ more, rest = '.' :: '.' :: more

theorem breaks_nil : Breaks [] :=
  .inl (by simp)

theorem breaks_cons {c : Char} (separates : c ∈ separators) (rest : List Char) :
    Breaks (c :: rest) :=
  .inl (by simpa using separates)

theorem Breaks.head {rest : List Char} (breaks : Breaks rest) {p : Char → Prop}
    (all : ∀ c ∈ '.' :: separators, p c) : ∀ c ∈ rest.head?, p c := by
  intro c first
  cases breaks with
  | inl separates => exact all c (List.mem_cons_of_mem _ (separates c first))
  | inr dots =>
    obtain ⟨more, rfl⟩ := dots
    obtain rfl : '.' = c := by simpa using first
    exact all '.' List.mem_cons_self

/-- Chunks of one line that can be read in front of a text that ends their last token. -/
structure Fits (chunks : List Chunk) : Prop where
  going : ∀ chunk ∈ chunks, chunk.kind ≠ .lineEnd
  fit : ∀ {rest}, Breaks rest → Chunk.Fit chunks rest

/-- Chunks that can be read behind a token too, since they end it. -/
structure Joins (chunks : List Chunk) : Prop extends Fits chunks where
  breaks : ∀ {rest}, Breaks rest → Breaks (chunks.flatMap Chunk.chars ++ rest)

section

variable {chunks more : List Chunk} {chunk : Chunk}

theorem joins_nil : Joins [] where
  going := by simp
  fit _ := trivial
  breaks := id

theorem Fits.append (fits : Fits chunks) (joins : Joins more) : Fits (chunks ++ more) where
  going := List.forall_mem_append.mpr ⟨fits.going, joins.going⟩
  fit breaks := Chunk.fit_append.mpr ⟨fits.fit (joins.breaks breaks), joins.fit breaks⟩

theorem Joins.append (joins : Joins chunks) (others : Joins more) : Joins (chunks ++ more) where
  toFits := joins.toFits.append others
  breaks breaks := by
    rw [List.flatMap_append, List.append_assoc]
    exact joins.breaks (others.breaks breaks)

theorem Fits.cons (fits : Fits [chunk]) (joins : Joins more) : Fits (chunk :: more) :=
  fits.append joins

theorem Joins.cons (joins : Joins [chunk]) (others : Joins more) : Joins (chunk :: more) :=
  joins.append others

theorem joins_flatMap {α : Type} {items : List α} {cut : α → List Chunk}
    (all : ∀ item ∈ items, Joins (cut item)) : Joins (items.flatMap cut) := by
  induction items with
  | nil => exact joins_nil
  | cons item items ih =>
    simp only [List.forall_mem_cons] at all
    rw [List.flatMap_cons]
    exact all.1.append (ih all.2)

/-- A chunk whose token can be read in front of everything that may follow a printed token. -/
structure Chunk.Legible (chunk : Chunk) : Prop where
  going : chunk.kind ≠ .lineEnd
  starts : ∃ c more, chunk.own = c :: more ∧ c ≠ '#' ∧ Text.isBlank c = false
  spelled : ∀ {rest}, Breaks rest → Spelled chunk.own chunk.kind chunk.text rest

theorem Skips.of_starts {own rest : List Char}
    (starts : ∃ c more, own = c :: more ∧ c ≠ '#' ∧ Text.isBlank c = false) :
    Skips false [] (own ++ rest) := by
  obtain ⟨c, more, rfl, solid⟩ := starts
  apply Skips.done
  intro d first
  obtain rfl : c = d := by simpa using first
  exact .inr ⟨rfl, solid⟩

theorem Skips.blanks {rest : List Char} (skips : Skips false [] rest) (count : Nat) :
    Skips false (List.replicate count ' ') rest := by
  induction count with
  | zero => exact skips
  | succ count ih => exact .blank (by decide) (by decide) (by decide) ih

theorem Chunk.Legible.fits (legible : chunk.Legible) (bare : chunk.gap = []) : Fits [chunk] where
  going := by simpa using legible.going
  fit breaks := by
    refine ⟨?_, legible.spelled breaks, trivial⟩
    rw [bare]
    exact .of_starts legible.starts

theorem Chunk.Legible.joins (legible : chunk.Legible) (apart : chunk.gap = [' ']) :
    Joins [chunk] where
  going := by simpa using legible.going
  fit breaks := by
    refine ⟨?_, legible.spelled breaks, trivial⟩
    rw [apart]
    exact (Skips.of_starts legible.starts).blanks 1
  breaks _ := by
    rw [List.flatMap_singleton, Chunk.chars, apart]
    exact breaks_cons (by decide) _

end

/-! ## Marks -/

namespace Chunk

/-- A mark behind a gap. -/
def mark (gap : List Char) (c : Char) (kind : Token.Kind) : Chunk :=
  ⟨gap, [c], kind, [c]⟩

/-- The dots of a range. -/
def dots : Chunk :=
  ⟨[], ['.', '.'], .range, ['.', '.']⟩

/-- The arrow of a transfer. -/
def arrow : Chunk :=
  ⟨[' '], ['<', '-'], .arrow, ['<', '-']⟩

variable {gap : List Char} {c : Char} {kind : Token.Kind} {more : List Chunk}

theorem mark_starts (known : Token.Kind.ofMark? c = some kind) :
    ∃ d rest, [c] = d :: rest ∧ d ≠ '#' ∧ Text.isBlank d = false := by
  have solid : ∀ d ∈ marks, d ≠ '#' ∧ Text.isBlank d = false := forall_mem_of_all (by decide)
  exact ⟨c, [], rfl, solid c (Token.Kind.mem_marks known)⟩

theorem mark_legible (known : Token.Kind.ofMark? c = some kind) (going : kind ≠ .lineEnd) :
    (mark gap c kind).Legible where
  going := going
  starts := mark_starts known
  spelled _ := .mark known _

theorem arrow_legible : arrow.Legible where
  going := by decide
  starts := ⟨'<', ['-'], rfl, by decide⟩
  spelled _ := .arrow _

/-- What stands behind a mark need not end it. -/
theorem mark_joins (known : Token.Kind.ofMark? c = some kind) (going : kind ≠ .lineEnd)
    (separates : c ∈ separators) (fits : Fits more) : Joins (mark [] c kind :: more) where
  going := List.forall_mem_cons.mpr ⟨going, fits.going⟩
  fit breaks := ⟨.of_starts (mark_starts known), .mark known _, fits.fit breaks⟩
  breaks _ := breaks_cons separates _

theorem mark_apart_joins (known : Token.Kind.ofMark? c = some kind) (going : kind ≠ .lineEnd)
    (fits : Fits more) : Joins (mark [' '] c kind :: more) where
  going := List.forall_mem_cons.mpr ⟨going, fits.going⟩
  fit breaks := by
    refine ⟨?_, .mark known _, fits.fit breaks⟩
    exact (Skips.of_starts (mark_starts known)).blanks 1
  breaks _ := breaks_cons (by decide) _

theorem dots_joins (fits : Fits more) : Joins (dots :: more) where
  going := List.forall_mem_cons.mpr ⟨by decide, fits.going⟩
  fit breaks := ⟨.of_starts ⟨'.', ['.'], rfl, by decide⟩, .range _, fits.fit breaks⟩
  breaks _ := .inr ⟨_, rfl⟩

end Chunk

/-! ## Names -/

/-- Whether characters are an identifier. -/
def isIdentifier : List Char → Bool
  | [] => false
  | c :: more => isNameStart c && more.all isNameChar

/-- An identifier that is no literal. -/
def IsName (name : String) : Prop :=
  isIdentifier name.toList = true ∧ name ≠ "true" ∧ name ≠ "false"

instance : DecidablePred IsName :=
  fun _ => inferInstanceAs (Decidable (_ ∧ _ ∧ _))

namespace Chunk

/-- A name behind a gap. -/
def name (gap : List Char) (text : String) : Chunk :=
  ⟨gap, text.toList, .name, text.toList⟩

theorem name_legible {text : String} (valid : IsName text) (gap : List Char) :
    (name gap text).Legible := by
  obtain ⟨identifier, notTrue, notFalse⟩ := valid
  have kind : Token.Kind.ofWord text.toList = .name := by
    have yes : text.toList ≠ ['t', 'r', 'u', 'e'] := fun same =>
      notTrue (String.toList_inj.mp same)
    have no : text.toList ≠ ['f', 'a', 'l', 's', 'e'] := fun same =>
      notFalse (String.toList_inj.mp same)
    rw [Token.Kind.ofWord, if_neg yes, if_neg no]
  unfold name
  cases chars : text.toList with
  | nil => simp [chars, isIdentifier] at identifier
  | cons c more =>
    rw [chars] at identifier kind
    simp only [isIdentifier, Bool.and_eq_true, List.all_eq_true] at identifier
    refine ⟨Token.Kind.noConfusion, ⟨c, more, rfl, solid_of_isNameStart identifier.1⟩, ?_⟩
    intro rest breaks
    have stops : ∀ d ∈ '.' :: separators, isNameChar d = false := forall_mem_of_all (by decide)
    have spelled := Spelled.word identifier.1 identifier.2 (breaks.head stops)
    rwa [kind] at spelled

theorem name_fits {text : String} (valid : IsName text) : Fits [name [] text] :=
  (name_legible valid []).fits rfl

theorem name_joins {text : String} (valid : IsName text) : Joins [name [' '] text] :=
  (name_legible valid [' ']).joins rfl

end Chunk

/-! ## Values -/

namespace Value

/-- The token of a literal: its kind, and its text. -/
def spelling : Value → Token.Kind × List Char
  | .integer value => (.integer, Decimal.ofInt64 value)
  | .float value => (.float, value.literal)
  | .string text => (.string, text.toList)
  | .bool true => (.yes, ['t', 'r', 'u', 'e'])
  | .bool false => (.no, ['f', 'a', 'l', 's', 'e'])
  | .bytes data => (.bytes, data.flatMap byteDigits)

/-- A literal behind a gap. -/
def chunk (gap : List Char) (value : Value) : Chunk :=
  ⟨gap, value.literal, value.spelling.1, value.spelling.2⟩

/-- A literal that is read as it is written: no float, and no character that has no short escape
and does not show as itself. -/
def Writable : Value → Prop
  | .float _ => False
  | .string text => ∀ c ∈ text.toList,
      Text.Quoted.encodeChar c = [c] ∨ (Text.Quoted.shortEscape? c).isSome = true
  | _ => True

instance : DecidablePred Writable
  | .integer _ => .isTrue trivial
  | .float _ => .isFalse id
  | .string text => List.decidableBAll _ text.toList
  | .bool _ => .isTrue trivial
  | .bytes _ => .isTrue trivial

theorem digits_of_all {digits rest : List Char} (all : ∀ c ∈ digits, c.isDigit = true)
    (breaks : Breaks rest) : Digits false digits digits false rest := by
  induction digits with
  | nil =>
    have stops : ∀ c ∈ '.' :: separators, c.isDigit = false ∧ c ≠ '_' :=
      forall_mem_of_all (by decide)
    refine .done (breaks.head stops) ?_
    rintro c more rfl
    cases breaks with
    | inl separates => exact absurd (separates '.' rfl) (by decide)
    | inr dots =>
      obtain ⟨tail, same⟩ := dots
      rw [(List.cons.inj (List.cons.inj same).2).1]
      exact .inr (by decide)
  | cons c digits ih =>
    simp only [List.forall_mem_cons] at all
    exact .digit all.1 (ih all.2)

theorem solid_of_isDigit {c : Char} (digit : c.isDigit = true) :
    c ≠ '#' ∧ Text.isBlank c = false := by
  refine ⟨?_, Decimal.isBlank_of_isDigit digit⟩
  rintro rfl
  exact absurd digit (by decide)

/-- The digits of a number behind a sign. -/
theorem numeral_spelled {sign : List Char} (signed : sign = ['-'] ∨ sign = []) (number : Nat) :
    (∃ c more, sign ++ Nat.toDigits 10 number = c :: more ∧ c ≠ '#' ∧ Text.isBlank c = false) ∧
      ∀ {rest}, Breaks rest → Spelled (sign ++ Nat.toDigits 10 number) .integer
        (sign ++ Nat.toDigits 10 number) rest := by
  have all := Decimal.isDigit_toDigits number
  have other : ∀ c ∈ '.' :: separators, c ≠ 'x' := forall_mem_of_all (by decide)
  cases digits : Nat.toDigits 10 number with
  | nil => exact absurd digits Nat.toDigits_ne_nil
  | cons c more =>
    rw [digits] at all
    have first : c.isDigit = true := all c List.mem_cons_self
    have plain : c ≠ '-' := by
      rintro rfl
      exact absurd first (by decide)
    cases signed with
    | inl minus =>
      subst minus
      refine ⟨⟨'-', c :: more, rfl, by decide⟩, fun breaks => ?_⟩
      exact .number (digits_of_all all breaks) (by simp) (.inl rfl) fun _ => breaks.head other
    | inr none =>
      subst none
      refine ⟨⟨c, more, rfl, solid_of_isDigit first⟩, fun breaks => ?_⟩
      exact .number (digits_of_all all breaks) (by simp [plain]) (.inr ⟨rfl, c, more, rfl, first⟩)
        fun _ => breaks.head other

theorem integer_legible (value : Int64) (gap : List Char) :
    (chunk gap (.integer value)).Legible := by
  have numeral : ∃ sign number, (sign = ['-'] ∨ sign = []) ∧
      Decimal.ofInt64 value = sign ++ Nat.toDigits 10 number := by
    rw [Decimal.ofInt64]
    cases value.toInt with
    | ofNat number => exact ⟨[], number, .inr rfl, rfl⟩
    | negSucc number => exact ⟨['-'], number + 1, .inl rfl, rfl⟩
  obtain ⟨sign, number, signed, same⟩ := numeral
  obtain ⟨starts, spelled⟩ := numeral_spelled signed number
  rw [← same] at starts spelled
  exact ⟨Token.Kind.noConfusion, starts, spelled⟩

/-- A character without a short escape can stand in a string as itself. -/
theorem plain_of_shortEscape? {c : Char} (short : Text.Quoted.shortEscape? c = none) :
    c ≠ '\n' ∧ c ≠ '"' ∧ c ≠ '\\' := by
  refine ⟨?_, ?_, ?_⟩ <;>
  · rintro rfl
    exact absurd short (by decide)

theorem inside_of_writable {text : List Char}
    (writable : ∀ c ∈ text, Text.Quoted.encodeChar c = [c] ∨
      (Text.Quoted.shortEscape? c).isSome = true) :
    Inside (text.flatMap Text.Quoted.encodeChar) text := by
  induction text with
  | nil => exact .nil
  | cons c text ih =>
    simp only [List.forall_mem_cons] at writable
    have more := ih writable.2
    rw [List.flatMap_cons]
    cases short : Text.Quoted.shortEscape? c with
    | some letter =>
      have encoded : Text.Quoted.encodeChar c = ['\\', letter] := by
        rw [Text.Quoted.encodeChar, short]
      rw [encoded]
      exact .escape (Text.Quoted.ofShortEscape?_eq_some_iff.mpr short) more
    | none =>
      obtain ⟨along, unquoted, unescaped⟩ := plain_of_shortEscape? short
      rw [writable.1.resolve_right (by simp [short])]
      exact .plain along unquoted unescaped more

theorem byteDigit_spec : ∀ digit < 16, isHexDigit (Nat.digitChar digit) = true ∧
    Reading.bytesOfDigits?.digit (Nat.digitChar digit) = digit := by
  decide

/-- The digits of bytes are even in number and are read as the bytes. -/
theorem byteDigits_spec (data : List UInt8) :
    (∀ c ∈ data.flatMap byteDigits, isHexDigit c = true) ∧
      (data.flatMap byteDigits).length % 2 = 0 ∧
      Reading.bytesOfDigits? (data.flatMap byteDigits) = some data := by
  induction data with
  | nil => exact ⟨by simp, rfl, rfl⟩
  | cons byte data ih =>
    obtain ⟨hex, even, read⟩ := ih
    have small : byte.toNat < 256 := byte.toNat_lt
    obtain ⟨highHex, high⟩ := byteDigit_spec (byte.toNat / 16) (by omega)
    obtain ⟨lowHex, low⟩ := byteDigit_spec (byte.toNat % 16) (by omega)
    rw [List.flatMap_cons, byteDigits]
    refine ⟨?_, ?_, ?_⟩
    · simpa [highHex, lowHex] using hex
    · rw [List.length_append]
      exact (Nat.add_mod_left 2 _).trans even
    · have whole : 16 * (byte.toNat / 16) + byte.toNat % 16 = byte.toNat := Nat.div_add_mod ..
      simp [Reading.bytesOfDigits?, highHex, lowHex, high, low, whole, read]

theorem legible {value : Value} (writable : value.Writable) (gap : List Char) :
    (value.chunk gap).Legible := by
  cases value with
  | integer value => exact integer_legible value gap
  | float value => exact writable.elim
  | string text =>
    refine ⟨Token.Kind.noConfusion, ⟨'"', _, rfl, by decide⟩, fun _ => ?_⟩
    exact .string (inside_of_writable writable).quotes _
  | bool value =>
    have stops : ∀ d ∈ '.' :: separators, isNameChar d = false := forall_mem_of_all (by decide)
    cases value with
    | true =>
      refine ⟨Token.Kind.noConfusion, ⟨'t', _, rfl, by decide⟩, fun breaks => ?_⟩
      exact .word (by decide) (forall_mem_of_all (by decide)) (breaks.head stops)
    | false =>
      refine ⟨Token.Kind.noConfusion, ⟨'f', _, rfl, by decide⟩, fun breaks => ?_⟩
      exact .word (by decide) (forall_mem_of_all (by decide)) (breaks.head stops)
  | bytes data =>
    have stops : ∀ c ∈ '.' :: separators, isHexDigit c = false := forall_mem_of_all (by decide)
    obtain ⟨hex, even, -⟩ := byteDigits_spec data
    refine ⟨Token.Kind.noConfusion, ⟨'0', _, rfl, by decide⟩, fun breaks => ?_⟩
    exact .bytes (.inr rfl) hex even (breaks.head stops)

end Value

/-! ## Operations -/

/-- Keys with commas between them. -/
def Value.listing : List Value → List Chunk
  | [] => []
  | first :: rest =>
    first.chunk [] :: rest.flatMap fun key => [.mark [] ',' .comma, key.chunk [' ']]

/-- The tokens of an extent. -/
def Extent.chunks : Extent → List Chunk
  | .range low high =>
    [.mark [' '] '[' .leftSquare, Value.chunk [] (.integer low), .dots,
      Value.chunk [] (.integer high), .mark [] ']' .rightSquare]
  | .keys members =>
    .mark [' '] '\x7b' .leftBrace :: (Value.listing members ++ [.mark [] '\x7d' .rightBrace])

/-- The tokens of an operand. -/
def Operand.chunks : Operand → List Chunk
  | .value literal => [literal.chunk [' ']]
  | .transfer source .move => [.arrow, .name [' '] source]
  | .transfer source effect => [.arrow, .name [' '] effect.name, .name [' '] source]

/-- The tokens of the options of a push. -/
def optionChunks (key : Option Value) (conversion : Option Conversion) : List Chunk :=
  key.toList.flatMap (fun key => [.name [' '] "key", key.chunk [' ']]) ++
    conversion.toList.flatMap fun conversion => [.name [' '] "as", .name [' '] conversion.name]

/-- The tokens of a captured binding. -/
def Capture.chunks (capture : Capture) : List Chunk :=
  if capture.take then [.name [' '] "take", .name [' '] capture.binding]
  else [.name [' '] capture.binding]

/-- Captured bindings with commas between them. -/
def Capture.listing : List Capture → List Chunk
  | [] => []
  | first :: rest => first.chunks ++ rest.flatMap fun capture =>
      .mark [] ',' .comma :: capture.chunks

/-- The tokens of an operation. -/
def Operation.chunks : Operation → List Chunk
  | .declare container element key mode =>
    .name [] "declare" :: .name [' '] container :: .mark [] ':' .colon ::
      .name [' '] element.name ::
      ((match key with
        | some key => [.mark [] '[' .leftSquare, .name [] key.name, .mark [] ']' .rightSquare]
        | none => []) ++ [.name [' '] mode.name])
  | .bind binding container perspective =>
    .name [] "bind" :: .name [' '] binding :: .mark [' '] '=' .equals :: .name [' '] container ::
      perspective.toList.map (.name [' '] ·.name)
  | .push binding operand key conversion =>
    .name [] "push" :: .name [' '] binding :: (operand.chunks ++ optionChunks key conversion)
  | .pop binding extent =>
    .name [] "pop" :: .name [' '] binding :: extent.toList.flatMap Extent.chunks
  | .peek binding extent =>
    .name [] "peek" :: .name [' '] binding :: extent.toList.flatMap Extent.chunks
  | .borrow binding source extent mode =>
    .name [] "borrow" :: .name [' '] binding :: .mark [' '] '=' .equals :: .name [' '] source ::
      (extent.chunks ++ [.name [' '] mode.keyword])
  | .setPerspective binding perspective =>
    [.name [] "perspective", .name [' '] binding, .name [' '] perspective.name]
  | .flip binding => [.name [] "flip", .name [' '] binding]
  | .capture target source =>
    [.name [] "capture", .name [' '] target, .mark [' '] '=' .equals, .name [' '] source]
  | .release binding => [.name [] "release", .name [' '] binding]
  | .choose binding arms fallback =>
    .name [] "match" :: .name [' '] binding :: (arms.map (.name [' '] ·.name) ++
      if fallback then [.name [' '] "_"] else [])
  | .enterScope .block => [.mark [] '\x7b' .leftBrace]
  | .enterScope .function => [.name [] "fn", .mark [' '] '\x7b' .leftBrace]
  | .enterScope .task => [.name [] "task", .mark [' '] '\x7b' .leftBrace]
  | .enterScope .global => [.name [] "global", .mark [' '] '\x7b' .leftBrace]
  | .exitScope => [.mark [] '\x7d' .rightBrace]
  | .spawn captures => .name [] "spawn" :: Capture.listing captures

/-- What stands behind the last token of an operation. -/
def Operation.trail : Operation → List Char
  | .spawn [] => [' ']
  | _ => []

theorem flatten_intersperse (separator first : List Char) (rest : List (List Char)) :
    ((first :: rest).intersperse separator).flatten =
      first ++ rest.flatMap (separator ++ ·) := by
  induction rest generalizing first with
  | nil => simp
  | cons second rest ih => simp [ih]

theorem Value.chars_listing (members : List Value) :
    (Value.listing members).flatMap Chunk.chars =
      ((members.map Value.literal).intersperse [',', ' ']).flatten := by
  cases members with
  | nil => rfl
  | cons first rest =>
    rw [List.map_cons, flatten_intersperse]
    simp [Value.listing, Value.chunk, Chunk.mark, Chunk.chars, List.flatMap_assoc,
      List.flatMap_map]

theorem Extent.chars_chunks (extent : Extent) :
    extent.chunks.flatMap Chunk.chars = ' ' :: extent.literal := by
  cases extent with
  | range low high =>
    simp [Extent.chunks, Extent.literal, Value.chunk, Value.literal, Chunk.mark, Chunk.dots,
      Chunk.chars]
  | keys members =>
    simp [Extent.chunks, Extent.literal, Value.chars_listing, Chunk.mark, Chunk.chars]

theorem Operand.chars_chunks (operand : Operand) :
    operand.chunks.flatMap Chunk.chars = ' ' :: operand.literal := by
  cases operand with
  | value literal => simp [Operand.chunks, Operand.literal, Value.chunk, Chunk.chars]
  | transfer source effect =>
    cases effect <;> simp [Operand.chunks, Operand.literal, Chunk.arrow, Chunk.name, Chunk.chars]

theorem Capture.chars_chunks (capture : Capture) :
    capture.chunks.flatMap Chunk.chars = ' ' :: capture.literal := by
  unfold Capture.chunks Capture.literal
  split <;> simp [Chunk.name, Chunk.chars]

theorem Capture.chars_listing (first : Capture) (rest : List Capture) :
    (Capture.listing (first :: rest)).flatMap Chunk.chars =
      ' ' :: (((first :: rest).map Capture.literal).intersperse [',', ' ']).flatten := by
  rw [List.map_cons, flatten_intersperse]
  simp [Capture.listing, Capture.chars_chunks, Chunk.mark, Chunk.chars, List.flatMap_assoc,
    List.flatMap_map]

/-- The written form of an operation is made of its tokens. -/
theorem Operation.literal_eq (operation : Operation) :
    operation.literal = operation.chunks.flatMap Chunk.chars ++ operation.trail := by
  unfold literal
  cases operation with
  | declare container element key mode =>
    cases key <;> simp [chunks, trail, Chunk.name, Chunk.mark, Chunk.chars]
  | bind binding container perspective =>
    cases perspective <;>
      simp [chunks, trail, suffix, Chunk.name, Chunk.mark, Chunk.chars]
  | push binding operand key conversion =>
    cases key <;> cases conversion <;>
      simp [chunks, trail, suffix, Operand.chars_chunks, optionChunks, Value.chunk, Chunk.name,
        Chunk.chars]
  | pop binding extent =>
    cases extent <;>
      simp [chunks, trail, suffix, Extent.chars_chunks, Chunk.name, Chunk.chars]
  | peek binding extent =>
    cases extent <;>
      simp [chunks, trail, suffix, Extent.chars_chunks, Chunk.name, Chunk.chars]
  | borrow binding source extent mode =>
    simp [chunks, trail, Extent.chars_chunks, Chunk.name, Chunk.mark, Chunk.chars]
  | choose binding arms fallback =>
    cases fallback <;>
      simp [chunks, trail, Chunk.name, Chunk.chars, List.flatMap_map]
  | enterScope kind => cases kind <;> rfl
  | spawn captures =>
    cases captures with
    | nil => rfl
    | cons first rest =>
      simp [chunks, trail, Capture.chars_listing, Chunk.name, Chunk.chars]
  | _ => simp [chunks, trail, Chunk.name, Chunk.mark, Chunk.chars]

/-! ## Operations that can be read back -/

/-- The keys that an extent holds. -/
def Extent.members : Extent → List Value
  | .range _ _ => []
  | .keys members => members

namespace Operation

/-- The names that an operation holds. -/
def names : Operation → List String
  | .declare container _ _ _ => [container]
  | .bind binding container _ => [binding, container]
  | .push binding (.value _) _ _ => [binding]
  | .push binding (.transfer source _) _ _ => [binding, source]
  | .pop binding _ => [binding]
  | .peek binding _ => [binding]
  | .borrow binding source _ _ => [binding, source]
  | .setPerspective binding _ => [binding]
  | .flip binding => [binding]
  | .capture target source => [target, source]
  | .release binding => [binding]
  | .choose binding _ _ => [binding]
  | .enterScope _ => []
  | .exitScope => []
  | .spawn captures => captures.map (·.binding)

/-- The literals that an operation holds. -/
def literals : Operation → List Value
  | .push _ (.value literal) key _ => literal :: key.toList
  | .push _ (.transfer _ _) key _ => key.toList
  | .pop _ extent => extent.toList.flatMap Extent.members
  | .peek _ extent => extent.toList.flatMap Extent.members
  | .borrow _ _ extent _ => extent.members
  | _ => []

/-- Whether an operation has a written form of its own: its source is no option of a push, and its
choice is not empty. -/
def isDistinct : Operation → Bool
  | .push _ (.transfer source effect) _ _ => effect = .move || source ≠ "key" && source ≠ "as"
  | .choose _ arms fallback => !arms.isEmpty || fallback
  | _ => true

/-- An operation that can be read back from its written form. -/
structure Writable (operation : Operation) : Prop where
  names : ∀ name ∈ operation.names, IsName name
  literals : ∀ value ∈ operation.literals, value.Writable
  distinct : operation.isDistinct = true

instance : DecidablePred Writable :=
  fun operation => decidable_of_iff ((∀ name ∈ operation.names, IsName name) ∧
      (∀ value ∈ operation.literals, value.Writable) ∧ operation.isDistinct = true)
    ⟨fun ⟨names, literals, distinct⟩ => ⟨names, literals, distinct⟩,
      fun ⟨names, literals, distinct⟩ => ⟨names, literals, distinct⟩⟩

end Operation

/-! ## Written operations are read token by token -/

theorem Element.isName (element : Element) : IsName element.name := by
  cases element <;> decide

theorem Mode.isName (mode : Mode) : IsName mode.name := by
  cases mode <;> decide

theorem Perspective.isName (perspective : Perspective) : IsName perspective.name := by
  cases perspective <;> decide

theorem Conversion.isName (conversion : Conversion) : IsName conversion.name := by
  cases conversion <;> decide

theorem Effect.isName (effect : Effect) : IsName effect.name := by
  cases effect <;> decide

theorem BorrowMode.isName (mode : BorrowMode) : IsName mode.keyword := by
  cases mode <;> decide

section

open Chunk

theorem Value.joins {value : Value} (writable : value.Writable) : Joins [value.chunk [' ']] :=
  (Value.legible writable _).joins rfl

theorem comma_joins {more : List Chunk} (joins : Joins more) :
    Joins (mark [] ',' .comma :: more) :=
  mark_joins rfl (by decide) (by decide) joins.toFits

theorem Value.listing_fits {members : List Value} (writable : ∀ key ∈ members, key.Writable) :
    Fits (Value.listing members) := by
  cases members with
  | nil => exact joins_nil.toFits
  | cons first rest =>
    simp only [List.forall_mem_cons] at writable
    refine ((Value.legible writable.1 []).fits rfl).cons (joins_flatMap fun key member => ?_)
    exact comma_joins (Value.joins (writable.2 key member))

theorem Extent.joins {extent : Extent} (writable : ∀ key ∈ extent.members, key.Writable) :
    Joins extent.chunks := by
  have close {c : Char} {kind : Token.Kind} (known : Token.Kind.ofMark? c = some kind)
      (going : kind ≠ .lineEnd) (separates : c ∈ separators) : Joins [mark [] c kind] :=
    mark_joins known going separates joins_nil.toFits
  cases extent with
  | range low high =>
    have start := (Value.integer_legible low []).fits rfl
    have stop := (Value.integer_legible high []).fits rfl
    apply mark_apart_joins rfl (by decide)
    apply start.cons
    apply dots_joins
    exact stop.cons (close rfl (by decide) (by decide))
  | keys members =>
    apply mark_apart_joins rfl (by decide)
    exact (Value.listing_fits writable).append (close rfl (by decide) (by decide))

theorem Operand.joins_transfer {source : String} (valid : IsName source) (effect : Effect) :
    Joins (Operand.transfer source effect).chunks := by
  have arrow := arrow_legible.joins rfl
  have named : Joins [name [' '] effect.name, name [' '] source] :=
    (name_joins effect.isName).cons (name_joins valid)
  cases effect with
  | move => exact arrow.cons (name_joins valid)
  | _ => exact arrow.cons named

theorem Capture.joins {capture : Capture} (valid : IsName capture.binding) :
    Joins capture.chunks := by
  have binding := name_joins valid
  unfold Capture.chunks
  split
  · exact (name_joins (by decide)).cons binding
  · exact binding

theorem Capture.listing_joins {captures : List Capture}
    (valid : ∀ capture ∈ captures, IsName capture.binding) : Joins (Capture.listing captures) := by
  cases captures with
  | nil => exact joins_nil
  | cons first rest =>
    simp only [List.forall_mem_cons] at valid
    refine (Capture.joins valid.1).append (joins_flatMap fun capture member => ?_)
    exact comma_joins (Capture.joins (valid.2 capture member))

theorem extent_joins {extent : Option Extent}
    (writable : ∀ key ∈ extent.toList.flatMap Extent.members, key.Writable) :
    Joins (extent.toList.flatMap Extent.chunks) :=
  joins_flatMap fun extent member => Extent.joins fun key inside =>
    writable key (List.mem_flatMap.mpr ⟨extent, member, inside⟩)

theorem options_join {key : Option Value} (writable : ∀ value ∈ key.toList, value.Writable)
    (conversion : Option Conversion) : Joins (optionChunks key conversion) := by
  have word {text : String} (valid : IsName text) {chunk : Chunk} (joins : Joins [chunk]) :
      Joins [name [' '] text, chunk] := (name_joins valid).cons joins
  refine (joins_flatMap fun value member => ?_).append (joins_flatMap fun kind _ => ?_)
  · exact word (by decide) (Value.joins (writable value member))
  · exact word (by decide) (name_joins kind.isName)

theorem names_join {α : Type} {items : List α} {text : α → String}
    (valid : ∀ item, IsName (text item)) :
    Joins (items.map fun item => name [' '] (text item)) := by
  induction items with
  | nil => exact joins_nil
  | cons item items ih => exact (name_joins (valid item)).cons ih

theorem keyword_fits {text : String} (valid : IsName text) {binding : String}
    (named : IsName binding) {more : List Chunk} (joins : Joins more) :
    Fits (name [] text :: name [' '] binding :: more) :=
  (name_fits valid).cons ((name_joins named).cons joins)

theorem equals_joins {source : String} (named : IsName source) {more : List Chunk}
    (joins : Joins more) : Joins (mark [' '] '=' .equals :: name [' '] source :: more) :=
  mark_apart_joins rfl (by decide) ((name_joins named).cons joins).toFits

/-- The tokens of an operation can be read one after the other. -/
theorem Operation.fits_chunks {operation : Operation} (writable : operation.Writable) :
    Fits operation.chunks := by
  obtain ⟨named, literals, -⟩ := writable
  have brace : Joins [mark [' '] '\x7b' .leftBrace] :=
    mark_apart_joins rfl (by decide) joins_nil.toFits
  cases operation with
  | declare container element key mode =>
    have behind := name_joins mode.isName
    apply keyword_fits (by decide) (named container (by simp [names]))
    apply mark_joins rfl (by decide) (by decide)
    apply Joins.toFits
    apply (name_joins element.isName).cons
    cases key with
    | none => exact behind
    | some key =>
      apply mark_joins rfl (by decide) (by decide)
      apply (name_fits key.isName).cons
      exact mark_joins rfl (by decide) (by decide) behind.toFits
  | bind binding container perspective =>
    apply keyword_fits (by decide) (named binding (by simp [names]))
    exact equals_joins (named container (by simp [names])) (names_join Perspective.isName)
  | push binding operand key conversion =>
    cases operand with
    | value literal =>
      simp only [Operation.literals, List.forall_mem_cons] at literals
      apply keyword_fits (by decide) (named binding (by simp [names]))
      exact (Value.joins literals.1).append (options_join literals.2 conversion)
    | transfer source effect =>
      apply keyword_fits (by decide) (named binding (by simp [names]))
      exact (Operand.joins_transfer (named source (by simp [names])) effect).append
        (options_join literals conversion)
  | pop binding extent =>
    exact keyword_fits (by decide) (named binding (by simp [names])) (extent_joins literals)
  | peek binding extent =>
    exact keyword_fits (by decide) (named binding (by simp [names])) (extent_joins literals)
  | borrow binding source extent mode =>
    apply keyword_fits (by decide) (named binding (by simp [names]))
    apply equals_joins (named source (by simp [names]))
    exact (Extent.joins literals).append (name_joins mode.isName)
  | setPerspective binding perspective =>
    exact keyword_fits (by decide) (named binding (by simp [names]))
      (name_joins perspective.isName)
  | flip binding => exact keyword_fits (by decide) (named binding (by simp [names])) joins_nil
  | capture target source =>
    apply keyword_fits (by decide) (named target (by simp [names]))
    exact equals_joins (named source (by simp [names])) joins_nil
  | release binding => exact keyword_fits (by decide) (named binding (by simp [names])) joins_nil
  | choose binding arms fallback =>
    apply keyword_fits (by decide) (named binding (by simp [names]))
    apply (names_join Perspective.isName).append
    split
    · exact name_joins (by decide)
    · exact joins_nil
  | enterScope kind =>
    cases kind with
    | block => exact (mark_legible rfl (by decide)).fits rfl
    | _ => exact (name_fits (by decide)).cons brace
  | exitScope => exact (mark_legible rfl (by decide)).fits rfl
  | spawn captures =>
    apply (name_fits (by decide)).cons
    exact Capture.listing_joins fun capture member => named _ (List.mem_map_of_mem member)

end

end Custody
