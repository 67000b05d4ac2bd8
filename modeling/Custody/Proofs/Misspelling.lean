import Custody.Proofs.Lexing

/-!
# What the lexer refuses

Not every text that is no token upsets the lexer.  A stray character, a minus without a number and
bytes with an odd number of digits are refused as a whole, and the lexer moves on by as much text as
it has refused.  Only a malformed string makes it lose its place.
-/

namespace Custody

/-- Whether an error is about a string that is not closed, or that has an escape without a
meaning. -/
def SyntaxError.isMalformedString : SyntaxError → Bool
  | .unterminatedString _ => true
  | .invalidEscape _ _ => true
  | _ => false

def Lexeme.isMalformedString : Lexeme → Bool
  | .ok _ => false
  | .error fault => fault.isMalformedString

/-- A character that begins nothing in front of a text. -/
structure Stray (c : Char) (rest : List Char) : Prop where
  unled : c ∉ '\n' :: '"' :: '-' :: marks
  unpaired : c = '.' → ∀ d ∈ rest.head?, d ≠ '.'
  headless : c = '<' → ∀ d ∈ rest.head?, d ≠ '-'
  unnumbered : c.isDigit = false
  unnamed : isNameStart c = false

/-- What a lexer refuses: the characters, what it has to say about them, and what may follow. -/
inductive Misspelled : List Char → (Span → SyntaxError) → List Char → Prop
  | stray {c : Char} {rest : List Char} (stray : Stray c rest) :
      Misspelled [c] (.unexpectedChar c) rest
  | minus {own rest : List Char} {pointed : Bool} (digits : Digits false own [] pointed rest) :
      Misspelled ('-' :: own) (.unexpectedChar '-') rest
  | bytes {sign digits rest : List Char} (signed : sign = ['-'] ∨ sign = [])
      (hex : ∀ c ∈ digits, isHexDigit c = true) (odd : digits.length % 2 ≠ 0)
      (stops : ∀ c ∈ rest.head?, isHexDigit c = false) :
      Misspelled (sign ++ '0' :: 'x' :: digits) (.invalidLiteral .oddDigits) rest

theorem Stray.readFrom_eq {c : Char} {rest : List Char} (stray : Stray c rest) (cursor : Cursor) :
    cursor.readFrom c rest = cursor.refuse c rest := by
  have unled := stray.unled
  simp only [List.mem_cons, not_or] at unled
  obtain ⟨newLine, quote, minus, unmarked⟩ := unled
  unfold Cursor.readFrom
  rw [if_neg newLine, Token.Kind.ofMark?_eq_none unmarked]
  dsimp only
  rw [if_neg quote]
  split
  · next same =>
    split
    · exact absurd rfl (stray.unpaired same '.' rfl)
    · rfl
  split
  · next same =>
    split
    · exact absurd rfl (stray.headless same '-' rfl)
    · rfl
  rw [stray.unnumbered, stray.unnamed]
  rfl

namespace Misspelled

variable {own rest other : List Char} {complaint : Span → SyntaxError}

theorem newLine_notMem (misspelled : Misspelled own complaint rest) : '\n' ∉ own := by
  cases misspelled with
  | stray stray =>
    have unled := stray.unled
    simp only [List.mem_cons, not_or] at unled
    simpa using Ne.symm unled.1
  | minus digits => simpa using digits.newLine_notMem
  | @bytes _ digits _ signed hex =>
    have unbroken : '\n' ∉ digits := fun member => absurd (hex _ member) (by decide)
    rcases signed with rfl | rfl <;> simpa using unbroken

/-- The lexer moves on by what it refuses. -/
theorem readFrom_eq (misspelled : Misspelled own complaint rest) :
    ∃ c more, own = c :: more ∧ ∀ cursor : Cursor, cursor.readFrom c (more ++ rest) =
      (.error (complaint (cursor.span (Text.Utf8.width own))), cursor.skip own rest) := by
  cases misspelled with
  | @stray c rest stray =>
    refine ⟨c, [], rfl, fun cursor => ?_⟩
    rw [List.nil_append, stray.readFrom_eq]
    rfl
  | @minus own rest pointed digits =>
    refine ⟨'-', own, rfl, fun cursor => ?_⟩
    have plain := digits.not_bytes fun single => by
      subst single
      cases digits
    have lead : cursor.readFrom '-' (own ++ rest) = cursor.readNumber ['-'] (own ++ rest) := rfl
    have width : Text.Utf8.width ('-' :: own) = 1 + own.length := by
      rw [Text.Utf8.width_cons, Text.Utf8.width_eq_length digits.ascii]
      rfl
    have length : ('-' :: own).length = 1 + own.length := Nat.add_comm ..
    rw [lead, Cursor.readNumber_plain plain, digits.scan_eq, Cursor.skip, width, length]
    rfl
  | @bytes sign digits rest signed hex odd stops =>
    obtain ⟨taken, dropped⟩ := while_append hex stops
    have plain : ∀ c ∈ digits, c.toNat < 0x80 :=
      fun c member => toNat_of_isHexDigit (hex c member)
    have ascii : ∀ c ∈ sign ++ '0' :: 'x' :: digits, c.toNat < 0x80 := by
      rcases signed with rfl | rfl <;> simpa using plain
    have width := Text.Utf8.width_eq_length ascii
    have read (cursor : Cursor) : cursor.readBytes (sign.length + 2) (digits ++ rest) =
        (.error (.invalidLiteral .oddDigits
          (cursor.span (Text.Utf8.width (sign ++ '0' :: 'x' :: digits)))),
          cursor.skip (sign ++ '0' :: 'x' :: digits) rest) := by
      have length : sign.length + 2 + digits.length = (sign ++ '0' :: 'x' :: digits).length := by
        simp only [List.length_append, List.length_cons]
        omega
      simp only [Cursor.readBytes, taken, dropped, if_neg odd, Cursor.skip, width, length]
    rcases signed with rfl | rfl
    · exact ⟨'-', '0' :: 'x' :: digits, rfl, read⟩
    · exact ⟨'0', 'x' :: digits, rfl, read⟩

theorem ne_nil (misspelled : Misspelled own complaint rest) : own ≠ [] := by
  obtain ⟨c, more, rfl, -⟩ := misspelled.readFrom_eq
  exact List.cons_ne_nil c more

theorem continued (misspelled : Misspelled own complaint rest) (continues : Continues rest other) :
    Misspelled own complaint other := by
  cases misspelled with
  | stray stray =>
    exact .stray ⟨stray.unled, fun same => continues.head_imp (by decide) (stray.unpaired same),
      fun same => continues.head_imp (by decide) (stray.headless same), stray.unnumbered,
      stray.unnamed⟩
  | minus digits => exact .minus (digits.continued continues)
  | bytes signed hex odd stops =>
    exact .bytes signed hex odd (continues.head_imp (by decide) stops)

theorem of_readNumber {cursor after : Cursor} {input sign : List Char} {fault : SyntaxError}
    (starts : sign = ['-'] ∨ sign = [] ∧ ∃ c more, input = c :: more ∧ c.isDigit = true)
    (read : cursor.readNumber sign input = (.error fault, after)) :
    ∃ own rest complaint, input = own ++ rest ∧ Misspelled (sign ++ own) complaint rest := by
  by_cases marked : ∃ tail, input = '0' :: 'x' :: tail
  · obtain ⟨tail, rfl⟩ := marked
    obtain ⟨digits, rest, rfl, hex, stops⟩ := exists_run isHexDigit tail
    obtain ⟨taken, dropped⟩ := while_append hex stops
    have bytes : cursor.readBytes (sign.length + 2) (digits ++ rest) = (.error fault, after) := read
    rw [Cursor.readBytes, taken, dropped] at bytes
    split at bytes
    · cases bytes
    · next odd =>
      exact ⟨'0' :: 'x' :: digits, rest, _, rfl, .bytes (starts.imp id And.left) hex odd stops⟩
  · obtain ⟨own, text, pointed, rest, split, digits⟩ := Digits.exists_split false input
    rw [Cursor.readNumber_plain (by simpa using marked), split, digits.scan_eq] at read
    dsimp only at read
    split at read
    · next lone =>
      rcases starts with rfl | ⟨rfl, c, more, rfl, digit⟩
      · obtain rfl : text = [] := (List.cons.inj lone).2
        exact ⟨own, rest, _, split, .minus digits⟩
      · -- A number without a sign begins with a digit, so its text is no minus.
        rw [List.nil_append] at lone
        subst lone
        cases digits with
        | digit minus => exact absurd minus (by decide)
        | separator =>
          rw [(List.cons.inj split).1] at digit
          exact absurd digit (by decide)
    · cases read

/-- What the lexer refuses is misspelled, unless it is a string. -/
theorem of_readFrom {cursor after : Cursor} {c : Char} {input : List Char} {fault : SyntaxError}
    (read : cursor.readFrom c input = (.error fault, after))
    (whole : fault.isMalformedString = false) :
    ∃ own rest complaint, input = own ++ rest ∧ Misspelled (c :: own) complaint rest := by
  have single (stray : Stray c input) : ∃ own rest complaint, input = own ++ rest ∧
      Misspelled (c :: own) complaint rest := ⟨[], input, _, rfl, .stray stray⟩
  unfold Cursor.readFrom at read
  split at read
  · cases read
  next newLine =>
  split at read
  · cases read
  next unmarked =>
  split at read
  · -- The errors of a string are about its form.
    unfold Cursor.readString at read
    split at read <;> cases read <;> cases whole
  next quote =>
  split at read
  · next same =>
    subst same
    split at read
    · cases read
    · next unpaired =>
      refine single ⟨by decide, fun _ d first same => ?_, by simp, by decide, by decide⟩
      obtain ⟨more, split⟩ := List.head?_eq_some_iff.mp first
      exact unpaired more (same ▸ split)
  next point =>
  split at read
  · next same =>
    subst same
    split at read
    · cases read
    · next headless =>
      refine single ⟨by decide, by simp, fun _ d first same => ?_, by decide, by decide⟩
      obtain ⟨more, split⟩ := List.head?_eq_some_iff.mp first
      exact headless more (same ▸ split)
  next arrow =>
  split at read
  · next same =>
    subst same
    exact of_readNumber (.inl rfl) read
  next minus =>
  split at read
  · next digit =>
    obtain ⟨own, rest, complaint, split, misspelled⟩ :=
      of_readNumber (.inr ⟨rfl, c, input, rfl, digit⟩) read
    obtain ⟨d, more, rfl, -⟩ := misspelled.readFrom_eq
    obtain ⟨rfl, rfl⟩ := List.cons.inj split
    exact ⟨more, rest, complaint, rfl, misspelled⟩
  next unnumbered =>
  split at read
  · cases read
  next unnamed =>
  have known : ∀ d ∈ marks, Token.Kind.ofMark? d ≠ none := forall_mem_of_all (by decide)
  have unled : c ∉ '\n' :: '"' :: '-' :: marks := by
    simp only [List.mem_cons, not_or]
    exact ⟨newLine, quote, minus, fun mark => known c mark unmarked⟩
  exact single ⟨unled, fun same => absurd same point, fun same => absurd same arrow,
    by simpa using unnumbered, by simpa using unnamed⟩

end Misspelled

end Custody
