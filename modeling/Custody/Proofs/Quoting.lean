import Custody.Proofs.Printing
import Custody.Proofs.Streams

/-!
# Strings in and out of quotes

The lexer reads the characters of a string up to the first thing that cannot stand there, and what
it makes of that does not depend on the characters before.  A string that is written by code point
cannot be read, since the only escapes that the lexer knows are the short ones.  So a string literal
is read back as it is written exactly if each of its characters has a short escape or is visible.
-/

namespace Custody

/-! ## Inside a string -/

/-- What is found behind characters that stand for some content. -/
def StringScan.prepend (text : List Char) (bytes : Nat) : StringScan → StringScan
  | .closed more count rest => .closed (text ++ more) (bytes + count) rest
  | .unterminated rest => .unterminated rest
  | .badEscape sequence count rest => .badEscape sequence (bytes + count) rest

theorem StringScan.cons_prepend (c : Char) (width : Nat) (text : List Char) (bytes : Nat)
    (found : StringScan) :
    (found.prepend text bytes).cons c width = found.prepend (c :: text) (width + bytes) := by
  cases found <;> simp [prepend, cons, Nat.add_assoc]

/-- Where a string cannot go on: at the end of its line, at a closing quote, or at an escape that
has no meaning. -/
inductive StringScan.Halts : List Char → Prop
  | ended : Halts []
  | newLine (rest : List Char) : Halts ('\n' :: rest)
  | quote (rest : List Char) : Halts ('"' :: rest)
  | lone : Halts ['\\']
  | unknown {letter : Char} (unknown : Text.Quoted.ofShortEscape? letter = none)
      (rest : List Char) : Halts ('\\' :: letter :: rest)

namespace Inside

variable {own text : List Char}

/-- Characters inside a string are read as the content that they stand for. -/
theorem scan_append (inside : Inside own text) (rest : List Char) :
    StringScan.scan (own ++ rest) =
      (StringScan.scan rest).prepend text (Text.Utf8.width own) := by
  induction inside with
  | nil =>
    rw [List.nil_append]
    cases StringScan.scan rest <;> simp [StringScan.prepend]
  | escape known _ ih =>
    rw [List.cons_append, List.cons_append, StringScan.scan.eq_def]
    simp only [known, ih, StringScan.cons_prepend, Text.Utf8.width_cons, Nat.add_assoc]
    rfl
  | plain along unquoted unescaped _ ih =>
    rw [List.cons_append, StringScan.scan.eq_def]
    simp only [along, unquoted, unescaped, if_false, ih, StringScan.cons_prepend,
      Text.Utf8.width_cons]

/-- A text behind an opening quote goes on inside the string up to where it halts. -/
theorem exists_halts (input : List Char) :
    ∃ own text rest, input = own ++ rest ∧ Inside own text ∧ StringScan.Halts rest := by
  fun_induction StringScan.scan input with
  | case1 => exact ⟨[], [], [], rfl, .nil, .ended⟩
  | case2 rest => exact ⟨[], [], _, rfl, .nil, .newLine rest⟩
  | case3 rest => exact ⟨[], [], _, rfl, .nil, .quote rest⟩
  | case4 => exact ⟨[], [], _, rfl, .nil, .lone⟩
  | case5 letter after meant known _ _ ih =>
    obtain ⟨own, text, rest, rfl, inside, halts⟩ := ih
    exact ⟨'\\' :: letter :: own, meant :: text, rest, rfl, .escape known inside, halts⟩
  | case6 letter after unknown => exact ⟨[], [], _, rfl, .nil, .unknown unknown after⟩
  | case7 c after along unquoted unescaped ih =>
    obtain ⟨own, text, rest, rfl, inside, halts⟩ := ih
    exact ⟨c :: own, c :: text, rest, rfl, .plain along unquoted unescaped inside, halts⟩

/-- Every text is the content of some string. -/
theorem exists_own (text : List Char) : ∃ own, Inside own text := by
  induction text with
  | nil => exact ⟨[], .nil⟩
  | cons c text ih =>
    obtain ⟨own, inside⟩ := ih
    cases short : Text.Quoted.shortEscape? c with
    | some letter =>
      exact ⟨_, .escape (Text.Quoted.ofShortEscape?_eq_some_iff.mpr short) inside⟩
    | none =>
      obtain ⟨along, unquoted, unescaped⟩ := Value.plain_of_shortEscape? short
      exact ⟨_, .plain along unquoted unescaped inside⟩

end Inside

theorem StringScan.scan_unknown {letter : Char}
    (unknown : Text.Quoted.ofShortEscape? letter = none) (rest : List Char) :
    scan ('\\' :: letter :: rest) = .badEscape ['\\', letter] (1 + letter.utf8Size) rest := by
  rw [scan.eq_def]
  simp only [unknown]
  rfl

/-! ## Texts that are one string -/

/-- Nothing is skipped in front of a quote. -/
theorem Skips.before_quote (rest : List Char) : Skips false [] ('"' :: rest) :=
  .of_starts ⟨'"', [], rfl, by decide⟩

/-- A text is one string and its end. -/
def ReadsAsString (code text : String) : Prop :=
  tokenize code = .ok [⟨.string, ⟨1, 0, 0, code.utf8ByteSize⟩, text⟩,
    ⟨.stop, ⟨1, code.utf8ByteSize, code.utf8ByteSize, 0⟩, ""⟩]

instance (code text : String) : Decidable (ReadsAsString code text) :=
  inferInstanceAs (Decidable (_ = _))

theorem tokenize_ofList (text : List Char) :
    tokenize (String.ofList text) = ((⟨1, 0, 0⟩ : Place).cursor text).lexemes.mapM id := by
  rw [tokenize, Cursor.ofString, Cursor.startingAt, String.toList_ofList]
  rfl

/-- Content between quotes is read as one string. -/
theorem readsAsString_of_inside {own text : List Char} (inside : Inside own text) :
    ReadsAsString (String.ofList ('"' :: (own ++ ['"']))) (String.ofList text) := by
  let chunk : Chunk := ⟨[], '"' :: (own ++ ['"']), .string, text⟩
  have fit : Chunk.Fit [chunk] [] := ⟨.before_quote _, .string inside.quotes _, trivial⟩
  have whole : [chunk].flatMap Chunk.chars ++ [] = '"' :: (own ++ ['"']) := by
    simp [chunk, Chunk.chars]
  have along : chunk.own ≠ ['\n'] := fun same => absurd (List.cons.inj same).1 (by decide)
  have after : (⟨1, 0, 0⟩ : Place).through [chunk] =
      ⟨1, Text.Utf8.width chunk.own, Text.Utf8.width chunk.own⟩ := by
    simp [Place.through, Place.after, along, chunk]
  have lexemes := Place.lexemes_cursor fit ⟨1, 0, 0⟩
  rw [whole, after, Place.lexemes_gap (.done (by simp))] at lexemes
  rw [ReadsAsString, tokenize_ofList, lexemes, Text.Utf8.utf8ByteSize_ofList]
  rfl

/-- A string with an escape that has no meaning is refused there, whatever stands behind it. -/
theorem tokenize_unknown {own text : List Char} (inside : Inside own text) {letter : Char}
    (unknown : Text.Quoted.ofShortEscape? letter = none) (rest : List Char) :
    ∃ span, tokenize (String.ofList ('"' :: (own ++ '\\' :: letter :: rest))) =
      .error (.invalidEscape (String.ofList ['\\', letter]) span) := by
  let cursor := (⟨1, 0, 0⟩ : Place).cursor ('"' :: (own ++ '\\' :: letter :: rest))
  have found : StringScan.scan (own ++ '\\' :: letter :: rest) =
      .badEscape ['\\', letter] (Text.Utf8.width own + (1 + letter.utf8Size)) rest := by
    rw [inside.scan_append, StringScan.scan_unknown unknown]
    rfl
  have read : cursor.next = (cursor.skip [] cursor.rest).readString
      (own ++ '\\' :: letter :: rest) :=
    Cursor.next_readFrom (.before_quote _) rfl
  rw [Cursor.readString, found] at read
  rw [tokenize_ofList, Cursor.lexemes_eq, read]
  exact ⟨_, rfl⟩

/-! ## Literals -/

/-- Whether a character between quotes is written as itself or by a short escape. -/
def Text.Quoted.isLegible (c : Char) : Bool :=
  (shortEscape? c).isSome || isVisible c

/-- A character that is not legible is written by its code point. -/
theorem Text.Quoted.encodeChar_of_not_isLegible {c : Char} (illegible : isLegible c = false) :
    ∃ more, encodeChar c = '\\' :: 'u' :: more := by
  simp only [isLegible, Bool.or_eq_false_iff, Option.isSome_eq_false_iff,
    Option.isNone_iff_eq_none] at illegible
  rw [encodeChar, illegible.1, illegible.2]
  exact ⟨_, rfl⟩

theorem Inside.of_isLegible {text : List Char}
    (legible : ∀ c ∈ text, Text.Quoted.isLegible c = true) :
    Inside (text.flatMap Text.Quoted.encodeChar) text := by
  apply Value.inside_of_writable
  intro c member
  have written := legible c member
  rw [Text.Quoted.isLegible, Bool.or_eq_true] at written
  cases short : Text.Quoted.shortEscape? c with
  | some letter => exact .inr rfl
  | none =>
    have visible : Text.isVisible c = true := written.resolve_left (by simp [short])
    exact .inl (by rw [Text.Quoted.encodeChar, short, visible]; rfl)

/-- A string literal whose characters are all legible is read back. -/
theorem readsAsString_render {text : String}
    (legible : ∀ c ∈ text.toList, Text.Quoted.isLegible c = true) :
    ReadsAsString (Value.string text).render text := by
  have read := readsAsString_of_inside (Inside.of_isLegible legible)
  rwa [String.ofList_toList] at read

/-- The first character that is not legible makes the lexer refuse the literal. -/
theorem tokenize_render {text : String} {before after : List Char} {c : Char}
    (split : text.toList = before ++ c :: after)
    (legible : ∀ d ∈ before, Text.Quoted.isLegible d = true)
    (illegible : Text.Quoted.isLegible c = false) :
    ∃ span, tokenize (Value.string text).render = .error (.invalidEscape "\\u" span) := by
  obtain ⟨more, written⟩ := Text.Quoted.encodeChar_of_not_isLegible illegible
  have literal : (Value.string text).literal = '"' :: (before.flatMap Text.Quoted.encodeChar ++
      '\\' :: 'u' :: (more ++ after.flatMap Text.Quoted.encodeChar ++ ['"'])) := by
    simp [Value.literal, Text.Quoted.encode, split, written]
  rw [Value.render, literal]
  exact tokenize_unknown (Inside.of_isLegible legible) (by decide) _

/-- Every text is the content of some string, but not every string literal is read back: it is if
each of its characters has a short escape or is visible, and otherwise it is refused for an escape
by code point. -/
theorem string_literal_reads_back_iff (text : String) :
    (∃ code, ReadsAsString code text) ∧
      (ReadsAsString (Value.string text).render text ↔
        ∀ c ∈ text.toList, (Text.Quoted.shortEscape? c).isSome = true ∨
          Text.isVisible c = true) ∧
      (ReadsAsString (Value.string text).render text ∨
        ∃ span, tokenize (Value.string text).render = .error (.invalidEscape "\\u" span)) := by
  obtain ⟨own, inside⟩ := Inside.exists_own text.toList
  have source := readsAsString_of_inside inside
  rw [String.ofList_toList] at source
  refine ⟨⟨_, source⟩, ?_⟩
  obtain ⟨before, rest, split, legible, stops⟩ := exists_run Text.Quoted.isLegible text.toList
  cases rest with
  | nil =>
    rw [List.append_nil] at split
    rw [← split] at legible
    have read := readsAsString_render legible
    refine ⟨iff_of_true read fun c member => ?_, .inl read⟩
    exact Bool.or_eq_true_iff.mp (legible c member)
  | cons c after =>
    have illegible := stops c rfl
    obtain ⟨span, refused⟩ := tokenize_render split legible illegible
    refine ⟨iff_of_false ?_ ?_, .inr ⟨span, refused⟩⟩
    · intro read
      rw [ReadsAsString, refused] at read
      cases read
    · intro all
      have written := all c (by simp [split])
      rw [← Bool.or_eq_true_iff] at written
      exact absurd (illegible.symm.trans written) (by decide)

/-- A letter with a combining accent: the string can be read, and its literal cannot. -/
theorem combining_accent_not_read_back :
    ReadsAsString "\"e\u0301\"" "e\u0301" ∧
      (Value.string "e\u0301").render = "\"e\\u\x7b301\x7d\"" ∧
      tokenize (Value.string "e\u0301").render = .error (.invalidEscape "\\u" ⟨1, 2, 2, 2⟩) := by
  decide +kernel

end Custody
