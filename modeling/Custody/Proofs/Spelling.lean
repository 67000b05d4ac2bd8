import Mathlib.Data.List.Basic
import Custody.Token.Lexer

/-!
# How tokens are spelled

A grammar of the characters of a text: the gaps that are skipped, and the spelling of each kind of
token with what may stand behind it.  The lexer reads a token exactly where one is spelled, and
what stands behind a token matters only up to the next new line.
-/

namespace Custody

/-- What holds of every character of a list, by a look at each of them. -/
theorem forall_mem_of_all {p : Char → Prop} [DecidablePred p] {chars : List Char}
    (all : chars.all (fun c => decide (p c)) = true) : ∀ c ∈ chars, p c := by
  simpa using all

/-! ## What stands behind a lexeme -/

/-- A text may take the place of another one behind a lexeme: it is cut from it, or goes on where
it ends with a new line. -/
def Continues (rest other : List Char) : Prop :=
  ∃ tail, other <+: rest ++ '\n' :: tail

namespace Continues

variable {rest other own : List Char} {c : Char}

theorem append (continues : Continues rest other) (own : List Char) :
    Continues (own ++ rest) (own ++ other) := by
  cases continues with
  | intro tail cut =>
    refine ⟨tail, ?_⟩
    rw [List.append_assoc]
    exact (List.prefix_append_right_inj own).mpr cut

theorem refl (rest : List Char) : Continues rest rest :=
  ⟨[], List.prefix_append ..⟩

theorem newLine (rest tail : List Char) : Continues rest (rest ++ '\n' :: tail) :=
  ⟨tail, List.prefix_rfl⟩

/-- The character that stands first is the same, unless it is a new line. -/
theorem cases_cons (continues : Continues rest (c :: other)) :
    c = '\n' ∨ ∃ more, rest = c :: more ∧ Continues more other := by
  cases continues with
  | intro tail cut =>
    cases rest with
    | nil =>
      rw [List.nil_append, List.cons_prefix_cons] at cut
      exact .inl cut.1
    | cons d more =>
      rw [List.cons_append, List.cons_prefix_cons] at cut
      exact .inr ⟨more, by rw [cut.1], tail, cut.2⟩

/-- What cannot follow still cannot, if a new line can. -/
theorem head_imp {p : Char → Prop} (continues : Continues rest other) (newLine : p '\n')
    (follows : ∀ c ∈ rest.head?, p c) : ∀ c ∈ other.head?, p c := by
  intro c first
  cases other with
  | nil => simp at first
  | cons d other =>
    obtain rfl : d = c := by simpa using first
    cases continues.cases_cons with
    | inl same => rwa [same]
    | inr found =>
      obtain ⟨more, rfl, -⟩ := found
      exact follows d rfl

end Continues

/-! ## Gaps -/

/-- Blanks and comments that are skipped in front of a text.  The flag tells whether they begin
inside a comment. -/
inductive Skips : Bool → List Char → List Char → Prop
  | done {inside : Bool} {rest : List Char}
      (stops : ∀ c ∈ rest.head?, c = '\n' ∨ inside = false ∧ c ≠ '#' ∧ Text.isBlank c = false) :
      Skips inside [] rest
  | comment {inside : Bool} {c : Char} {gap rest : List Char} (along : c ≠ '\n')
      (within : inside = true ∨ c = '#') (more : Skips true gap rest) :
      Skips inside (c :: gap) rest
  | blank {c : Char} {gap rest : List Char} (along : c ≠ '\n') (outside : c ≠ '#')
      (blank : Text.isBlank c = true) (more : Skips false gap rest) :
      Skips false (c :: gap) rest

namespace Skips

variable {inside : Bool} {gap rest other : List Char}

/-- Every text begins with a gap, which may be empty. -/
theorem exists_split (inside : Bool) (text : List Char) :
    ∃ gap rest, text = gap ++ rest ∧ Skips inside gap rest := by
  induction text generalizing inside with
  | nil => exact ⟨[], [], rfl, .done (by simp)⟩
  | cons c text ih =>
    by_cases along : c = '\n'
    · exact ⟨[], c :: text, rfl, .done (by simp [along])⟩
    by_cases within : inside = true ∨ c = '#'
    · obtain ⟨gap, rest, rfl, more⟩ := ih true
      exact ⟨c :: gap, rest, rfl, .comment along within more⟩
    · obtain ⟨outside, plain⟩ := not_or.mp within
      rw [Bool.not_eq_true] at outside
      subst outside
      cases blank : Text.isBlank c with
      | true =>
        obtain ⟨gap, rest, rfl, more⟩ := ih false
        exact ⟨c :: gap, rest, rfl, .blank along plain blank more⟩
      | false => exact ⟨[], c :: text, rfl, .done (by simp [plain, blank])⟩

/-- The cursor moves past a gap and stays on its line. -/
theorem skipFrom_eq (skips : Skips inside gap rest) (line column offset : Nat) :
    Cursor.skipFrom line inside column offset (gap ++ rest) =
      ⟨rest, line, column + gap.length, offset + Text.Utf8.width gap⟩ := by
  induction skips generalizing column offset with
  | @done inside rest stops =>
    cases rest with
    | nil => simp [Cursor.skipFrom]
    | cons c rest =>
      cases stops c rfl with
      | inl newLine => simp [Cursor.skipFrom, newLine]
      | inr plain => simp [Cursor.skipFrom, plain]
  | comment along within more ih =>
    rw [List.cons_append, Cursor.skipFrom, if_neg along, if_pos (by simpa using within), ih]
    simp only [List.length_cons, Text.Utf8.width_cons, Cursor.mk.injEq, true_and]
    omega
  | blank along outside blank more ih =>
    rw [List.cons_append, Cursor.skipFrom, if_neg along, if_neg (by simpa using outside),
      if_pos blank, ih]
    simp only [List.length_cons, Text.Utf8.width_cons, Cursor.mk.injEq, true_and]
    omega

theorem continued (skips : Skips inside gap rest) (continues : Continues rest other) :
    Skips inside gap other := by
  induction skips with
  | done stops => exact .done (continues.head_imp (.inl rfl) stops)
  | comment along within more ih => exact .comment along within (ih continues)
  | blank along outside blank more ih => exact .blank along outside blank (ih continues)

theorem newLine_notMem (skips : Skips inside gap rest) : '\n' ∉ gap := by
  induction skips with
  | done => simp
  | comment along _ _ ih => simp [Ne.symm along, ih]
  | blank along _ _ _ ih => simp [Ne.symm along, ih]

/-- Behind a gap there is nothing to skip. -/
theorem behind (skips : Skips inside gap rest) : Skips false [] rest := by
  induction skips with
  | done stops => exact .done fun c first => (stops c first).imp id fun plain => ⟨rfl, plain.2⟩
  | comment _ _ _ ih => exact ih
  | blank _ _ _ _ ih => exact ih

/-- A gap in front of the end of a text can stand in front of a new line. -/
theorem before_newLine (skips : Skips inside gap []) (tail : List Char) :
    Skips inside gap ('\n' :: tail) :=
  skips.continued (Continues.newLine [] tail)

end Skips
/-! ## The content of strings and numbers -/

/-- Characters inside a string, with the content that they stand for. -/
inductive Inside : List Char → List Char → Prop
  | nil : Inside [] []
  | escape {letter meant : Char} {own text : List Char}
      (known : Text.Quoted.ofShortEscape? letter = some meant) (more : Inside own text) :
      Inside ('\\' :: letter :: own) (meant :: text)
  | plain {c : Char} {own text : List Char} (along : c ≠ '\n') (unquoted : c ≠ '"')
      (unescaped : c ≠ '\\') (more : Inside own text) : Inside (c :: own) (c :: text)

/-- The rest of a string behind its opening quote, with the content that it stands for. -/
inductive Quotes : List Char → List Char → Prop
  | close : Quotes ['"'] []
  | escape {letter meant : Char} {own text : List Char}
      (known : Text.Quoted.ofShortEscape? letter = some meant) (more : Quotes own text) :
      Quotes ('\\' :: letter :: own) (meant :: text)
  | plain {c : Char} {own text : List Char} (along : c ≠ '\n') (unquoted : c ≠ '"')
      (unescaped : c ≠ '\\') (more : Quotes own text) : Quotes (c :: own) (c :: text)

theorem Inside.quotes {own text : List Char} (inside : Inside own text) :
    Quotes (own ++ ['"']) text := by
  induction inside with
  | nil => exact .close
  | escape known _ ih => exact .escape known ih
  | plain along unquoted unescaped _ ih => exact .plain along unquoted unescaped ih

namespace Quotes

variable {own text : List Char}

theorem scan_eq (quotes : Quotes own text) (rest : List Char) :
    StringScan.scan (own ++ rest) = .closed text (Text.Utf8.width own) rest := by
  induction quotes with
  | close => rw [StringScan.scan.eq_def]; rfl
  | escape known more ih =>
    rw [List.cons_append, List.cons_append, StringScan.scan.eq_def]
    simp only [known, ih, StringScan.cons, Text.Utf8.width_cons, Nat.add_assoc]
    rfl
  | plain along unquoted unescaped more ih =>
    rw [List.cons_append, StringScan.scan.eq_def]
    simp only [along, unquoted, unescaped, if_false, ih, StringScan.cons, Text.Utf8.width_cons]

theorem of_scan {input rest : List Char} {bytes : Nat}
    (closed : StringScan.scan input = .closed text bytes rest) :
    ∃ own, input = own ++ rest ∧ Quotes own text := by
  fun_induction StringScan.scan input generalizing text bytes with
  | case3 after =>
    cases closed
    exact ⟨['"'], rfl, .close⟩
  | case5 letter after meant known _ _ ih =>
    cases found : StringScan.scan after with
    | closed text bytes rest =>
      rw [found] at closed
      cases closed
      obtain ⟨own, rfl, more⟩ := ih found
      exact ⟨'\\' :: letter :: own, rfl, .escape known more⟩
    | unterminated _ => simp [found, StringScan.cons] at closed
    | badEscape _ _ _ => simp [found, StringScan.cons] at closed
  | case7 c after along unquoted unescaped ih =>
    cases found : StringScan.scan after with
    | closed text bytes rest =>
      rw [found] at closed
      cases closed
      obtain ⟨own, rfl, more⟩ := ih found
      exact ⟨c :: own, rfl, .plain along unquoted unescaped more⟩
    | unterminated _ => simp [found, StringScan.cons] at closed
    | badEscape _ _ _ => simp [found, StringScan.cons] at closed
  | _ => cases closed

theorem newLine_notMem (quotes : Quotes own text) : '\n' ∉ own := by
  induction quotes with
  | close => decide
  | @escape letter meant own text known more ih =>
    have other : letter ≠ '\n' := by
      intro same
      rw [same] at known
      revert known
      simp [Text.Quoted.ofShortEscape?]
    simp [Ne.symm other, ih]
  | plain along _ _ more ih => simp [Ne.symm along, ih]

end Quotes

/-- The digits of a number, from inside it on: their characters, their text, whether a point stood
among them before and stands among them after, and what follows. -/
inductive Digits : Bool → List Char → List Char → Bool → List Char → Prop
  | done {pointed : Bool} {rest : List Char}
      (stops : ∀ c ∈ rest.head?, c.isDigit = false ∧ c ≠ '_')
      (point : ∀ {c more}, rest = '.' :: c :: more → pointed = true ∨ c.isDigit = false) :
      Digits pointed [] [] pointed rest
  | digit {before after : Bool} {c : Char} {own text rest : List Char} (digit : c.isDigit = true)
      (more : Digits before own text after rest) : Digits before (c :: own) (c :: text) after rest
  | separator {before after : Bool} {own text rest : List Char}
      (more : Digits before own text after rest) : Digits before ('_' :: own) text after rest
  | point {after : Bool} {c : Char} {own text rest : List Char} (digit : c.isDigit = true)
      (more : Digits true (c :: own) text after rest) :
      Digits false ('.' :: c :: own) ('.' :: text) after rest

theorem isDigit_underscore : Char.isDigit '_' = false := by decide

namespace Digits

variable {before after : Bool} {own text rest other : List Char}

theorem scan_eq (digits : Digits before own text after rest) :
    DigitRun.scan before (own ++ rest) = ⟨text, after, own.length, rest⟩ := by
  induction digits with
  | @done pointed rest stops point =>
    cases rest with
    | nil => rfl
    | cons c rest =>
      obtain ⟨plain, other⟩ := stops c rfl
      have unpointed : ¬ (c = '.' ∧ (!pointed) = true ∧ rest.head?.any Char.isDigit = true) := by
        rintro ⟨rfl, fresh, follows⟩
        cases rest with
        | nil => simp at follows
        | cons d rest =>
          cases point rfl with
          | inl pointed => simp [pointed] at fresh
          | inr plain => simp [plain] at follows
      rw [List.nil_append, DigitRun.scan, if_neg (by simp [plain]), if_neg other, if_neg unpointed]
      rfl
  | digit digit more ih =>
    rw [List.cons_append, DigitRun.scan, if_pos digit, ih]
    rfl
  | separator more ih =>
    rw [List.cons_append, DigitRun.scan, if_neg (by decide), if_pos rfl, ih]
    rfl
  | point digit more ih =>
    rw [List.cons_append, DigitRun.scan, if_neg (by decide), if_neg (by decide),
      if_pos (by simp [digit]), ih]
    rfl

theorem exists_split (before : Bool) (input : List Char) :
    ∃ own text after rest, input = own ++ rest ∧ Digits before own text after rest := by
  fun_induction DigitRun.scan before input with
  | case1 pointed => exact ⟨[], [], pointed, [], rfl, .done (by simp) (by simp)⟩
  | case2 pointed c rest digit _ ih =>
    obtain ⟨own, text, after, rest, rfl, more⟩ := ih
    exact ⟨c :: own, c :: text, after, rest, rfl, .digit digit more⟩
  | case3 pointed rest _ _ ih =>
    obtain ⟨own, text, after, rest, rfl, more⟩ := ih
    exact ⟨'_' :: own, text, after, rest, rfl, .separator more⟩
  | case4 pointed c rest _ _ point _ ih =>
    obtain ⟨rfl, fresh, follows⟩ := point
    obtain rfl : pointed = false := by simpa using fresh
    obtain ⟨own, text, after, rest, rfl, more⟩ := ih
    -- The digit behind the point belongs to the number, since digits stop at no digit.
    cases more with
    | done stops =>
      cases rest with
      | nil => simp at follows
      | cons d rest => simp [(stops d rfl).1] at follows
    | digit digit more => exact ⟨_, _, after, rest, rfl, .point digit (.digit digit more)⟩
    | separator more => simp [isDigit_underscore] at follows
  | case5 pointed c rest plain other unpointed =>
    refine ⟨[], [], pointed, c :: rest, rfl, .done (by simp [plain, other]) ?_⟩
    intro d more same
    obtain ⟨rfl, rfl⟩ := List.cons.inj same
    cases pointed with
    | true => exact .inl rfl
    | false => exact .inr (by simpa using unpointed)

theorem continued (digits : Digits before own text after rest) (continues : Continues rest other) :
    Digits before own text after other := by
  induction digits with
  | @done pointed rest stops point =>
    refine .done (continues.head_imp (by decide) stops) ?_
    rintro c more rfl
    obtain ⟨rest, rfl, behind⟩ := continues.cases_cons.resolve_left (by decide)
    cases behind.cases_cons with
    | inl newLine => exact .inr (by rw [newLine]; decide)
    | inr found =>
      obtain ⟨more, rfl, -⟩ := found
      exact point rfl
  | digit digit more ih => exact .digit digit (ih continues)
  | separator more ih => exact .separator (ih continues)
  | point digit more ih => exact .point digit (ih continues)

end Digits
/-! ## Characters of one byte -/

theorem utf8Size_of_toNat {c : Char} (ascii : c.toNat < 0x80) : c.utf8Size = 1 := by
  rw [Char.utf8Size_eq_one_iff, UInt32.le_iff_toNat_le]
  exact Nat.le_of_lt_succ ascii

theorem toNat_of_isDigit {c : Char} (digit : c.isDigit = true) : c.toNat < 0x80 :=
  Nat.lt_of_le_of_lt (Char.isDigit_iff_toNat.mp digit).2 (by decide)

theorem toNat_of_isHexDigit {c : Char} (hex : isHexDigit c = true) : c.toNat < 0x80 := by
  simp only [isHexDigit, Bool.or_eq_true, Bool.and_eq_true, decide_eq_true_eq] at hex
  rcases hex with (digit | lower) | upper
  · exact toNat_of_isDigit digit
  · exact Nat.lt_of_le_of_lt lower.2 (by decide)
  · exact Nat.lt_of_le_of_lt upper.2 (by decide)

theorem not_isDigit_of_isNameStart {c : Char} (starts : isNameStart c = true) :
    c.isDigit = false := by
  rw [Bool.eq_false_iff]
  intro digit
  have apart : ∀ code < 0x80, (Char.ofNat code).isDigit = true →
      isNameStart (Char.ofNat code) = false := by decide
  have plain := apart c.toNat (toNat_of_isDigit digit)
  rw [Char.ofNat_toNat, starts] at plain
  exact absurd (plain digit) (by decide)

theorem Text.Utf8.width_eq_length {text : List Char} (ascii : ∀ c ∈ text, c.toNat < 0x80) :
    width text = text.length := by
  induction text with
  | nil => rfl
  | cons c text ih =>
    rw [width_cons, utf8Size_of_toNat (ascii c (by simp)), ih (by simp_all), List.length_cons,
      Nat.add_comm]

theorem Digits.newLine_notMem {before after : Bool} {own text rest : List Char}
    (digits : Digits before own text after rest) : '\n' ∉ own := by
  induction digits with
  | done => simp
  | digit digit more ih =>
    rw [List.mem_cons, not_or]
    exact ⟨by rintro rfl; exact absurd digit (by decide), ih⟩
  | separator more ih => simpa using ih
  | point digit more ih => simpa using ih

theorem Digits.ascii {before after : Bool} {own text rest : List Char}
    (digits : Digits before own text after rest) : ∀ c ∈ own, c.toNat < 0x80 := by
  induction digits with
  | done => simp
  | digit digit more ih => simpa [toNat_of_isDigit digit] using ih
  | separator more ih => simpa using ih
  | point digit more ih => simpa using ih

/-! ## Tokens -/

/-- The characters that are marks. -/
def marks : List Char :=
  [';', '[', ']', '\x7b', '\x7d', ',', ':', '=']

/-- The characters that tell at once what begins with them. -/
def leads : List Char :=
  '\n' :: '"' :: '.' :: '<' :: '-' :: marks

theorem Token.Kind.mem_marks {c : Char} {kind : Token.Kind} (known : ofMark? c = some kind) :
    c ∈ marks := by
  unfold ofMark? at known
  repeat' split at known
  all_goals simp_all [marks]

theorem Token.Kind.ofMark?_eq_none {c : Char} (other : c ∉ marks) : ofMark? c = none := by
  cases known : ofMark? c with
  | none => rfl
  | some kind => exact absurd (mem_marks known) other

theorem Token.Kind.ofMark?_ne_stop {c : Char} : ofMark? c ≠ some .stop := by
  unfold ofMark?
  repeat' split
  all_goals simp

/-- What a lexer reads: the characters of a token, its kind and its text, and what may follow. -/
inductive Spelled : List Char → Token.Kind → List Char → List Char → Prop
  | lineBreak (rest : List Char) : Spelled ['\n'] .lineEnd ['\n'] rest
  | mark {c : Char} {kind : Token.Kind} (known : Token.Kind.ofMark? c = some kind)
      (rest : List Char) : Spelled [c] kind [c] rest
  | range (rest : List Char) : Spelled ['.', '.'] .range ['.', '.'] rest
  | arrow (rest : List Char) : Spelled ['<', '-'] .arrow ['<', '-'] rest
  | string {own text : List Char} (quotes : Quotes own text) (rest : List Char) :
      Spelled ('"' :: own) .string text rest
  | bytes {sign digits rest : List Char} (signed : sign = ['-'] ∨ sign = [])
      (hex : ∀ c ∈ digits, isHexDigit c = true) (even : digits.length % 2 = 0)
      (stops : ∀ c ∈ rest.head?, isHexDigit c = false) :
      Spelled (sign ++ '0' :: 'x' :: digits) .bytes digits rest
  | number {sign own text rest : List Char} {pointed : Bool}
      (digits : Digits false own text pointed rest) (valid : sign ++ text ≠ ['-'])
      (starts : sign = ['-'] ∨ sign = [] ∧ ∃ c more, own = c :: more ∧ c.isDigit = true)
      (plain : own = ['0'] → ∀ c ∈ rest.head?, c ≠ 'x') :
      Spelled (sign ++ own) (if pointed then .float else .integer) (sign ++ text) rest
  | word {c : Char} {more rest : List Char} (starts : isNameStart c = true)
      (plain : ∀ d ∈ more, isNameChar d = true) (stops : ∀ d ∈ rest.head?, isNameChar d = false) :
      Spelled (c :: more) (.ofWord (c :: more)) (c :: more) rest

namespace Cursor

/-- The place behind a token. -/
def past (cursor : Cursor) (own rest : List Char) : Cursor :=
  if own = ['\n'] then ⟨rest, cursor.line + 1, 0, cursor.offset + 1⟩
  else cursor.advance rest (Text.Utf8.width own) (Text.Utf8.width own)

theorem emit_eq {own : List Char} {bytes : Nat} (along : '\n' ∉ own)
    (width : Text.Utf8.width own = bytes) (cursor : Cursor) (kind : Token.Kind)
    (text rest : List Char) :
    cursor.emit kind text bytes rest =
      (.ok ⟨kind, cursor.span (Text.Utf8.width own), String.ofList text⟩,
        cursor.past own rest) := by
  have other : own ≠ ['\n'] := by
    rintro rfl
    simp at along
  rw [emit, past, if_neg other, width]

theorem readNumber_plain {input : List Char} (plain : ∀ tail, input ≠ '0' :: 'x' :: tail)
    (cursor : Cursor) (sign : List Char) :
    cursor.readNumber sign input =
      let run := DigitRun.scan false input
      let bytes := sign.length + run.count
      if sign ++ run.text = ['-'] then
        (.error (.unexpectedChar '-' (cursor.span bytes)), cursor.advance run.rest bytes bytes)
      else
        cursor.emit (if run.pointed then .float else .integer) (sign ++ run.text) bytes
          run.rest := by
  unfold readNumber
  split
  · exact absurd rfl (plain _)
  · rfl

theorem readFrom_plain {c : Char} (plain : c ∉ leads) (cursor : Cursor) (rest : List Char) :
    cursor.readFrom c rest =
      if c.isDigit then cursor.readNumber [] (c :: rest)
      else if isNameStart c then
        let word := c :: rest.takeWhile isNameChar
        cursor.emit (.ofWord word) word (Text.Utf8.width word) (rest.dropWhile isNameChar)
      else cursor.refuse c rest := by
  simp only [leads, List.mem_cons, not_or] at plain
  obtain ⟨newLine, quote, point, arrow, minus, unmarked⟩ := plain
  unfold readFrom
  rw [if_neg newLine, Token.Kind.ofMark?_eq_none unmarked]
  dsimp only
  rw [if_neg quote, if_neg point, if_neg arrow, if_neg minus]

end Cursor

theorem Digits.not_bytes {own text rest : List Char} {pointed : Bool}
    (digits : Digits false own text pointed rest)
    (plain : own = ['0'] → ∀ c ∈ rest.head?, c ≠ 'x') (tail : List Char) :
    own ++ rest ≠ '0' :: 'x' :: tail := by
  intro same
  cases digits with
  | done stops =>
    rw [List.nil_append] at same
    rw [same] at stops
    exact absurd (stops '0' rfl).1 (by decide)
  | digit _ more =>
    obtain ⟨rfl, behind⟩ := List.cons.inj same
    clear same
    cases more with
    | done =>
      have first : rest = 'x' :: tail := behind
      rw [first] at plain
      exact plain rfl 'x' rfl rfl
    | digit digit =>
      obtain ⟨rfl, -⟩ := List.cons.inj behind
      exact absurd digit (by decide)
    | separator => exact absurd (List.cons.inj behind).1 (by decide)
    | point => exact absurd (List.cons.inj behind).1 (by decide)
  | separator => exact absurd (List.cons.inj same).1 (by decide)
  | point => exact absurd (List.cons.inj same).1 (by decide)

theorem exists_run (p : Char → Bool) (input : List Char) :
    ∃ own rest, input = own ++ rest ∧ (∀ c ∈ own, p c = true) ∧ ∀ c ∈ rest.head?, p c = false := by
  induction input with
  | nil => exact ⟨[], [], rfl, by simp, by simp⟩
  | cons c input ih =>
    cases holds : p c with
    | true =>
      obtain ⟨own, rest, rfl, all, stops⟩ := ih
      exact ⟨c :: own, rest, rfl, by simpa [holds] using all, stops⟩
    | false => exact ⟨[], c :: input, rfl, by simp, by simpa using holds⟩

theorem while_append {p : Char → Bool} {own rest : List Char}
    (all : ∀ c ∈ own, p c = true) (stops : ∀ c ∈ rest.head?, p c = false) :
    (own ++ rest).takeWhile p = own ∧ (own ++ rest).dropWhile p = rest := by
  rw [List.takeWhile_append_of_pos all, List.dropWhile_append_of_pos all]
  cases rest with
  | nil => simp
  | cons c rest => simp [stops c rfl]

theorem Cursor.readBytes_eq {sign digits rest : List Char} (signed : sign = ['-'] ∨ sign = [])
    (hex : ∀ c ∈ digits, isHexDigit c = true) (even : digits.length % 2 = 0)
    (stops : ∀ c ∈ rest.head?, isHexDigit c = false)
    (along : '\n' ∉ sign ++ '0' :: 'x' :: digits) (cursor : Cursor) :
    cursor.readBytes (sign.length + 2) (digits ++ rest) =
      (.ok ⟨.bytes, cursor.span (Text.Utf8.width (sign ++ '0' :: 'x' :: digits)),
          String.ofList digits⟩,
        cursor.past (sign ++ '0' :: 'x' :: digits) rest) := by
  have plain : ∀ c ∈ digits, c.toNat < 0x80 := fun c member => toNat_of_isHexDigit (hex c member)
  have ascii : ∀ c ∈ sign ++ '0' :: 'x' :: digits, c.toNat < 0x80 := by
    rcases signed with rfl | rfl <;> simpa using plain
  obtain ⟨taken, dropped⟩ := while_append hex stops
  rw [readBytes, taken, dropped, if_pos even, emit_eq along]
  rw [Text.Utf8.width_eq_length ascii]
  simp only [List.length_append, List.length_cons]
  omega

namespace Spelled

variable {own text rest other : List Char} {kind : Token.Kind}

/-- A token is a line break, or has no new line in it. -/
theorem cases_newLine (spelled : Spelled own kind text rest) :
    (own = ['\n'] ∧ kind = .lineEnd ∧ text = ['\n']) ∨ '\n' ∉ own := by
  cases spelled with
  | lineBreak => exact .inl ⟨rfl, rfl, rfl⟩
  | mark known =>
    apply Or.inr
    rw [List.mem_singleton]
    rintro rfl
    exact absurd (Token.Kind.mem_marks known) (by decide)
  | range => exact .inr (by decide)
  | arrow => exact .inr (by decide)
  | string quotes => exact .inr (by simpa using quotes.newLine_notMem)
  | bytes signed hex =>
    have unbroken : '\n' ∉ text := fun member => absurd (hex _ member) (by decide)
    rcases signed with rfl | rfl <;> exact .inr (by simpa using unbroken)
  | number digits _ starts =>
    have unbroken := digits.newLine_notMem
    rcases starts with rfl | ⟨rfl, -⟩ <;> exact .inr (by simpa using unbroken)
  | word starts plain =>
    apply Or.inr
    rw [List.mem_cons, not_or]
    constructor
    · rintro rfl
      exact absurd starts (by decide)
    · exact fun member => absurd (plain _ member) (by decide)

theorem kind_ne_stop (spelled : Spelled own kind text rest) : kind ≠ .stop := by
  cases spelled with
  | mark known =>
    rintro rfl
    exact Token.Kind.ofMark?_ne_stop known
  | @number _ _ _ _ pointed => cases pointed <;> decide
  | @word c more =>
    unfold Token.Kind.ofWord
    repeat' split
    all_goals decide
  | _ => decide

/-- The lexer reads what is spelled. -/
theorem readFrom_eq (spelled : Spelled own kind text rest) :
    ∃ c more, own = c :: more ∧ ∀ cursor : Cursor, cursor.readFrom c (more ++ rest) =
      (.ok ⟨kind, cursor.span (Text.Utf8.width own), String.ofList text⟩,
        cursor.past own rest) := by
  rcases spelled.cases_newLine with ⟨rfl, rfl, rfl⟩ | along
  · exact ⟨'\n', [], rfl, fun cursor => rfl⟩
  cases spelled with
  | lineBreak => exact absurd (by simp) along
  | @mark c kind known =>
    refine ⟨c, [], rfl, fun cursor => ?_⟩
    have mark := Token.Kind.mem_marks known
    have size : ∀ d ∈ marks, d.utf8Size = 1 := forall_mem_of_all (by decide)
    rw [← Cursor.emit_eq along (size c mark)]
    rw [List.mem_singleton] at along
    simp [Cursor.readFrom, Ne.symm along, known]
  | range => exact ⟨'.', ['.'], rfl, fun cursor => rfl⟩
  | arrow => exact ⟨'<', ['-'], rfl, fun cursor => rfl⟩
  | @string own text quotes =>
    refine ⟨'"', own, rfl, fun cursor => ?_⟩
    have read : cursor.readFrom '"' (own ++ rest) = cursor.readString (own ++ rest) := rfl
    rw [read, Cursor.readString, quotes.scan_eq, ← Cursor.emit_eq along rfl]
    rfl
  | bytes signed hex even stops =>
    have read := Cursor.readBytes_eq signed hex even stops along
    rcases signed with rfl | rfl
    · exact ⟨'-', '0' :: 'x' :: text, rfl, read⟩
    · exact ⟨'0', 'x' :: text, rfl, read⟩
  | @number sign own text rest pointed digits valid starts plain =>
    have width := Text.Utf8.width_eq_length digits.ascii
    have read := fun cursor => Cursor.readNumber_plain (digits.not_bytes plain) cursor sign
    simp only [digits.scan_eq, valid, if_false] at read
    rcases starts with rfl | ⟨rfl, c, more, rfl, digit⟩
    · refine ⟨'-', own, rfl, fun cursor => ?_⟩
      have lead : cursor.readFrom '-' (own ++ rest) = cursor.readNumber ['-'] (own ++ rest) := rfl
      rw [lead, read, Cursor.emit_eq along]
      rw [Text.Utf8.width_append, width]
      rfl
    · refine ⟨c, more, rfl, fun cursor => ?_⟩
      have unled : ∀ d ∈ leads, d.isDigit = false := forall_mem_of_all (by decide)
      rw [Cursor.readFrom_plain (fun lead => by simp [unled c lead] at digit), if_pos digit,
        ← List.cons_append, read, Cursor.emit_eq along]
      rw [Text.Utf8.width_append, width]
      rfl
  | @word c more rest starts plain stops =>
    refine ⟨c, more, rfl, fun cursor => ?_⟩
    obtain ⟨taken, dropped⟩ := while_append plain stops
    have unled : ∀ d ∈ leads, isNameStart d = false := forall_mem_of_all (by decide)
    rw [Cursor.readFrom_plain (fun lead => by simp [unled c lead] at starts),
      not_isDigit_of_isNameStart starts, if_neg (by decide), if_pos starts, taken, dropped,
      Cursor.emit_eq along rfl]

theorem ne_nil (spelled : Spelled own kind text rest) : own ≠ [] := by
  obtain ⟨c, more, rfl, -⟩ := spelled.readFrom_eq
  exact List.cons_ne_nil c more

theorem continued (spelled : Spelled own kind text rest) (continues : Continues rest other) :
    Spelled own kind text other := by
  cases spelled with
  | lineBreak => exact .lineBreak other
  | mark known => exact .mark known other
  | range => exact .range other
  | arrow => exact .arrow other
  | string quotes => exact .string quotes other
  | bytes signed hex even stops =>
    exact .bytes signed hex even (continues.head_imp (by decide) stops)
  | number digits valid starts plain =>
    exact .number (digits.continued continues) valid starts
      fun single => continues.head_imp (by decide) (plain single)
  | word starts plain stops => exact .word starts plain (continues.head_imp (by decide) stops)

theorem of_readBytes {cursor after : Cursor} {mark : Nat} {input sign : List Char} {token : Token}
    (signed : sign = ['-'] ∨ sign = []) (read : cursor.readBytes mark input = (.ok token, after)) :
    ∃ digits rest, input = digits ++ rest ∧
      Spelled (sign ++ '0' :: 'x' :: digits) token.kind token.text.toList rest := by
  obtain ⟨digits, rest, rfl, hex, stops⟩ := exists_run isHexDigit input
  obtain ⟨taken, dropped⟩ := while_append hex stops
  rw [Cursor.readBytes, taken, dropped] at read
  split at read
  · rename_i even
    cases read
    refine ⟨digits, rest, rfl, ?_⟩
    rw [String.toList_ofList]
    exact .bytes signed hex even stops
  · cases read

theorem of_readNumber {cursor after : Cursor} {input sign : List Char} {token : Token}
    (starts : sign = ['-'] ∨ sign = [] ∧ ∃ c more, input = c :: more ∧ c.isDigit = true)
    (read : cursor.readNumber sign input = (.ok token, after)) :
    ∃ own rest, input = own ++ rest ∧
      Spelled (sign ++ own) token.kind token.text.toList rest := by
  by_cases marked : ∃ tail, input = '0' :: 'x' :: tail
  · obtain ⟨tail, rfl⟩ := marked
    obtain ⟨digits, rest, rfl, spelled⟩ := of_readBytes (starts.imp id And.left) read
    exact ⟨'0' :: 'x' :: digits, rest, rfl, spelled⟩
  · obtain ⟨own, text, pointed, rest, rfl, digits⟩ := Digits.exists_split false input
    rw [Cursor.readNumber_plain (by simpa using marked), digits.scan_eq] at read
    dsimp only at read
    split at read
    · cases read
    · rename_i valid
      cases read
      refine ⟨own, rest, rfl, ?_⟩
      rw [String.toList_ofList]
      refine .number digits valid (starts.imp id (And.imp_right ?_)) ?_
      · rintro ⟨c, more, same, digit⟩
        cases digits with
        | done stops =>
          rw [List.nil_append] at same
          simp [same, digit] at stops
        | digit digit => exact ⟨_, _, rfl, digit⟩
        | separator =>
          rw [← (List.cons.inj same).1] at digit
          exact absurd digit (by decide)
        | point =>
          rw [← (List.cons.inj same).1] at digit
          exact absurd digit (by decide)
      · rintro rfl c first rfl
        cases rest with
        | nil => cases first
        | cons d rest =>
          cases first
          exact marked ⟨rest, rfl⟩

/-- What the lexer reads is spelled. -/
theorem of_readFrom {cursor after : Cursor} {c : Char} {input : List Char} {token : Token}
    (read : cursor.readFrom c input = (.ok token, after)) :
    ∃ own rest, input = own ++ rest ∧
      Spelled (c :: own) token.kind token.text.toList rest := by
  unfold Cursor.readFrom at read
  split at read
  · rename_i same
    cases read
    have text : "\n".toList = ['\n'] := by decide
    exact ⟨[], input, rfl, by rw [same, text]; exact .lineBreak input⟩
  split at read
  · rename_i kind known
    cases read
    exact ⟨[], input, rfl, by rw [String.toList_ofList]; exact .mark known input⟩
  split at read
  · rename_i same
    subst same
    unfold Cursor.readString at read
    split at read
    · rename_i text bytes rest closed
      cases read
      obtain ⟨own, rfl, quotes⟩ := Quotes.of_scan closed
      exact ⟨own, rest, rfl, by rw [String.toList_ofList]; exact .string quotes rest⟩
    · cases read
    · cases read
  split at read
  · rename_i same
    subst same
    split at read
    · rename_i rest
      cases read
      exact ⟨['.'], rest, rfl, by rw [String.toList_ofList]; exact .range rest⟩
    · cases read
  split at read
  · rename_i same
    subst same
    split at read
    · rename_i rest
      cases read
      exact ⟨['-'], rest, rfl, by rw [String.toList_ofList]; exact .arrow rest⟩
    · cases read
  split at read
  · rename_i same
    subst same
    exact of_readNumber (.inl rfl) read
  split at read
  · rename_i digit
    obtain ⟨own, rest, split, spelled⟩ := of_readNumber (.inr ⟨rfl, c, input, rfl, digit⟩) read
    obtain ⟨d, more, rfl, -⟩ := spelled.readFrom_eq
    obtain ⟨rfl, rfl⟩ := List.cons.inj split
    exact ⟨more, rest, rfl, spelled⟩
  split at read
  · rename_i starts
    obtain ⟨own, rest, rfl, plain, stops⟩ := exists_run isNameChar input
    obtain ⟨taken, dropped⟩ := while_append plain stops
    rw [taken, dropped] at read
    cases read
    exact ⟨own, rest, rfl, by rw [String.toList_ofList]; exact .word starts plain stops⟩
  · cases read

end Spelled

end Custody
