import Custody.Proofs.Misspelling
import Custody.Proofs.Streams

/-!
# Recovery at line breaks

After an error the rest of the line is left out, and the next line is read as if nothing had
happened.  So the errors of a text are those of the lines before a break and those of the lines
behind it.  Only the words for the end of the text change where a break takes its place, and only a
malformed string in front of the break can carry its harm across.
-/

namespace Custody

/-! ## A break in the place of the end -/

/-- An error about the end of a text, as it is about a line break there. -/
def SyntaxError.atBreak : SyntaxError → SyntaxError
  | .unexpectedToken expected found span =>
    if found = "end of input" then
      .unexpectedToken expected "end of line" { span with length := 1 }
    else .unexpectedToken expected found span
  | fault => fault

/-- The end of a text as a line break. -/
def Token.atBreak (token : Token) : Token :=
  if token.kind = .stop then ⟨.lineEnd, { token.span with length := 1 }, "\n"⟩ else token

def Lexeme.atBreak : Lexeme → Lexeme
  | .ok token => .ok token.atBreak
  | .error fault => .error fault.atBreak

theorem Token.atBreak_stop {token : Token} (stops : token.kind = .stop) :
    token.atBreak = ⟨.lineEnd, { token.span with length := 1 }, "\n"⟩ :=
  if_pos stops

theorem Token.atBreak_of_ne {token : Token} (goes : token.kind ≠ .stop) : token.atBreak = token :=
  if_neg goes

theorem Token.atBreak_of_not_endsLine {token : Token} (goes : token.endsLine = false) :
    token.atBreak = token := by
  apply atBreak_of_ne
  intro stops
  simp [endsLine, stops] at goes

@[simp] theorem Token.endsLine_atBreak (token : Token) :
    token.atBreak.endsLine = token.endsLine := by
  by_cases stops : token.kind = .stop
  · rw [atBreak_stop stops]
    simp [endsLine, stops]
  · rw [atBreak_of_ne stops]

@[simp] theorem Lexeme.endsLine_atBreak (lexeme : Lexeme) :
    Lexeme.endsLine (Lexeme.atBreak lexeme) = Lexeme.endsLine lexeme := by
  cases lexeme with
  | ok token => exact token.endsLine_atBreak
  | error fault => rfl

theorem Token.describe_ne {token : Token} (goes : token.kind ≠ .stop) :
    token.describe ≠ "end of input" := by
  intro same
  have chars := congrArg String.toList same
  unfold describe at chars
  split at chars
  · simp at chars
  · next stops => exact goes stops
  · simp [toString] at chars

/-- A refusal of the end of a text is about the break when a break takes its place. -/
theorem Token.refusal_atBreak (token : Token) (expected : String) :
    (SyntaxError.unexpectedToken expected token.describe token.span).atBreak =
      .unexpectedToken expected token.atBreak.describe token.atBreak.span := by
  by_cases stops : token.kind = .stop
  · rw [atBreak_stop stops]
    simp [SyntaxError.atBreak, describe, stops]
  · rw [atBreak_of_ne stops, SyntaxError.atBreak, if_neg (describe_ne stops)]

/-- A statement with a break in the place of the end. -/
def Line.atBreak (line : Line) : Line :=
  ⟨line.current.atBreak, line.last, line.rest.map Lexeme.atBreak⟩

/-- Two readings of a line, of which the second meets a break where the first meets the end. -/
def Reading.breaks : Comparison where
  lines s t := t = s.atBreak
  places := Eq
  faults left right := right = left.atBreak
  givenUp _ _ := True

theorem Reading.simulation_breaks : Simulation breaks where
  givenUp _ := trivial
  current := by
    rintro s _ rfl
    cases ends : s.current.endsLine with
    | true => exact .inl ⟨ends, s.current.endsLine_atBreak.trans ends⟩
    | false =>
      refine .inr ⟨ends, ?_, ?_, ?_⟩ <;>
        exact congrArg _ (Token.atBreak_of_not_endsLine ends).symm
  bounds := by
    rintro s _ rfl
    exact .inl (List.length_map _).symm
  advance := by
    rintro ⟨token, last, rest⟩ _ rfl going
    have same : token.atBreak = token := Token.atBreak_of_not_endsLine going
    rw [Line.atBreak, same]
    cases rest with
    | nil => exact .ok () (congrArg (Line.mk · token.span []) same.symm)
    | cons lexeme rest =>
      cases lexeme with
      | ok next => exact .ok () rfl
      | error fault => exact .error rfl trivial
  refusal := by
    rintro s _ rfl expected
    exact (s.current.refusal_atBreak expected).symm
  keyword := by
    rintro p q rfl word expected context
    rfl
  literal := by
    rintro p q rfl fault
    rfl

/-! ## Lines at a break -/

/-- The result of a line at a break. -/
def Node.atBreak : Except SyntaxError Node → Except SyntaxError Node :=
  Except.mapError SyntaxError.atBreak

theorem readLine_atBreak (line : List Lexeme) :
    readLine (line.map Lexeme.atBreak) = (readLine line).map Node.atBreak := by
  induction line with
  | nil => rfl
  | cons lexeme rest ih =>
    cases lexeme with
    | error fault =>
      simp only [List.map_cons, Lexeme.atBreak, readLine, ih]
      rfl
    | ok token =>
      simp only [List.map_cons, Lexeme.atBreak, readLine, Token.endsLine_atBreak]
      split
      · rfl
      · next goes =>
        have same := Token.atBreak_of_not_endsLine (by simpa using goes)
        have start : (⟨token.atBreak, {}, rest.map Lexeme.atBreak⟩ : Line) =
            (⟨token, {}, rest⟩ : Line).atBreak := rfl
        rcases Reading.simulation_breaks.statement_related start with
          ⟨left, right, _, _, alike, -, first, second⟩ | ⟨operation, s, t, after, -, first, second⟩
        · rw [first, second, alike]
          rfl
        · rw [first, second, after]
          simp only [same]
          rfl

theorem splitLines_atBreak (lexemes : List Lexeme) :
    splitLines (lexemes.map Lexeme.atBreak) =
      (splitLines lexemes).map (·.map Lexeme.atBreak) := by
  induction lexemes with
  | nil => rfl
  | cons lexeme rest ih =>
    simp only [List.map_cons, splitLines, Lexeme.endsLine_atBreak, ih]
    split
    · rfl
    · cases splitLines rest <;> rfl

theorem results_atBreak (lexemes : List Lexeme) :
    results (lexemes.map Lexeme.atBreak) = (results lexemes).map Node.atBreak := by
  rw [results, splitLines_atBreak, List.flatMap_map, results, List.map_flatMap]
  exact congrArg (List.flatMap · _) (funext readLine_atBreak)

/-! ## Lexemes in front of a break -/

namespace Place

/-- The lexer takes some characters for a lexeme and moves on by them, whatever stands behind them
from the next new line on. -/
structure Takes (place : Place) (own rest : List Char) (lexeme : Lexeme) (after : Place) :
    Prop where
  next : ∀ {other}, Continues rest other →
    (place.cursor (own ++ other)).next = (lexeme, after.cursor other)
  nonempty : own ≠ []
  settled : Lexeme.atBreak lexeme = lexeme
  line : after.line = place.line + own.count '\n'
  offset : after.offset = place.offset + Text.Utf8.width own

theorem takes_chunk {chunk : Chunk} {rest : List Char}
    (skips : Skips false chunk.gap (chunk.own ++ rest))
    (spelled : Spelled chunk.own chunk.kind chunk.text rest) (place : Place) :
    place.Takes chunk.chars rest (.ok (place.token chunk)) (place.after chunk) where
  next continues :=
    place.next_cursor (skips.continued (continues.append _)) (spelled.continued continues)
  nonempty := by simp [Chunk.chars, spelled.ne_nil]
  settled := congrArg Except.ok (Token.atBreak_of_ne spelled.kind_ne_stop)
  line := after_line skips spelled place
  offset := place.after_offset chunk

theorem atBreak_complaint {own rest : List Char} {complaint : Span → SyntaxError}
    (misspelled : Misspelled own complaint rest) (span : Span) :
    (complaint span).atBreak = complaint span := by
  cases misspelled <;> rfl

theorem takes_misspelled {gap own rest : List Char} {complaint : Span → SyntaxError}
    (skips : Skips false gap (own ++ rest)) (misspelled : Misspelled own complaint rest)
    (place : Place) :
    place.Takes (gap ++ own) rest
      (.error (complaint ⟨place.line, place.column + gap.length,
        place.offset + Text.Utf8.width gap, Text.Utf8.width own⟩))
      ⟨place.line, place.column + gap.length + own.length,
        place.offset + Text.Utf8.width gap + Text.Utf8.width own⟩ where
  next continues := by
    have skips := skips.continued (continues.append own)
    obtain ⟨c, more, rfl, read⟩ := (misspelled.continued continues).readFrom_eq
    rw [Cursor.next_readFrom skips (List.append_assoc ..)]
    exact read _
  nonempty := by simp [misspelled.ne_nil]
  settled := congrArg Except.error (atBreak_complaint misspelled _)
  line := by
    rw [List.count_append, List.count_eq_zero.mpr skips.newLine_notMem,
      List.count_eq_zero.mpr misspelled.newLine_notMem]
    rfl
  offset := by rw [Text.Utf8.width_append, ← Nat.add_assoc]

/-- An error at the beginning of a text is about something misspelled, unless it is about a
string. -/
theorem exists_misspelled {place : Place} {text : List Char} {fault : SyntaxError}
    (error : (place.cursor text).next.1 = .error fault)
    (whole : fault.isMalformedString = false) :
    ∃ gap own rest complaint, text = gap ++ own ++ rest ∧ Skips false gap (own ++ rest) ∧
      Misspelled own complaint rest := by
  obtain ⟨gap, behind, rfl, skips⟩ := Skips.exists_split false text
  cases behind with
  | nil =>
    rw [List.append_nil, Cursor.next_stop skips rfl] at error
    cases error
  | cons c more =>
    rw [Cursor.next_readFrom skips rfl] at error
    obtain ⟨own, rest, complaint, rfl, misspelled⟩ :=
      Misspelled.of_readFrom (Prod.ext error rfl) whole
    exact ⟨gap, c :: own, rest, complaint, by simp, skips, misspelled⟩

/-- A text is a gap, or begins with a malformed string, or begins with something that the lexer
takes and moves on by. -/
theorem cases_takes (place : Place) (text : List Char) :
    Skips false text [] ∨
      (∃ fault, (place.cursor text).next.1 = .error fault ∧ fault.isMalformedString = true) ∨
      ∃ own rest lexeme after, text = own ++ rest ∧ place.Takes own rest lexeme after := by
  rcases place.cases_next text with skips | ⟨fault, error⟩ | ⟨chunk, rest, rfl, skips, spelled⟩
  · exact .inl skips
  · cases malformed : fault.isMalformedString with
    | true => exact .inr (.inl ⟨fault, error, malformed⟩)
    | false =>
      obtain ⟨gap, own, rest, complaint, rfl, skips, misspelled⟩ :=
        exists_misspelled error malformed
      exact .inr (.inr ⟨_, rest, _, _, rfl, takes_misspelled skips misspelled place⟩)
  · exact .inr (.inr ⟨_, rest, _, _, rfl, takes_chunk skips spelled place⟩)

theorem Takes.kind_ne_stop {place after : Place} {own rest : List Char} {token : Token}
    (takes : place.Takes own rest (.ok token) after) : token.kind ≠ .stop := by
  intro stops
  have same : token.atBreak.kind = token.kind := congrArg Token.kind (Except.ok.inj takes.settled)
  rw [Token.atBreak_stop stops, stops] at same
  cases same

theorem Takes.lexemes_eq {place after : Place} {own rest other : List Char} {lexeme : Lexeme}
    (takes : place.Takes own rest lexeme after) (continues : Continues rest other) :
    (place.cursor (own ++ other)).lexemes = lexeme :: (after.cursor other).lexemes := by
  apply Cursor.lexemes_of_next (takes.next continues)
  rintro token rfl
  exact takes.kind_ne_stop

theorem Takes.nextLine_eq {place after : Place} {own rest : List Char} {lexeme : Lexeme}
    (takes : place.Takes own rest lexeme after) :
    after.nextLine rest = place.nextLine (own ++ rest) := by
  simp only [nextLine, takes.line, takes.offset, List.count_append, Text.Utf8.width_append,
    Nat.add_assoc]

/-- A gap in front of a break. -/
theorem lexemes_gap_newLine {gap : List Char} (skips : Skips false gap []) (place : Place)
    (tail : List Char) :
    (place.cursor (gap ++ '\n' :: tail)).lexemes =
      (place.cursor gap).lexemes.map Lexeme.atBreak ++
        ((place.nextLine gap).cursor tail).lexemes := by
  have along := List.count_eq_zero.mpr skips.newLine_notMem
  have chars : gap ++ '\n' :: tail = (Chunk.lineBreak gap).chars ++ tail := by
    simp [Chunk.lineBreak, Chunk.chars]
  have takes : place.Takes (Chunk.lineBreak gap).chars tail (.ok (place.token (.lineBreak gap)))
      (place.after (.lineBreak gap)) :=
    takes_chunk (skips.before_newLine tail) (.lineBreak tail) place
  have after : place.after (.lineBreak gap) = place.nextLine gap := by
    rw [nextLine, along]
    rfl
  rw [chars, takes.lexemes_eq (.refl tail), lexemes_gap skips, after]
  rfl

/-- The lexemes in front of a line break do not depend on what is behind it. -/
theorem lexemes_newLine {place : Place} {text : List Char}
    (whole : ∀ lexeme ∈ (place.cursor text).lexemes, Lexeme.isMalformedString lexeme = false)
    (tail : List Char) :
    (place.cursor (text ++ '\n' :: tail)).lexemes =
      (place.cursor text).lexemes.map Lexeme.atBreak ++
        ((place.nextLine text).cursor tail).lexemes := by
  induction length : text.length using Nat.strongRecOn generalizing place text with
  | ind size ih =>
    rcases place.cases_takes text with
      skips | ⟨fault, error, malformed⟩ | ⟨own, rest, lexeme, after, rfl, takes⟩
    · exact lexemes_gap_newLine skips place tail
    · have intact := whole (.error fault) (Cursor.mem_lexemes_of_next error)
      rw [Lexeme.isMalformedString, malformed] at intact
      cases intact
    · have here := takes.lexemes_eq (.refl rest)
      have shorter : rest.length < size := by
        have := List.length_pos_of_ne_nil takes.nonempty
        rw [← length, List.length_append]
        omega
      rw [here] at whole ⊢
      rw [List.append_assoc, takes.lexemes_eq (.newLine rest tail), List.map_cons, takes.settled,
        ih _ shorter (List.forall_mem_cons.mp whole).2 rfl, takes.nextLine_eq]
      rfl

end Place

/-! ## The errors of a text -/

/-- The error of a result. -/
def Node.fault? : Except SyntaxError Node → Option SyntaxError
  | .ok _ => none
  | .error fault => some fault

/-- The errors of a stream. -/
def faults : Except (List SyntaxError) (List Node) → List SyntaxError
  | .ok _ => []
  | .error found => found

/-- All errors from a place on. -/
def Cursor.errors (cursor : Cursor) : List SyntaxError :=
  faults (cursor.parse 0)

/-- The beginning of a text that stands behind another one and a line break. -/
def Cursor.behind (first second : String) : Cursor :=
  .startingAt second (1 + first.toList.count '\n' + 1) (first.utf8ByteSize + 1)

/-- Without a limit no error is left out. -/
theorem faults_gather (found : List (Except SyntaxError Node)) (errors : List SyntaxError) :
    faults (gather 0 found errors) = errors.reverse ++ found.filterMap Node.fault? := by
  induction found generalizing errors with
  | nil => cases errors <;> simp [gather, faults]
  | cons head found ih =>
    cases head with
    | ok node =>
      have step : faults (gather 0 (.ok node :: found) errors) = faults (gather 0 found errors) := by
        rw [gather]
        cases gather 0 found errors <;> rfl
      rw [step, ih]
      rfl
    | error fault =>
      have step : gather 0 (.error fault :: found) errors = gather 0 found (fault :: errors) :=
        if_neg (by simp)
      rw [step, ih]
      simp [Node.fault?]

theorem Cursor.errors_eq (cursor : Cursor) :
    cursor.errors = (results cursor.lexemes).filterMap Node.fault? :=
  faults_gather ..

theorem fault?_atBreak (result : Except SyntaxError Node) :
    Node.fault? (Node.atBreak result) = (Node.fault? result).map SyntaxError.atBreak := by
  cases result <;> rfl

/-- The errors of a text with a break are those in front of the break and those behind it. -/
theorem Place.errors_newLine {place : Place} {text : List Char}
    (whole : ∀ lexeme ∈ (place.cursor text).lexemes, Lexeme.isMalformedString lexeme = false)
    (tail : List Char) :
    (place.cursor (text ++ '\n' :: tail)).errors =
      (place.cursor text).errors.map SyntaxError.atBreak ++
        ((place.nextLine text).cursor tail).errors := by
  obtain ⟨front, stop, split, ends⟩ := (place.cursor text).exists_stop
  have ends : stop.atBreak.endsLine = true := stop.endsLine_atBreak.trans ends
  have lines : results (place.cursor (text ++ '\n' :: tail)).lexemes =
      (results (place.cursor text).lexemes).map Node.atBreak ++
        results ((place.nextLine text).cursor tail).lexemes := by
    rw [lexemes_newLine whole, ← results_atBreak, split, List.map_append, List.append_assoc]
    exact results_append ends ..
  simp only [Cursor.errors_eq, lines, List.filterMap_append, List.filterMap_map, List.map_filterMap]
  congr 2
  exact funext fault?_atBreak

/-- The place behind a text and a line break. -/
theorem Cursor.behind_eq (first second : String) :
    behind first second = ((⟨1, 0, 0⟩ : Place).nextLine first.toList).cursor second.toList := by
  rw [behind, startingAt, ← Text.Utf8.width_toList]
  simp [Place.nextLine, Place.cursor]

/-- A line break confines errors: the errors of a text with a break are those of the part before it,
where the end of that part is now the break, and those of the part behind it.  A text without errors
on both sides has the operations of both. -/
theorem recovery_line_local (first second : String) :
    ((∀ lexeme ∈ (Cursor.ofString first).lexemes, Lexeme.isMalformedString lexeme = false) →
      (Cursor.ofString (first ++ "\n" ++ second)).errors =
        (Cursor.ofString first).errors.map SyntaxError.atBreak ++
          (Cursor.behind first second).errors) ∧
    ∀ nodes more, (Cursor.ofString first).parse 0 = .ok nodes →
      (Cursor.behind first second).parse 0 = .ok more →
      (Cursor.ofString (first ++ "\n" ++ second)).parse 0 = .ok (nodes ++ more) := by
  have start (text : String) :
      Cursor.ofString text = (⟨1, 0, 0⟩ : Place).cursor text.toList := rfl
  have chars : (first ++ "\n" ++ second).toList = first.toList ++ '\n' :: second.toList := by
    simp
  rw [start, start, chars, Cursor.behind_eq]
  exact ⟨fun whole => Place.errors_newLine whole _, fun _ _ => Place.parse_newLine⟩

/-- Two lines with errors in front of a third one, and two lines without. -/
theorem recovery_line_local_three :
    (Cursor.ofString ("push x @ 0x1\npop" ++ "\n" ++ "]")).errors =
        [.unexpectedChar '@' ⟨1, 7, 7, 1⟩,
          .unexpectedToken "binding name" "end of line" ⟨2, 3, 16, 1⟩,
          .unexpectedToken "a statement" "']'" ⟨3, 0, 17, 1⟩] ∧
      (Cursor.ofString ("peek x" ++ "\n" ++ "pop y")).parse 0 =
        .ok ([⟨.peek "x" none, ⟨1, 0, 0, 6⟩⟩] ++ [⟨.pop "y" none, ⟨2, 0, 7, 5⟩⟩]) := by
  constructor
  · rw [(recovery_line_local "push x @ 0x1\npop" "]").1 (by decide +kernel)]
    decide +kernel
  · exact (recovery_line_local "peek x" "pop y").2 _ _ (by decide +kernel) (by decide +kernel)

/-- The errors before a break need not stay as they were: the end of a text is not a break, and a
string that is not closed takes the break with it. -/
theorem recovery_not_verbatim :
    (Cursor.ofString ("pop" ++ "\n" ++ "")).errors ≠
        (Cursor.ofString "pop").errors ++ (Cursor.behind "pop" "").errors ∧
      (Cursor.ofString ("push x \"a" ++ "\n" ++ "bogus")).errors ≠
        (Cursor.ofString "push x \"a").errors ++ (Cursor.behind "push x \"a" "bogus").errors := by
  decide +kernel

end Custody
