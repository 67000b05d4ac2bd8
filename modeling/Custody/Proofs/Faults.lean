import Custody.Proofs.Quoting
import Custody.Proofs.Recovery

/-!
# Errors line by line

A limit on the number of errors cuts their list short and does nothing else.  Without a limit each
source line is reported on its own.  A statement fails at most once, since the rest of its line is
left out; but what the lexer refuses in front of the first token belongs to no statement, and is
reported piece by piece.  A malformed string that takes the end of its line away makes the next line
a part of the same statement.
-/

namespace Custody

/-! ## Up to a limit -/

/-- Behind a first error the other ones are only listed. -/
theorem gather_of_ne_nil {errors : List SyntaxError} (failed : errors ≠ [])
    (found : List (Except SyntaxError Node)) :
    gather 0 found errors = .error (errors.reverse ++ found.filterMap Node.fault?) := by
  have all := faults_gather found errors
  cases read : gather 0 found errors with
  | ok nodes => exact absurd ((gather_eq_ok_iff ..).mp read).1 failed
  | error listed =>
    rw [read] at all
    exact congrArg Except.error all

/-- As long as the limit has not been reached, it only cuts the list of errors. -/
theorem gather_limit {limit : Nat} {errors : List SyntaxError} (room : errors.length < limit)
    (found : List (Except SyntaxError Node)) :
    gather limit found errors = (gather 0 found errors).mapError (List.take limit) := by
  induction found generalizing errors with
  | nil =>
    cases errors with
    | nil => rfl
    | cons fault errors =>
      have all : (fault :: errors).reverse.take limit = (fault :: errors).reverse :=
        List.take_of_length_le (by rw [List.length_reverse]; exact Nat.le_of_lt room)
      exact congrArg Except.error all.symm
  | cons head found ih =>
    cases head with
    | ok node =>
      rw [gather, gather, ih room]
      cases gather 0 found errors <;> rfl
    | error fault =>
      have goes : gather 0 (.error fault :: found) errors = gather 0 found (fault :: errors) :=
        if_neg (by simp)
      rw [goes]
      by_cases reached : limit ≤ errors.length + 1
      · -- The error that reaches the limit is the last one that is kept.
        have size : (fault :: errors).reverse.length = limit := by
          rw [List.length_reverse, List.length_cons]
          omega
        have stops : gather limit (.error fault :: found) errors =
            .error (fault :: errors).reverse := if_pos ⟨by omega, reached⟩
        rw [stops, gather_of_ne_nil (List.cons_ne_nil fault errors), Except.mapError,
          List.take_left' size]
      · have goes : gather limit (.error fault :: found) errors =
            gather limit found (fault :: errors) := if_neg (by omega)
        rw [goes, ih (by rw [List.length_cons]; omega)]

theorem Cursor.parse_limit (cursor : Cursor) {limit : Nat} (limited : 0 < limit) :
    cursor.parse limit = (cursor.parse 0).mapError (List.take limit) :=
  gather_limit limited _

/-- A limit on the number of errors only cuts their list: what can be read is read with every
limit, and otherwise the first errors are reported, up to as many as the limit allows. -/
theorem error_limit_truncates (code : String) {limit : Nat} (limited : 0 < limit) :
    (∀ nodes, parse code limit = .ok nodes ↔ parse code 0 = .ok nodes) ∧
      ∀ found, parse code 0 = .error found →
        parse code limit = .error (found.take (min limit found.length)) := by
  constructor
  · intro nodes
    rw [parse, parse, Cursor.parse_eq_ok_iff, Cursor.parse_eq_ok_iff]
  · intro found failed
    have cut : parse code limit = (parse code 0).mapError (List.take limit) :=
      (Cursor.ofString code).parse_limit limited
    have same : found.take limit = found.take (min limit found.length) :=
      List.take_eq_take_iff.mpr (by omega)
    rw [cut, failed, ← same]
    rfl

/-- Three errors, of which two are kept. -/
theorem error_limit_truncates_two :
    parse "pop\n]\nbind" 0 = .error [.unexpectedToken "binding name" "end of line" ⟨1, 3, 3, 1⟩,
        .unexpectedToken "a statement" "']'" ⟨2, 0, 4, 1⟩,
        .unexpectedToken "binding name" "end of input" ⟨3, 4, 10, 0⟩] ∧
      parse "pop\n]\nbind" 2 = .error [.unexpectedToken "binding name" "end of line" ⟨1, 3, 3, 1⟩,
        .unexpectedToken "a statement" "']'" ⟨2, 0, 4, 1⟩] := by
  have whole : parse "pop\n]\nbind" 0 =
      .error [.unexpectedToken "binding name" "end of line" ⟨1, 3, 3, 1⟩,
        .unexpectedToken "a statement" "']'" ⟨2, 0, 4, 1⟩,
        .unexpectedToken "binding name" "end of input" ⟨3, 4, 10, 0⟩] := by decide +kernel
  exact ⟨whole, (error_limit_truncates "pop\n]\nbind" (by decide)).2 _ whole⟩

/-! ## Source lines -/

/-- The lines of a text, each with the new line that ends it. -/
def sourceLines : List Char → List (List Char)
  | [] => []
  | c :: rest =>
    if c = '\n' then [c] :: sourceLines rest
    else
      match sourceLines rest with
      | [] => [[c]]
      | line :: lines => (c :: line) :: lines

theorem sourceLines_newLine {own : List Char} (along : '\n' ∉ own) (tail : List Char) :
    sourceLines (own ++ '\n' :: tail) = (own ++ ['\n']) :: sourceLines tail := by
  induction own with
  | nil => rfl
  | cons c own ih =>
    rw [List.mem_cons, not_or] at along
    rw [List.cons_append, sourceLines, if_neg (Ne.symm along.1), ih along.2]
    rfl

theorem sourceLines_of_notMem {c : Char} {own : List Char} (along : '\n' ∉ c :: own) :
    sourceLines (c :: own) = [c :: own] := by
  induction own generalizing c with
  | nil =>
    rw [List.mem_cons, not_or] at along
    exact if_neg (Ne.symm along.1)
  | cons d own ih =>
    rw [List.mem_cons, not_or] at along
    rw [sourceLines, if_neg (Ne.symm along.1), ih along.2]

/-! ## Lexemes of a source line -/

/-- A malformed string in front of a new line.  Behind a wrong escape the lexer goes on along the
line; a string that is open at the end of the line takes the new line with it. -/
theorem StringScan.scan_newLine {inner : List Char} (along : '\n' ∉ inner)
    (unclosed : ∀ text bytes rest, scan inner ≠ .closed text bytes rest) :
    (∃ front rest sequence bytes, inner = front ++ rest ∧
        ∀ tail, scan (inner ++ '\n' :: tail) = .badEscape sequence bytes (rest ++ '\n' :: tail)) ∨
      (∀ tail, scan (inner ++ '\n' :: tail) = .unterminated tail) ∨
      ∃ sequence bytes, ∀ tail, scan (inner ++ '\n' :: tail) = .badEscape sequence bytes tail := by
  obtain ⟨own, text, rest, rfl, inside, halts⟩ := Inside.exists_halts inner
  have found (tail : List Char) : scan (own ++ rest ++ '\n' :: tail) =
      (scan (rest ++ '\n' :: tail)).prepend text (Text.Utf8.width own) := by
    rw [List.append_assoc, inside.scan_append]
  cases halts with
  | ended =>
    refine .inr (.inl fun tail => ?_)
    rw [found, List.nil_append, scan.eq_def]
    rfl
  | newLine => exact absurd (by simp) along
  | quote rest =>
    have closed : scan ('"' :: rest) = .closed [] 1 rest := by
      rw [scan.eq_def]
      rfl
    rw [inside.scan_append, closed] at unclosed
    exact absurd rfl (unclosed _ _ _)
  | lone =>
    refine .inr (.inr ⟨['\\', '\n'], Text.Utf8.width own + 2, fun tail => ?_⟩)
    rw [found]
    exact congrArg (prepend _ _) (scan_unknown (by decide) tail)
  | @unknown letter unknown rest =>
    refine .inl ⟨own ++ ['\\', letter], rest, ['\\', letter],
      Text.Utf8.width own + (1 + letter.utf8Size), by simp, fun tail => ?_⟩
    rw [found]
    exact congrArg (prepend _ _) (scan_unknown unknown _)

/-- No number is malformed as a string. -/
theorem Cursor.readNumber_whole {cursor : Cursor} {sign input : List Char} {fault : SyntaxError}
    (error : (cursor.readNumber sign input).1 = .error fault) :
    fault.isMalformedString = false := by
  unfold readNumber at error
  split at error
  · unfold readBytes at error
    dsimp only at error
    split at error <;> cases error
    rfl
  · dsimp only at error
    split at error <;> cases error
    rfl

/-- What is malformed begins with a quote. -/
theorem Cursor.eq_quote_of_malformed {cursor : Cursor} {c : Char} {input : List Char}
    {fault : SyntaxError} (error : (cursor.readFrom c input).1 = .error fault)
    (malformed : fault.isMalformedString = true) : c = '"' := by
  have whole (fine : fault.isMalformedString = false) : c = '"' :=
    absurd (fine.symm.trans malformed) (by decide)
  unfold readFrom at error
  split at error
  · cases error
  split at error
  · cases error
  split at error
  · assumption
  split at error
  · split at error <;> cases error
    exact whole rfl
  split at error
  · split at error <;> cases error
    exact whole rfl
  split at error
  · exact whole (readNumber_whole error)
  split at error
  · exact whole (readNumber_whole error)
  split at error <;> cases error
  exact whole rfl

/-- A line ends with a new line or a semicolon. -/
theorem Spelled.mem_of_lineEnd {own text rest : List Char} {kind : Token.Kind}
    (spelled : Spelled own kind text rest) (ends : kind = .lineEnd) : '\n' ∈ own ∨ ';' ∈ own := by
  cases spelled with
  | lineBreak => exact .inl List.mem_cons_self
  | mark known =>
    have only : ∀ c ∈ marks, Token.Kind.ofMark? c = some .lineEnd → c = ';' :=
      forall_mem_of_all (by decide)
    rw [only _ (Token.Kind.mem_marks known) (ends ▸ known)]
    exact .inr List.mem_cons_self
  | @number _ _ _ _ pointed => cases pointed <;> cases ends
  | word =>
    unfold Token.Kind.ofWord at ends
    repeat' split at ends
    all_goals cases ends
  | _ => cases ends

/-- A text without new lines and semicolons. -/
def Unbroken (text : List Char) : Prop :=
  ∀ c ∈ text, c ≠ '\n' ∧ c ≠ ';'

theorem Unbroken.mono {text part : List Char} (unbroken : Unbroken text) (sub : part ⊆ text) :
    Unbroken part :=
  fun c member => unbroken c (sub member)

theorem Unbroken.notMem {text : List Char} (unbroken : Unbroken text) : '\n' ∉ text :=
  fun member => (unbroken _ member).1 rfl

/-- No token of an unbroken text ends its line. -/
theorem Place.kind_ne_lineEnd {place : Place} {text : List Char} (unbroken : Unbroken text)
    {token : Token} (read : (place.cursor text).next.1 = .ok token) : token.kind ≠ .lineEnd := by
  rcases place.cases_next text with skips | ⟨fault, error⟩ | ⟨chunk, rest, rfl, skips, spelled⟩
  · rw [Cursor.next_stop skips rfl] at read
    cases read
    exact Token.Kind.noConfusion
  · rw [error] at read
    cases read
  · rw [next_cursor skips spelled] at read
    cases read
    intro ends
    rcases spelled.mem_of_lineEnd ends with newLine | semicolon
    · exact (unbroken '\n' (by simp [Chunk.chars, newLine])).1 rfl
    · exact (unbroken ';' (by simp [Chunk.chars, semicolon])).2 rfl

/-- The lexemes of an unbroken text are one line. -/
theorem Place.lexemes_unbroken (place : Place) {text : List Char} (unbroken : Unbroken text) :
    ∃ front stop, (place.cursor text).lexemes = front ++ [.ok stop] ∧ stop.endsLine = true ∧
      ∀ lexeme ∈ front, Lexeme.endsLine lexeme = false := by
  induction length : text.length using Nat.strongRecOn generalizing place text with
  | ind size ih =>
    have behind := (place.cursor text).next_suffix
    have progress := (place.cursor text).next_progress
    have within : ∀ token, (place.cursor text).next.1 = .ok token → token.kind ≠ .lineEnd :=
      fun _ => kind_ne_lineEnd unbroken
    cases read : (place.cursor text).next with
    | mk lexeme after =>
      rw [read] at behind progress within
      by_cases stops : ∃ token, lexeme = .ok token ∧ token.kind = .stop
      · obtain ⟨token, rfl, stops⟩ := stops
        refine ⟨[], token, ?_, by simp [Token.endsLine, stops], by simp⟩
        rw [Cursor.lexemes_eq, read]
        simp [stops]
      · have goes : ∀ token, lexeme = .ok token → token.kind ≠ .stop :=
          fun token same stopped => stops ⟨token, same, stopped⟩
        have shorter : after.rest.length < size := by
          rcases progress with ⟨span, same⟩ | shorter
          · exact absurd rfl (goes _ same)
          · exact length ▸ shorter
        obtain ⟨front, stop, split, ends, going⟩ := ih _ shorter
          ⟨after.line, after.column, after.offset⟩ (unbroken.mono behind.subset) rfl
        refine ⟨lexeme :: front, stop, ?_, ends, ?_⟩
        · rw [Cursor.lexemes_of_next read goes]
          exact congrArg (lexeme :: ·) split
        · rw [List.forall_mem_cons]
          refine ⟨?_, going⟩
          cases lexeme with
          | error fault => rfl
          | ok token => simp [Lexeme.endsLine, Token.endsLine, goes token rfl, within token rfl]

/-! ## Source lines in front of others -/

/-- What a source line ends with: the end of a line, or a malformed string that takes it away. -/
inductive Lexeme.Closes : Lexeme → Prop
  | stop {token : Token} (ends : token.endsLine = true) : Closes (.ok token)
  | fault {fault : SyntaxError} (malformed : fault.isMalformedString = true) :
      Closes (.error fault)

theorem Lexeme.ne_stop {lexeme : Lexeme} (going : Lexeme.endsLine lexeme = false) :
    ∀ token, lexeme = .ok token → token.kind ≠ .stop := by
  rintro token rfl stops
  simp [endsLine, Token.endsLine, stops] at going

/-- A malformed string at the beginning of a source line, whatever stands behind the line. -/
theorem Place.next_malformed {place : Place} {own : List Char} (unbroken : Unbroken own)
    {fault : SyntaxError} (error : (place.cursor own).next.1 = .error fault)
    (malformed : fault.isMalformedString = true) :
    (∃ fault, ∃ after : Place, fault.isMalformedString = true ∧
        ∀ tail, (place.cursor (own ++ '\n' :: tail)).next = (.error fault, after.cursor tail)) ∨
      ∃ front rest fault, ∃ after : Place, own = front ++ rest ∧ front ≠ [] ∧
        ∀ tail, (place.cursor (own ++ '\n' :: tail)).next =
          (.error fault, after.cursor (rest ++ '\n' :: tail)) := by
  obtain ⟨gap, behind, rfl, skips⟩ := Skips.exists_split false own
  cases behind with
  | nil =>
    rw [List.append_nil, Cursor.next_stop skips rfl] at error
    cases error
  | cons c inner =>
    rw [Cursor.next_readFrom skips rfl] at error
    obtain rfl := Cursor.eq_quote_of_malformed error malformed
    let start : Place := ⟨place.line, place.column + gap.length, place.offset + Text.Utf8.width gap⟩
    have read (tail : List Char) : (place.cursor (gap ++ '"' :: inner ++ '\n' :: tail)).next =
        (start.cursor ('"' :: (inner ++ '\n' :: tail))).readString (inner ++ '\n' :: tail) := by
      have along : Skips false gap ('"' :: (inner ++ '\n' :: tail)) :=
        skips.continued (Continues.newLine ('"' :: inner) tail)
      rw [Cursor.next_readFrom along (List.append_assoc ..)]
      rfl
    have unclosed : ∀ text bytes rest, StringScan.scan inner ≠ .closed text bytes rest := by
      intro text bytes rest closed
      have string : ((place.cursor (gap ++ '"' :: inner)).skip gap ('"' :: inner)).readFrom
        '"' inner = (start.cursor ('"' :: inner)).readString inner := rfl
      rw [string, Cursor.readString, closed] at error
      cases error
    have along : '\n' ∉ inner := fun member => unbroken.notMem (by simp [member])
    let escape (sequence : List Char) (bytes : Nat) : SyntaxError :=
      .invalidEscape (String.ofList sequence)
        ⟨start.line, start.column + (1 + bytes - 2), start.offset + (1 + bytes - 2), 2⟩
    rcases StringScan.scan_newLine along unclosed with
      ⟨front, rest, sequence, bytes, rfl, found⟩ | found | ⟨sequence, bytes, found⟩
    · refine .inr ⟨gap ++ '"' :: front, rest, escape sequence bytes, start, by simp, by simp, ?_⟩
      intro tail
      rw [read, Cursor.readString, found]
      rfl
    · refine .inl ⟨.unterminatedString ⟨start.line, start.column, start.offset, 1⟩, start, rfl, ?_⟩
      intro tail
      rw [read, Cursor.readString, found]
      rfl
    · refine .inl ⟨escape sequence bytes, start, rfl, fun tail => ?_⟩
      rw [read, Cursor.readString, found]
      rfl

/-- What the lexer makes of a source line does not depend on the lines behind it. -/
theorem Place.lexemes_sourceLine (place : Place) {own : List Char} (unbroken : Unbroken own) :
    ∃ front last, ∃ after : Place, (∀ lexeme ∈ front, Lexeme.endsLine lexeme = false) ∧
      Lexeme.Closes last ∧ ∀ tail, (place.cursor (own ++ '\n' :: tail)).lexemes =
        front ++ last :: (after.cursor tail).lexemes := by
  induction length : own.length using Nat.strongRecOn generalizing place own with
  | ind size ih =>
    -- A lexeme that leaves a shorter part of the source line stands in front of that part's.
    have further {taken rest : List Char} {lexeme : Lexeme} {next : Place}
        (split : own = taken ++ rest) (filled : taken ≠ [])
        (going : Lexeme.endsLine lexeme = false)
        (read : ∀ tail, (place.cursor (own ++ '\n' :: tail)).next =
          (lexeme, next.cursor (rest ++ '\n' :: tail))) :
        ∃ front last, ∃ after : Place, (∀ lexeme ∈ front, Lexeme.endsLine lexeme = false) ∧
          Lexeme.Closes last ∧ ∀ tail, (place.cursor (own ++ '\n' :: tail)).lexemes =
            front ++ last :: (after.cursor tail).lexemes := by
      have shorter : rest.length < size := by
        have := List.length_pos_of_ne_nil filled
        rw [← length, split, List.length_append]
        omega
      have within : Unbroken rest := unbroken.mono (by simp [split])
      obtain ⟨front, last, after, goes, breaks, lexemes⟩ := ih _ shorter next within rfl
      refine ⟨lexeme :: front, last, after, List.forall_mem_cons.mpr ⟨going, goes⟩, breaks, ?_⟩
      intro tail
      rw [Cursor.lexemes_of_next (read tail) (Lexeme.ne_stop going), lexemes]
      rfl
    rcases place.cases_takes own with
      skips | ⟨fault, error, malformed⟩ | ⟨taken, rest, lexeme, after, rfl, takes⟩
    · let chunk := Chunk.lineBreak own
      refine ⟨[], .ok (place.token chunk), place.after chunk, by simp, .stop rfl, fun tail => ?_⟩
      have takes : place.Takes chunk.chars tail (.ok (place.token chunk)) (place.after chunk) :=
        takes_chunk (skips.before_newLine tail) (.lineBreak tail) place
      have chars : own ++ '\n' :: tail = chunk.chars ++ tail := by
        simp [chunk, Chunk.lineBreak, Chunk.chars]
      rw [chars, takes.lexemes_eq (.refl tail)]
      rfl
    · rcases place.next_malformed unbroken error malformed with
        ⟨found, after, torn, read⟩ | ⟨front, rest, found, after, split, filled, read⟩
      · refine ⟨[], .error found, after, by simp, .fault torn, fun tail => ?_⟩
        exact Cursor.lexemes_of_next (read tail) (Lexeme.ne_stop rfl)
      · exact further split filled rfl read
    · have going : Lexeme.endsLine lexeme = false := by
        cases lexeme with
        | error fault => rfl
        | ok token =>
          have read := congrArg Prod.fst (takes.next (.refl rest))
          simp [Lexeme.endsLine, Token.endsLine, takes.kind_ne_stop, kind_ne_lineEnd unbroken read]
      exact further rfl takes.nonempty going fun tail => by
        rw [List.append_assoc]
        exact takes.next (.newLine rest tail)

/-! ## Errors of a source line -/

/-- The errors in front of the first token. -/
def leadingFaults : List Lexeme → List SyntaxError
  | .error fault :: rest => fault :: leadingFaults rest
  | _ => []

theorem leadingFaults_append (front : List Lexeme) {ending : List Lexeme}
    (ends : ∀ lexeme ∈ ending, Lexeme.endsLine lexeme = true) :
    leadingFaults (front ++ ending) = leadingFaults front := by
  induction front with
  | nil =>
    cases ending with
    | nil => rfl
    | cons lexeme ending =>
      cases lexeme with
      | error fault => cases ends _ List.mem_cons_self
      | ok => rfl
  | cons lexeme front ih =>
    cases lexeme with
    | error fault => exact congrArg (fault :: ·) ih
    | ok => rfl

/-- The errors from some lexemes on.  The flag tells whether the rest of the first line is left
out. -/
def errorsFrom (skipping : Bool) (lexemes : List Lexeme) : List SyntaxError :=
  (if skipping then (splitLines lexemes).tail.flatMap readLine
    else results lexemes).filterMap Node.fault?

theorem errorsFrom_nil (skipping : Bool) : errorsFrom skipping [] = [] := by
  cases skipping <;> rfl

/-- At the end of a line reading goes on. -/
theorem errorsFrom_stop {token : Token} (ends : token.endsLine = true) (skipping : Bool)
    (rest : List Lexeme) : errorsFrom skipping (.ok token :: rest) = errorsFrom false rest := by
  have ended : Lexeme.endsLine (.ok token) = true := ends
  have split := splitLines_cons_of_endsLine ended rest
  cases skipping with
  | true => simp [errorsFrom, split, results]
  | false => simp [errorsFrom, split, results, readLine, ends]

/-- Ends of lines report nothing. -/
theorem errorsFrom_ends {ending : List Lexeme}
    (ends : ∀ lexeme ∈ ending, Lexeme.endsLine lexeme = true) (skipping : Bool) :
    errorsFrom skipping ending = [] := by
  induction ending generalizing skipping with
  | nil => exact errorsFrom_nil skipping
  | cons lexeme ending ih =>
    rw [List.forall_mem_cons] at ends
    cases lexeme with
    | error fault => cases ends.1
    | ok token => rw [errorsFrom_stop ends.1, ih ends.2]

/-- What stands behind the end of a line is read as it is alone. -/
theorem errorsFrom_append {stop : Token} (ends : stop.endsLine = true) (front rest : List Lexeme) :
    errorsFrom false (front ++ .ok stop :: rest) =
      errorsFrom false (front ++ [.ok stop]) ++ errorsFrom false rest := by
  simp only [errorsFrom, Bool.false_eq_true, if_false, results_append ends front rest,
    List.filterMap_append]

/-- An error in front of the first token is reported, and reading goes on behind it. -/
theorem errorsFrom_fault (fault : SyntaxError) (rest : List Lexeme) :
    errorsFrom false (.error fault :: rest) = fault :: errorsFrom false rest := by
  have goes : Lexeme.endsLine (.error fault) = false := rfl
  have split := splitLines_cons_going goes rest
  simp only [errorsFrom, results, split]
  cases splitLines rest <;> rfl

/-- What begins with a token is reported at most once, and the rest of its line is left out. -/
theorem errorsFrom_token {token : Token} (goes : token.endsLine = false) (rest : List Lexeme) :
    ∃ more : Option SyntaxError,
      errorsFrom false (.ok token :: rest) = more.toList ++ errorsFrom true rest := by
  have going : Lexeme.endsLine (.ok token) = false := goes
  have split := splitLines_cons_going going rest
  let found := (Reading.statement.run ⟨token, {}, (splitLines rest).headD []⟩).1
  have read : readLine (.ok token :: (splitLines rest).headD []) = [found] := by
    rw [readLine, if_neg (by simp [goes])]
  refine ⟨Node.fault? found, ?_⟩
  simp only [errorsFrom, results, split, List.flatMap_cons, read]
  cases found <;> rfl

/-- Nothing is reported up to the end of a line that is left out. -/
theorem errorsFrom_skip {lexeme : Lexeme} (goes : Lexeme.endsLine lexeme = false)
    (rest : List Lexeme) : errorsFrom true (lexeme :: rest) = errorsFrom true rest := by
  simp only [errorsFrom, splitLines_cons_going goes]
  rfl

section

variable {front : List Lexeme} {last : Lexeme}

/-- Nothing is reported while a line is left out, and only a malformed string carries that on. -/
theorem errorsFrom_left_out (going : ∀ lexeme ∈ front, Lexeme.endsLine lexeme = false)
    (closes : Lexeme.Closes last) (rest : List Lexeme) :
    ∃ skips, (skips = true → Lexeme.isMalformedString last = true) ∧
      errorsFrom true (front ++ last :: rest) = errorsFrom skips rest := by
  induction front with
  | nil =>
    cases closes with
    | stop ends => exact ⟨false, by simp, errorsFrom_stop ends true rest⟩
    | fault malformed => exact ⟨true, fun _ => malformed, errorsFrom_skip rfl rest⟩
  | cons lexeme front ih =>
    rw [List.forall_mem_cons] at going
    rw [List.cons_append, errorsFrom_skip going.1]
    exact ih going.2

/-- What is in front of the first token of a line is reported one by one, and then at most one
error more. -/
theorem errorsFrom_read (going : ∀ lexeme ∈ front, Lexeme.endsLine lexeme = false)
    (closes : Lexeme.Closes last) (rest : List Lexeme) :
    ∃ (more : Option SyntaxError) (skips : Bool),
      (skips = true → Lexeme.isMalformedString last = true) ∧
      errorsFrom false (front ++ last :: rest) =
        leadingFaults (front ++ [last]) ++ more.toList ++ errorsFrom skips rest := by
  induction front with
  | nil =>
    cases closes with
    | stop ends => exact ⟨none, false, by simp, errorsFrom_stop ends false rest⟩
    | fault => exact ⟨none, false, by simp, errorsFrom_fault _ rest⟩
  | cons lexeme front ih =>
    rw [List.forall_mem_cons] at going
    cases lexeme with
    | error fault =>
      obtain ⟨more, skips, torn, found⟩ := ih going.2
      exact ⟨more, skips, torn, (errorsFrom_fault ..).trans (congrArg (fault :: ·) found)⟩
    | ok token =>
      obtain ⟨more, found⟩ := errorsFrom_token going.1 (front ++ last :: rest)
      obtain ⟨skips, torn, behind⟩ := errorsFrom_left_out going.2 closes rest
      exact ⟨more, skips, torn, found.trans (congrArg (more.toList ++ ·) behind)⟩

end

/-- What a source line adds to the errors of a text: the errors in front of its first token, and at
most one more.  That is what it reports alone, unless it has a malformed string.  In a torn text,
where a malformed string may carry a failed statement on into the next line, it may also be left
out. -/
inductive LineErrors (torn : Prop) (line : List Char) : List SyntaxError → Prop
  | leftOut (tears : torn) : LineErrors torn line []
  | read (place : Place) (more : Option SyntaxError)
      (alone : (∀ lexeme ∈ (place.cursor line).lexemes, Lexeme.isMalformedString lexeme = false) →
        (place.cursor line).errors =
          leadingFaults (place.cursor line).lexemes ++ more.toList) :
      LineErrors torn line (leadingFaults (place.cursor line).lexemes ++ more.toList)

/-- The errors of a source line whose lexemes are known. -/
theorem LineErrors.exists_part {torn : Prop} {line : List Char} {place : Place}
    {front ending : List Lexeme} {last : Lexeme}
    (lexemes : (place.cursor line).lexemes = front ++ last :: ending)
    (ends : ∀ lexeme ∈ ending, Lexeme.endsLine lexeme = true)
    (going : ∀ lexeme ∈ front, Lexeme.endsLine lexeme = false) (closes : Lexeme.Closes last)
    (tears : Lexeme.isMalformedString last = true → torn) {skipping : Bool}
    (skipped : skipping = true → torn) (rest : List Lexeme) :
    ∃ (part : List SyntaxError) (skips : Bool), LineErrors torn line part ∧
      (skips = true → torn) ∧
      errorsFrom skipping (front ++ last :: rest) = part ++ errorsFrom skips rest := by
  have leading : leadingFaults (place.cursor line).lexemes = leadingFaults (front ++ [last]) := by
    rw [lexemes, List.append_cons, leadingFaults_append _ ends]
  cases skipping with
  | true =>
    obtain ⟨skips, malformed, found⟩ := errorsFrom_left_out going closes rest
    exact ⟨[], skips, .leftOut (skipped rfl), tears ∘ malformed, found⟩
  | false =>
    cases closes with
    | @stop token stops =>
      obtain ⟨more, skips, -, found⟩ := errorsFrom_read going (.stop stops) []
      rw [errorsFrom_nil, List.append_nil, ← leading] at found
      refine ⟨_, false, .read place more fun _ => ?_, by simp, ?_⟩
      · calc (place.cursor line).errors
            = errorsFrom false (front ++ .ok token :: ending) := by
              rw [Cursor.errors_eq, lexemes]
              rfl
          _ = leadingFaults (place.cursor line).lexemes ++ more.toList := by
              rw [errorsFrom_append stops, errorsFrom_ends ends, List.append_nil, found]
      · rw [errorsFrom_append stops, found]
    | fault malformed =>
      obtain ⟨more, skips, torn, found⟩ := errorsFrom_read going (.fault malformed) rest
      rw [← leading] at found
      refine ⟨_, skips, .read place more fun whole => ?_, tears ∘ torn, found⟩
      have fine := whole _ (by rw [lexemes]; exact List.mem_append_right _ List.mem_cons_self)
      exact absurd (fine.symm.trans malformed) (by decide)

/-- The errors of a text are those of its source lines. -/
theorem Place.errors_sourceLines {torn : Prop} (place : Place) {text : List Char}
    (plain : ';' ∉ text)
    (tears : ∀ lexeme ∈ (place.cursor text).lexemes, Lexeme.isMalformedString lexeme = true → torn)
    {skipping : Bool} (skipped : skipping = true → torn) :
    ∃ parts, errorsFrom skipping (place.cursor text).lexemes = parts.flatten ∧
      List.Forall₂ (LineErrors torn) (sourceLines text) parts := by
  induction length : text.length using Nat.strongRecOn generalizing place text skipping with
  | ind size ih =>
    have unbroken {part : List Char} (sub : part ⊆ text) (along : '\n' ∉ part) : Unbroken part :=
      fun c member => ⟨by rintro rfl; exact along member, by rintro rfl; exact plain (sub member)⟩
    by_cases broken : '\n' ∈ text
    · obtain ⟨own, tail, rfl, along⟩ := List.eq_append_cons_of_mem broken
      obtain ⟨front, last, after, going, closes, lexemes⟩ :=
        place.lexemes_sourceLine (unbroken (by simp) along)
      have alone := lexemes []
      rw [lexemes_gap (.done (by simp))] at alone
      rw [lexemes tail] at tears
      obtain ⟨part, skips, errors, torn, found⟩ := LineErrors.exists_part alone
        (by simp [Lexeme.endsLine, Token.endsLine]) going closes (tears last (by simp)) skipped
        (after.cursor tail).lexemes
      have shorter : tail.length < size := by
        rw [← length, List.length_append, List.length_cons]
        omega
      obtain ⟨parts, rest, each⟩ := ih _ shorter after (fun member => plain (by simp [member]))
        (fun lexeme member => tears lexeme (by simp [member])) torn rfl
      refine ⟨part :: parts, ?_, ?_⟩
      · rw [lexemes, found, rest, List.flatten_cons]
      · rw [sourceLines_newLine along]
        exact .cons errors each
    · obtain ⟨front, stop, lexemes, ends, going⟩ :=
        place.lexemes_unbroken (unbroken (List.Subset.refl _) broken)
      obtain ⟨part, skips, errors, -, found⟩ := LineErrors.exists_part lexemes (by simp) going
        (.stop ends) (by simp [Lexeme.isMalformedString]) skipped []
      rw [errorsFrom_nil, List.append_nil] at found
      cases text with
      | nil =>
        rw [lexemes_gap (.done (by simp)), errorsFrom_stop rfl, errorsFrom_nil]
        exact ⟨[], rfl, .nil⟩
      | cons c own =>
        refine ⟨[part], ?_, ?_⟩
        · rw [lexemes, found, List.flatten_singleton]
        · rw [sourceLines_of_notMem broken]
          exact .cons errors .nil

/-- Whether the lexer refuses what stands first in a line. -/
def BeginsWithFault (line : List Char) : Prop :=
  ∃ fault, (Cursor.ofString (String.ofList line)).next.1 = .error fault

/-- Whether a text begins with an error does not depend on where it stands. -/
theorem Place.beginsWithFault {place : Place} {line : List Char} {fault : SyntaxError}
    (error : (place.cursor line).next.1 = .error fault) : BeginsWithFault line := by
  have start : Cursor.ofString (String.ofList line) = (⟨1, 0, 0⟩ : Place).cursor line := by
    rw [Cursor.ofString, Cursor.startingAt, String.toList_ofList]
    rfl
  rw [BeginsWithFault, start]
  rcases (⟨1, 0, 0⟩ : Place).cases_next line with
    skips | found | ⟨chunk, rest, rfl, skips, spelled⟩
  · rw [Cursor.next_stop skips rfl] at error
    cases error
  · exact found
  · rw [next_cursor skips spelled] at error
    cases error

theorem LineErrors.length_le {torn : Prop} {line : List Char} {part : List SyntaxError}
    (errors : LineErrors torn line part) : BeginsWithFault line ∨ part.length ≤ 1 := by
  cases errors with
  | leftOut => exact .inr (Nat.zero_le 1)
  | read place more =>
    rw [Cursor.lexemes_eq]
    cases read : (place.cursor line).next with
    | mk lexeme after =>
      cases lexeme with
      | error fault => exact .inl (Place.beginsWithFault (congrArg Prod.fst read))
      | ok token =>
        apply Or.inr
        dsimp only
        split <;> cases more <;> simp [leadingFaults]

/-- Without semicolons the errors of a text are those of its source lines, and each line reports the
errors in front of its first token and at most one more.  So a line reports at most one error,
unless it begins with something that the lexer refuses.  No line is left out, unless the text has a
malformed string. -/
theorem one_error_behind_first_token (code : String) (plain : ';' ∉ code.toList) :
    ∃ parts, (Cursor.ofString code).errors = parts.flatten ∧
      List.Forall₂ (LineErrors (∃ lexeme ∈ (Cursor.ofString code).lexemes,
        Lexeme.isMalformedString lexeme = true)) (sourceLines code.toList) parts ∧
      List.Forall₂ (fun line part => BeginsWithFault line ∨ part.length ≤ 1)
        (sourceLines code.toList) parts := by
  let torn := ∃ lexeme ∈ (Cursor.ofString code).lexemes, Lexeme.isMalformedString lexeme = true
  have tears : ∀ lexeme ∈ (Cursor.ofString code).lexemes,
      Lexeme.isMalformedString lexeme = true → torn :=
    fun lexeme member malformed => ⟨lexeme, member, malformed⟩
  have whole : false = true → torn := by simp
  obtain ⟨parts, found, each⟩ := Place.errors_sourceLines ⟨1, 0, 0⟩ plain tears whole
  refine ⟨parts, ?_, each, each.imp fun _ _ => LineErrors.length_le⟩
  rw [Cursor.errors_eq, ← found]
  rfl

/-- A line with two errors behind one whose second fault is not reported. -/
theorem one_error_behind_first_token_twice :
    ';' ∉ "push x @ @\n@ bogus\n".toList ∧
      (Cursor.ofString "push x @ @\n@ bogus\n").errors.length = 3 ∧
      ∃ parts, (Cursor.ofString "push x @ @\n@ bogus\n").errors = parts.flatten ∧
        List.Forall₂ (LineErrors (∃ lexeme ∈ (Cursor.ofString "push x @ @\n@ bogus\n").lexemes,
          Lexeme.isMalformedString lexeme = true))
          (sourceLines "push x @ @\n@ bogus\n".toList) parts ∧
        List.Forall₂ (fun line part => BeginsWithFault line ∨ part.length ≤ 1)
          (sourceLines "push x @ @\n@ bogus\n".toList) parts := by
  have plain : ';' ∉ "push x @ @\n@ bogus\n".toList := by decide +kernel
  have three : (Cursor.ofString "push x @ @\n@ bogus\n").errors.length = 3 := by decide +kernel
  exact ⟨plain, three, one_error_behind_first_token "push x @ @\n@ bogus\n" plain⟩

/-- One line that is reported twice. -/
theorem stray_characters_reported_apart :
    sourceLines "@ @".toList = ["@ @".toList] ∧
      (Cursor.ofString "@ @").errors =
        [.unexpectedChar '@' ⟨1, 0, 0, 1⟩, .unexpectedChar '@' ⟨1, 2, 2, 1⟩] := by
  decide +kernel

end Custody
