import Custody.Proofs.Passes

/-!
# Reading comes to an end

However malformed a text is, reading it comes to an end.  A call for the next lexeme takes
characters until only blanks and comments are left, and whether it finds a token or an error makes
no difference.  So the calls reach the end of the source, and recovery an end of a line.  The
passes over the lexemes begin where a line or the source ends, and each of them takes some.
-/

namespace Custody

/-- Whether a lexeme is the end of the source. -/
def Lexeme.isStop : Lexeme → Bool
  | .ok token => token.kind = .stop
  | .error _ => false

theorem Lexeme.isStop_of_going {lexeme : Lexeme} (going : Lexeme.endsLine lexeme = false) :
    Lexeme.isStop lexeme = false := by
  cases lexeme with
  | error fault => rfl
  | ok token =>
    have goes : token.endsLine = false := going
    simp only [Token.endsLine, decide_eq_false_iff_not, not_or] at goes
    exact decide_eq_false goes.2

namespace Cursor

/-! ## Calls -/

/-- Where a number of calls for the next lexeme lead. -/
def after (cursor : Cursor) : Nat → Cursor
  | 0 => cursor
  | count + 1 => cursor.next.2.after count

/-- What the call behind a number of others finds. -/
def call (cursor : Cursor) (count : Nat) : Lexeme :=
  (cursor.after count).next.1

/-- The first call, of those counted, to find a lexeme of some sort. -/
structure FirstCall (cursor : Cursor) (sort : Lexeme → Bool) (count : Nat) : Prop where
  finds : sort (cursor.call count) = true
  before : ∀ earlier < count, sort (cursor.call earlier) = false

section

variable {cursor : Cursor} {sort : Lexeme → Bool} {count : Nat}

theorem FirstCall.succ (other : sort cursor.next.1 = false)
    (first : cursor.next.2.FirstCall sort count) : cursor.FirstCall sort (count + 1) where
  finds := first.finds
  before earlier less := by
    cases earlier with
    | zero => exact other
    | succ earlier => exact first.before earlier (Nat.lt_of_succ_lt_succ less)

theorem FirstCall.next (first : cursor.FirstCall sort (count + 1)) :
    sort cursor.next.1 = false ∧ cursor.next.2.FirstCall sort count :=
  ⟨first.before 0 (Nat.succ_pos count), first.finds,
    fun earlier less => first.before (earlier + 1) (Nat.succ_lt_succ less)⟩

end

/-- Calls find any sort of lexeme that the end of the source is of, and need no more of them than
there are characters. -/
theorem exists_firstCall (sort : Lexeme → Bool)
    (stop : ∀ span, sort (.ok ⟨.stop, span, ""⟩) = true) (cursor : Cursor) :
    ∃ count ≤ cursor.rest.length, cursor.FirstCall sort count := by
  induction size : cursor.rest.length using Nat.strongRecOn generalizing cursor with
  | ind size ih =>
    cases found : sort cursor.next.1 with
    | true => exact ⟨0, Nat.zero_le _, found, fun _ less => absurd less (Nat.not_lt_zero _)⟩
    | false =>
      rcases cursor.next_progress with ⟨span, ended⟩ | shorter
      · rw [ended, stop span] at found
        cases found
      · obtain ⟨count, few, first⟩ := ih _ (size ▸ shorter) cursor.next.2 rfl
        exact ⟨count + 1, by omega, first.succ found⟩

theorem exists_lexemes_cons (cursor : Cursor) :
    ∃ rest, cursor.lexemes = cursor.next.1 :: rest := by
  rw [lexemes_eq]
  cases cursor.next with
  | mk lexeme after =>
    cases lexeme with
    | error fault => exact ⟨_, rfl⟩
    | ok token =>
      by_cases stops : token.kind = .stop
      · exact ⟨[], if_pos stops⟩
      · exact ⟨after.lexemes, if_neg stops⟩

theorem lexemes_of_not_isStop {cursor : Cursor} (going : Lexeme.isStop cursor.next.1 = false) :
    cursor.lexemes = cursor.next.1 :: cursor.next.2.lexemes := by
  have read : cursor.next = (cursor.next.1, cursor.next.2) := rfl
  apply lexemes_of_next read
  intro token found stops
  simp [found, Lexeme.isStop, stops] at going

/-- The lexemes of a text are what the calls find, through the first end of the source. -/
theorem lexemes_eq_calls {cursor : Cursor} {count : Nat}
    (first : cursor.FirstCall Lexeme.isStop count) :
    cursor.lexemes = (List.range (count + 1)).map cursor.call := by
  induction count generalizing cursor with
  | zero =>
    have stops : Lexeme.isStop cursor.next.1 = true := first.finds
    have sourced := cursor.lexemes_sourced
    obtain ⟨rest, split⟩ := cursor.exists_lexemes_cons
    rw [split] at sourced ⊢
    cases found : cursor.next.1 with
    | error fault =>
      rw [found] at stops
      cases stops
    | ok token =>
      rw [found] at stops sourced
      rw [sourced.rest_nil (of_decide_eq_true stops), ← found]
      rfl
  | succ count ih =>
    obtain ⟨going, later⟩ := first.next
    have shifted : (List.range (count + 2)).map cursor.call =
        cursor.call 0 :: (List.range (count + 1)).map cursor.next.2.call := by
      rw [List.range_succ_eq_map, List.map_cons, List.map_map]
      rfl
    rw [lexemes_of_not_isStop going, ih later, shifted]
    rfl

theorem call_eq_skipLine {cursor : Cursor} {count : Nat}
    (first : cursor.FirstCall Lexeme.endsLine count) (current : Token) (last : Span) :
    cursor.call count = .ok (Line.skipLine current last cursor.lexemes).current := by
  induction count generalizing cursor with
  | zero =>
    have ends : Lexeme.endsLine cursor.next.1 = true := first.finds
    obtain ⟨rest, split⟩ := cursor.exists_lexemes_cons
    rw [split]
    change cursor.next.1 = _
    cases found : cursor.next.1 with
    | error fault =>
      rw [found] at ends
      cases ends
    | ok token =>
      rw [found] at ends
      have ended : token.endsLine = true := ends
      rw [Line.skipLine, if_pos ended]
  | succ count ih =>
    obtain ⟨going, later⟩ := first.next
    rw [lexemes_of_not_isStop (Lexeme.isStop_of_going going), Line.skipLine_cons going, ← ih later]
    rfl

end Cursor

/-! ## Progress -/

/-- What lets the reading of a text come to an end. -/
structure Progress (code : String) (line offset : Nat) : Prop where
  /-- A call takes characters, unless it finds the end of the source and only blanks and comments
  are left. -/
  next : ∀ cursor : Cursor,
    (∃ own, own ≠ [] ∧ cursor.rest = own ++ cursor.next.2.rest) ∨
      (∃ span, cursor.next.1 = .ok ⟨.stop, span, ""⟩) ∧ Skips false cursor.rest []
  /-- The tokens of a text are found by the calls through the first end of the source. -/
  tokens : ∃ count ≤ code.length, (Cursor.ofString code).FirstCall Lexeme.isStop count ∧
    tokenize code = ((List.range (count + 1)).map (Cursor.ofString code).call).mapM id
  /-- Recovery from anywhere makes calls through the first that finds an end of a line. -/
  recovery : ∀ (cursor : Cursor) (current : Token) (last : Span), current.endsLine = false →
    ∃ count ≤ cursor.rest.length, cursor.FirstCall Lexeme.endsLine count ∧
      cursor.call count = .ok (Line.recover ⟨current, last, cursor.lexemes⟩).current
  /-- A statement that fails is given up at a token it has reached, or past an error in the place of
  the next one. -/
  failure : ∀ (start line : Line) (fault : SyntaxError), start.Ended →
    Reading.statement.run start = (.error fault, line) → start.GivenUp line
  /-- Wherever a statement is given up, recovery ends at the same place. -/
  settled : ∀ start line : Line, start.Ended → start.GivenUp line →
    line.recover.current = start.recover.current ∧ line.recover.rest = start.recover.rest
  /-- The loops of a statement never reach their bounds. -/
  loops : ∀ line : Line, line.Ended → ∀ bound other, line.rest.length < bound →
    line.rest.length < other →
      (Reading.keys bound).run line = (Reading.keys other).run line ∧
      (Reading.captures bound).run line = (Reading.captures other).run line ∧
      (Reading.arms bound).run line = (Reading.arms other).run line
  /-- Every pass begins where a line or the source ends, and takes lexemes. -/
  passes : ∀ found state,
    (Line.start (Cursor.startingAt code line offset).lexemes).Passes found state →
      (state.current.kind = .lineEnd ∨ state.current.kind = .stop) ∧
      ∀ result after, state.pass = some (result, after) →
        after.rest.length < state.rest.length
  /-- The passes come to an end, and the stream is read by what they have found. -/
  ends : ∃ found final,
    (Line.start (Cursor.startingAt code line offset).lexemes).Passes found final ∧
      final.pass = none ∧ found.length ≤ (Cursor.startingAt code line offset).lexemes.length ∧
      ∀ limit, (Cursor.startingAt code line offset).parse limit = gather limit found []

/-- Reading makes progress on every text, and so comes to an end. -/
theorem reading_progresses (code : String) (line offset : Nat) : Progress code line offset where
  next := Cursor.next_takes
  tokens := by
    obtain ⟨count, few, first⟩ :=
      Cursor.exists_firstCall Lexeme.isStop (fun _ => rfl) (Cursor.ofString code)
    exact ⟨count, few, first, by rw [tokenize, Cursor.lexemes_eq_calls first]⟩
  recovery cursor current last goes := by
    obtain ⟨count, few, first⟩ :=
      Cursor.exists_firstCall Lexeme.endsLine (fun _ => rfl) cursor
    refine ⟨count, few, first, ?_⟩
    rw [Line.recover, if_neg (by simp [goes])]
    exact Cursor.call_eq_skipLine first current last
  failure _ _ _ := Line.givenUp_of_statement
  settled _ _ := Line.recover_of_givenUp
  loops line ended bound other enough sufficient :=
    ⟨Reading.keys_run_eq ended enough sufficient, Reading.captures_run_eq ended enough sufficient,
      Reading.arms_run_eq ended enough sufficient⟩
  passes found state passes := by
    have between := Line.between_start (Cursor.startingAt code line offset)
    obtain ⟨here, -⟩ := passes.between between
    refine ⟨Token.kind_of_endsLine here.ends, ?_⟩
    intro result after read
    rcases Line.pass_cases here with ⟨none, -⟩ | ⟨_, _, some, -, shorter, -⟩
    · cases none.symm.trans read
    · cases some.symm.trans read
      exact shorter
  ends := by
    have between := Line.between_start (Cursor.startingAt code line offset)
    obtain ⟨final, passes, none⟩ := Line.exists_passes between
    obtain ⟨-, -, length⟩ := passes.between between
    exact ⟨_, final, passes, none, Nat.le_trans (Nat.le_add_left _ _) length, fun _ => rfl⟩

end Custody
