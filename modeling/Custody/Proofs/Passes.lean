import Custody.Proofs.Streams

/-!
# Passes over a stream

A stream can be read in passes, without splitting it into lines beforehand.  A pass moves on past
line ends and reads a statement off all that is ahead; after an error it recovers at the end of the
line.  Every pass begins where a line or the source ends, and takes lexemes.  So the passes come to
an end, and what they find is what the lines hold.
-/

namespace Custody

namespace Line

/-! ## A pass -/

/-- Move on past line ends.  An error that stands among them is reported, and what is behind it is
left. -/
def skipLineEnds (current : Token) (last : Span) : List Lexeme → Option SyntaxError × Line
  | [] => (none, ⟨current, last, []⟩)
  | lexeme :: rest =>
    if current.kind = .lineEnd then
      match lexeme with
      | .ok token => skipLineEnds token current.span rest
      | .error fault => (some fault, ⟨current, current.span, rest⟩)
    else (none, ⟨current, last, lexeme :: rest⟩)

/-- Leave out lexemes, errors among them, through the first that ends a line. -/
def skipLine (current : Token) (last : Span) : List Lexeme → Line
  | [] => ⟨current, last, []⟩
  | .ok token :: rest =>
    if token.endsLine then ⟨token, last, rest⟩ else skipLine current last rest
  | .error _ :: rest => skipLine current last rest

/-- Leave out what remains of a line, unless it has come to its end. -/
def recover (line : Line) : Line :=
  if line.current.endsLine then line else skipLine line.current line.last line.rest

/-- Read a statement off all that is ahead, and recover from where it is given up if it cannot be
read. -/
def attempt (line : Line) : Except SyntaxError Node × Line :=
  match Reading.statement.run line with
  | (.ok node, left) => (.ok node, left)
  | (.error fault, left) => (.error fault, left.recover)

/-- One pass over a stream.  There is none at the end of the source. -/
def pass (line : Line) : Option (Except SyntaxError Node × Line) :=
  match skipLineEnds line.current line.last line.rest with
  | (some fault, after) => some (.error fault, after.recover)
  | (none, after) => if after.current.kind = .stop then none else some after.attempt

/-- Passes one after another, with what each of them finds. -/
inductive Passes : Line → List (Except SyntaxError Node) → Line → Prop
  | done (line : Line) : Passes line [] line
  | pass {line after final : Line} {found : Except SyntaxError Node}
      {more : List (Except SyntaxError Node)} (read : line.pass = some (found, after))
      (later : Passes after more final) : Passes line (found :: more) final

/-- The state in front of a stream, as if a line had just come to its end. -/
def start (lexemes : List Lexeme) : Line :=
  ⟨⟨.lineEnd, {}, ""⟩, {}, lexemes⟩

/-! ## Recovery -/

theorem exists_first_end {lexemes : List Lexeme}
    (ended : ∃ lexeme ∈ lexemes, Lexeme.endsLine lexeme = true) :
    ∃ front stop behind, lexemes = front ++ .ok stop :: behind ∧
      (∀ lexeme ∈ front, Lexeme.endsLine lexeme = false) ∧ stop.endsLine = true := by
  obtain ⟨lexeme, found⟩ := Option.isSome_iff_exists.mp (List.find?_isSome.mpr ended)
  obtain ⟨ends, front, behind, split, going⟩ := List.find?_eq_some_iff_append.mp found
  cases lexeme with
  | error fault => cases ends
  | ok stop => exact ⟨front, stop, behind, split, by simpa using going, ends⟩

theorem skipLine_cons {lexeme : Lexeme} (goes : Lexeme.endsLine lexeme = false) (current : Token)
    (last : Span) (rest : List Lexeme) :
    skipLine current last (lexeme :: rest) = skipLine current last rest := by
  cases lexeme with
  | error fault => rfl
  | ok token =>
    have goes : token.endsLine = false := goes
    rw [skipLine, goes, if_neg Bool.false_ne_true]

theorem skipLine_append {front : List Lexeme} {stop : Token}
    (going : ∀ lexeme ∈ front, Lexeme.endsLine lexeme = false) (ends : stop.endsLine = true)
    (current : Token) (last : Span) (behind : List Lexeme) :
    skipLine current last (front ++ .ok stop :: behind) = ⟨stop, last, behind⟩ := by
  induction front with
  | nil => exact if_pos ends
  | cons lexeme front ih =>
    rw [List.forall_mem_cons] at going
    rw [List.cons_append, skipLine_cons going.1]
    exact ih going.2

theorem recover_of_endsLine {line : Line} (ends : line.current.endsLine = true) :
    line.recover = line :=
  if_pos ends

/-- Recovery ends at the first end of a line, be it the current token or ahead of it. -/
theorem recover_split {line : Line} {front behind : List Lexeme} {stop : Token}
    (split : (.ok line.current :: line.rest : List Lexeme) = front ++ .ok stop :: behind)
    (going : ∀ lexeme ∈ front, Lexeme.endsLine lexeme = false) (ends : stop.endsLine = true) :
    line.recover.current = stop ∧ line.recover.rest = behind := by
  cases front with
  | nil =>
    obtain ⟨same, rest⟩ := List.cons.inj split
    obtain rfl : line.current = stop := Except.ok.inj same
    rw [recover_of_endsLine ends]
    exact ⟨rfl, rest⟩
  | cons lexeme front =>
    obtain ⟨rfl, rest⟩ := List.cons.inj split
    rw [List.forall_mem_cons] at going
    have goes : line.current.endsLine = false := going.1
    rw [recover, if_neg (by simp [goes]), rest, List.append_eq, skipLine_append going.2 ends]
    exact ⟨rfl, rfl⟩

/-- Two states with the same lexemes ahead, behind some that do not end the line, recover at the
same place. -/
theorem recover_eq_of_split {start line : Line} {passed own lexemes : List Lexeme}
    (ended : start.Ended) (whole : .ok start.current :: start.rest = passed ++ lexemes)
    (part : .ok line.current :: line.rest = own ++ lexemes)
    (before : ∀ lexeme ∈ passed, Lexeme.endsLine lexeme = false)
    (goes : ∀ lexeme ∈ own, Lexeme.endsLine lexeme = false) :
    line.recover.current = start.recover.current ∧ line.recover.rest = start.recover.rest := by
  have ahead : ∃ lexeme ∈ lexemes, Lexeme.endsLine lexeme = true := by
    obtain ⟨lexeme, member, ends⟩ := ended
    rw [whole] at member
    rcases List.mem_append.mp member with member | member
    · exact absurd (ends.symm.trans (before lexeme member)) (by decide)
    · exact ⟨lexeme, member, ends⟩
  obtain ⟨front, stop, behind, rfl, going, ends⟩ := exists_first_end ahead
  rw [← List.append_assoc] at whole part
  obtain ⟨current, rest⟩ := recover_split part (List.forall_mem_append.mpr ⟨goes, going⟩) ends
  obtain ⟨same, left⟩ := recover_split whole (List.forall_mem_append.mpr ⟨before, going⟩) ends
  exact ⟨current.trans same.symm, rest.trans left.symm⟩

/-- Wherever a statement is given up, recovery ends at the same place. -/
theorem recover_of_givenUp {start line : Line} (ended : start.Ended)
    (givenUp : start.GivenUp line) :
    line.recover.current = start.recover.current ∧ line.recover.rest = start.recover.rest := by
  cases givenUp with
  | @token done line reaches =>
    have before : ∀ lexeme ∈ done.map .ok, Lexeme.endsLine lexeme = false :=
      List.forall_mem_map.mpr reaches.going
    exact recover_eq_of_split ended reaches.split (List.nil_append _).symm before (by simp)
  | @error done line fault rest reaches goes instead =>
    have before : ∀ lexeme ∈ done.map .ok, Lexeme.endsLine lexeme = false :=
      List.forall_mem_map.mpr reaches.going
    have token : Lexeme.endsLine (.ok line.current) = false := goes
    have error : Lexeme.endsLine (.error fault) = false := rfl
    have whole : (.ok start.current :: start.rest : List Lexeme) =
        (done.map .ok ++ [.ok line.current, .error fault]) ++ rest := by
      simp [reaches.split, instead]
    have part : (.ok line.current :: rest : List Lexeme) = [.ok line.current] ++ rest := rfl
    refine recover_eq_of_split ended whole part ?_ (by simpa)
    exact List.forall_mem_append.mpr ⟨before, by simp [token, error]⟩

/-! ## A statement and what is behind it -/

/-- A line that a token ends, and the same line with lexemes behind it. -/
structure Followed (stop : Token) (behind : List Lexeme) (left right : Line) : Prop where
  closed : ∃ front, (.ok left.current :: left.rest : List Lexeme) = front ++ [.ok stop] ∧
    ∀ lexeme ∈ front, Lexeme.endsLine lexeme = false
  same : right = ⟨left.current, left.last, left.rest ++ behind⟩

theorem simulation_followed {stop : Token} (ends : stop.endsLine = true) (behind : List Lexeme) :
    Reading.Simulation ⟨Followed stop behind, Eq, Eq, fun _ _ => True⟩ where
  givenUp _ := trivial
  current := by
    rintro s t ⟨-, rfl⟩
    cases ends : s.current.endsLine with
    | true => exact .inl ⟨ends, ends⟩
    | false => exact .inr ⟨ends, rfl, rfl, rfl⟩
  bounds := by
    rintro s t ⟨⟨front, split, -⟩, rfl⟩
    have member : .ok stop ∈ (.ok s.current :: s.rest : List Lexeme) := by simp [split]
    refine .inr ⟨⟨.ok stop, member, ends⟩, .ok stop, ?_, ends⟩
    exact List.mem_append_left behind member
  refusal := by
    rintro s t ⟨-, rfl⟩ expected
    rfl
  keyword := by
    rintro p q rfl word expected context
    rfl
  literal := by
    rintro p q rfl fault
    rfl
  advance := by
    rintro ⟨current, last, rest⟩ t ⟨⟨front, split, going⟩, rfl⟩ goes
    cases front with
    | nil =>
      cases split
      exact absurd (ends.symm.trans goes) (by decide)
    | cons lexeme front =>
      obtain ⟨-, split⟩ := List.cons.inj split
      cases rest with
      | nil => simp at split
      | cons next rest =>
        cases next with
        | error fault => exact .error rfl trivial
        | ok token => exact .ok () ⟨⟨front, split, (List.forall_mem_cons.mp going).2⟩, rfl⟩

end Line

namespace Reading

/-- A reading begins with the current token, and what was before it does not matter. -/
theorem advance_run_last (token : Token) (last other : Span) (rest : List Lexeme) :
    advance.run ⟨token, last, rest⟩ = advance.run ⟨token, other, rest⟩ := by
  rcases rest with _ | ⟨_ | _, rest⟩ <;> rfl

theorem operation_run_last (token : Token) (last other : Span) (rest : List Lexeme) :
    operation.run ⟨token, last, rest⟩ = operation.run ⟨token, other, rest⟩ ∨
      ∃ fault, ∀ span, operation.run ⟨token, span, rest⟩ = (.error fault, ⟨token, span, rest⟩) := by
  have looks (next : Token → Reading Operation) (span : Span) :
      (current >>= next).run ⟨token, span, rest⟩ = (next token).run ⟨token, span, rest⟩ := rfl
  simp only [operation, looks]
  cases token.kind with
  | leftBrace | rightBrace | name =>
    apply Or.inl
    rw [run_bind, run_bind, advance_run_last token last other]
  | _ => exact .inr ⟨.unexpectedToken "a statement" token.describe token.span, fun _ => rfl⟩

/-- A statement is refused at its first token, or what was before that does not matter. -/
theorem statement_run_last (token : Token) (last other : Span) (rest : List Lexeme) :
    statement.run ⟨token, last, rest⟩ = statement.run ⟨token, other, rest⟩ ∨
      ∃ fault, ∀ span, statement.run ⟨token, span, rest⟩ = (.error fault, ⟨token, span, rest⟩) := by
  rcases operation_run_last token last other rest with same | ⟨fault, refused⟩
  · apply Or.inl
    rw [statement_run, statement_run, run_bind, run_bind, same]
  · refine .inr ⟨fault, fun span => ?_⟩
    rw [statement_run, run_bind, refused]

/-- A statement that a line end follows is read up to there, and nothing behind it matters. -/
theorem statement_followed {first stop : Token} {front : List Lexeme}
    (going : ∀ lexeme ∈ (.ok first :: front : List Lexeme), Lexeme.endsLine lexeme = false)
    (ends : stop.endsLine = true) (last : Span) (behind : List Lexeme) :
    (∃ fault left right, statement.run ⟨first, {}, front ++ [.ok stop]⟩ = (.error fault, left) ∧
        statement.run ⟨first, last, front ++ .ok stop :: behind⟩ = (.error fault, right)) ∨
      ∃ node final, statement.run ⟨first, {}, front ++ [.ok stop]⟩ = (.ok node, ⟨stop, final, []⟩) ∧
        statement.run ⟨first, last, front ++ .ok stop :: behind⟩ =
          (.ok node, ⟨stop, final, behind⟩) := by
  have begun : Line.Followed stop behind ⟨first, {}, front ++ [.ok stop]⟩
      ⟨first, {}, front ++ .ok stop :: behind⟩ :=
    ⟨⟨.ok first :: front, rfl, going⟩, by simp⟩
  have before := statement_run_last first last {} (front ++ .ok stop :: behind)
  rcases (Line.simulation_followed ends behind).statement_related begun with
    ⟨fault, _, _, _, rfl, -, left, right⟩ |
      ⟨operation, s, t, ⟨⟨own, split, going⟩, rfl⟩, ended, left, right⟩
  · rcases before with same | ⟨other, refused⟩
    · exact .inl ⟨fault, _, _, left, same.trans right⟩
    · cases (refused {}).symm.trans right
      exact .inl ⟨fault, _, _, left, refused last⟩
  · have whole : statement.run ⟨first, last, front ++ .ok stop :: behind⟩ =
        statement.run ⟨first, {}, front ++ .ok stop :: behind⟩ := by
      rcases before with same | ⟨other, refused⟩
      · exact same
      · cases (refused {}).symm.trans right
    cases own with
    | nil =>
      obtain ⟨same, rest⟩ := List.cons.inj split
      obtain ⟨current, final, _⟩ := s
      cases same
      cases rest
      exact .inr ⟨_, final, left, whole.trans right⟩
    | cons lexeme own =>
      obtain ⟨rfl, -⟩ := List.cons.inj split
      exact absurd (ended.symm.trans (going _ List.mem_cons_self)) (by decide)

end Reading

/-! ## What is found ahead -/

theorem results_endsLine {token : Token} (ends : token.endsLine = true) (rest : List Lexeme) :
    results (.ok token :: rest) = results rest := by
  have ended : Lexeme.endsLine (.ok token) = true := ends
  rw [results, splitLines_cons_of_endsLine ended, List.flatMap_cons, readLine, if_pos ends]
  rfl

theorem results_error (fault : SyntaxError) (rest : List Lexeme) :
    results (.error fault :: rest) = .error fault :: results rest := by
  rw [results, results, splitLines_cons_going rfl, List.flatMap_cons, readLine]
  cases splitLines rest <;> rfl

theorem results_statement {first stop : Token} {front : List Lexeme}
    (going : ∀ lexeme ∈ (.ok first :: front : List Lexeme), Lexeme.endsLine lexeme = false)
    (ends : stop.endsLine = true) (behind : List Lexeme) :
    results (.ok first :: (front ++ .ok stop :: behind)) =
      (Reading.statement.run ⟨first, {}, front ++ [.ok stop]⟩).1 :: results behind := by
  have closed : ClosedLine ((.ok first :: front) ++ [.ok stop]) := ⟨_, stop, rfl, ends, going⟩
  have goes : first.endsLine = false := going _ List.mem_cons_self
  rw [← List.cons_append, results_append ends, results, closed.splitLines_eq,
    List.flatMap_singleton, List.cons_append, readLine, if_neg (by simp [goes])]
  rfl

/-! ## Passes make progress -/

theorem Sourced.ended {lexemes : List Lexeme} (sourced : Sourced lexemes) :
    ∃ lexeme ∈ lexemes, Lexeme.endsLine lexeme = true := by
  obtain ⟨front, stop, rfl, ends⟩ := sourced.exists_stop
  exact ⟨.ok stop, by simp, ends⟩

namespace Line

/-- A state between two statements: a line or the source has come to its end, and the end of the
source is ahead if it has not been reached. -/
structure Between (line : Line) : Prop where
  ends : line.current.endsLine = true
  sourced : Sourced (.ok line.current :: line.rest)

theorem between_start (cursor : Cursor) : (start cursor.lexemes).Between :=
  ⟨rfl, .token Token.Kind.noConfusion cursor.lexemes_sourced⟩

theorem skipLineEnds_of_ne {current : Token} (goes : current.kind ≠ .lineEnd) (last : Span)
    (rest : List Lexeme) : skipLineEnds current last rest = (none, ⟨current, last, rest⟩) := by
  cases rest with
  | nil => rfl
  | cons lexeme rest => exact if_neg goes

theorem skipLineEnds_cons {current : Token} (ends : current.kind = .lineEnd) (last : Span)
    (token : Token) (rest : List Lexeme) :
    skipLineEnds current last (.ok token :: rest) = skipLineEnds token current.span rest :=
  if_pos ends

/-- Past line ends there is an error or a token that is none.  Fewer lexemes are ahead then, and
nothing to be found has been left out. -/
theorem skipLineEnds_cases {current : Token} {rest : List Lexeme} (ends : current.kind = .lineEnd)
    (sourced : Sourced rest) (last : Span) :
    (∃ fault after, skipLineEnds current last rest = (some fault, after) ∧ after.Between ∧
        after.rest.length < rest.length ∧ results rest = .error fault :: results after.rest) ∨
      ∃ after, skipLineEnds current last rest = (none, after) ∧ after.current.kind ≠ .lineEnd ∧
        Sourced (.ok after.current :: after.rest) ∧ after.rest.length < rest.length ∧
        results rest = results (.ok after.current :: after.rest) := by
  induction sourced generalizing current last with
  | @stop token stops =>
    exact .inr ⟨⟨token, current.span, []⟩, skipLineEnds_cons ends last token [], by simp [stops],
      .stop stops, Nat.one_pos, rfl⟩
  | @token token rest goes more ih =>
    rw [skipLineEnds_cons ends]
    by_cases again : token.kind = .lineEnd
    · rw [results_endsLine (by simp [Token.endsLine, again])]
      rcases ih again current.span with
        ⟨fault, after, skipped, between, shorter, same⟩ |
          ⟨after, skipped, solid, ahead, shorter, same⟩
      · exact .inl ⟨fault, after, skipped, between, Nat.lt_succ_of_lt shorter, same⟩
      · exact .inr ⟨after, skipped, solid, ahead, Nat.lt_succ_of_lt shorter, same⟩
    · exact .inr ⟨⟨token, current.span, rest⟩, skipLineEnds_of_ne again _ _, again,
        .token goes more, Nat.lt_succ_self _, rfl⟩
  | @error fault rest more =>
    refine .inl ⟨fault, ⟨current, current.span, rest⟩, if_pos ends, ⟨?_, ?_⟩,
      Nat.lt_succ_self _, results_error fault rest⟩
    · simp [Token.endsLine, ends]
    · exact .token (by simp [ends]) more

/-- An attempt finds what its line holds, and is left where the line ends. -/
theorem attempt_found {first stop : Token} {front : List Lexeme}
    (going : ∀ lexeme ∈ (.ok first :: front : List Lexeme), Lexeme.endsLine lexeme = false)
    (ends : stop.endsLine = true) (last : Span) (behind : List Lexeme) :
    let line : Line := ⟨first, last, front ++ .ok stop :: behind⟩
    line.attempt.1 = (Reading.statement.run ⟨first, {}, front ++ [.ok stop]⟩).1 ∧
      line.attempt.2.current = stop ∧ line.attempt.2.rest = behind := by
  intro line
  rw [attempt]
  rcases Reading.statement_followed going ends last behind with
    ⟨fault, _, left, alone, followed⟩ | ⟨node, final, alone, followed⟩
  · -- Wherever the statement is given up, recovery ends where the line does.
    have ended : line.Ended := ⟨.ok stop, by simp [line], ends⟩
    have split : (.ok line.current :: line.rest : List Lexeme) =
        (.ok first :: front) ++ .ok stop :: behind := rfl
    obtain ⟨current, rest⟩ := recover_of_givenUp ended (givenUp_of_statement ended followed)
    obtain ⟨stops, remains⟩ := recover_split split going ends
    rw [alone, followed]
    exact ⟨rfl, current.trans stops, rest.trans remains⟩
  · rw [alone, followed]
    exact ⟨rfl, rfl, rfl⟩

/-- An attempt ends with its line, and finds the first of what there is ahead. -/
theorem attempt_spec {line : Line} (goes : line.current.endsLine = false)
    (sourced : Sourced line.rest) :
    line.attempt.2.Between ∧ line.attempt.2.rest.length < line.rest.length ∧
      results (.ok line.current :: line.rest) = line.attempt.1 :: results line.attempt.2.rest := by
  obtain ⟨first, last, rest⟩ := line
  obtain ⟨front, stop, behind, split, ahead, ends⟩ := exists_first_end sourced.ended
  obtain rfl : rest = front ++ .ok stop :: behind := split
  have going : ∀ lexeme ∈ (.ok first :: front : List Lexeme), Lexeme.endsLine lexeme = false :=
    List.forall_mem_cons.mpr ⟨goes, ahead⟩
  obtain ⟨result, current, left⟩ := attempt_found going ends last behind
  refine ⟨⟨?_, ?_⟩, ?_, ?_⟩
  · rw [current]
    exact ends
  · rw [current, left]
    exact sourced.of_append
  · rw [left, List.length_append, List.length_cons]
    omega
  · rw [result, left]
    exact results_statement going ends behind

/-- A pass takes lexemes and finds the first of what there is ahead; only where there is nothing is
there no pass. -/
theorem pass_cases {line : Line} (between : line.Between) :
    (line.pass = none ∧ results line.rest = []) ∨
      ∃ found after, line.pass = some (found, after) ∧ after.Between ∧
        after.rest.length < line.rest.length ∧ results line.rest = found :: results after.rest := by
  rcases Token.kind_of_endsLine between.ends with ends | stops
  · rcases skipLineEnds_cases ends (between.sourced.tail (by simp [ends])) line.last with
      ⟨fault, after, skipped, left, shorter, same⟩ | ⟨after, skipped, solid, ahead, shorter, same⟩
    · refine .inr ⟨.error fault, after, ?_, left, shorter, same⟩
      simp only [pass, skipped, recover_of_endsLine left.ends]
    · by_cases stops : after.current.kind = .stop
      · refine .inl ⟨?_, ?_⟩
        · rw [pass, skipped]
          exact if_pos stops
        · rw [same, results_endsLine (by simp [Token.endsLine, stops]), ahead.rest_nil stops]
          rfl
      · have goes : after.current.endsLine = false := by simp [Token.endsLine, solid, stops]
        obtain ⟨left, less, found⟩ := attempt_spec goes (ahead.tail stops)
        refine .inr ⟨after.attempt.1, after.attempt.2, ?_, left, Nat.lt_trans less shorter,
          same.trans found⟩
        rw [pass, skipped]
        exact if_neg stops
  · refine .inl ⟨?_, ?_⟩
    · rw [pass, skipLineEnds_of_ne (by simp [stops])]
      exact if_pos stops
    · rw [between.sourced.rest_nil stops]
      rfl

/-- Passes keep to places between statements, and leave what they have not found. -/
theorem Passes.between {line final : Line} {found : List (Except SyntaxError Node)}
    (passes : Passes line found final) (between : line.Between) :
    final.Between ∧ results line.rest = found ++ results final.rest ∧
      final.rest.length + found.length ≤ line.rest.length := by
  induction passes with
  | done line => exact ⟨between, rfl, Nat.le_refl _⟩
  | @pass line after final result more read later ih =>
    rcases pass_cases between with ⟨none, -⟩ | ⟨_, _, some, left, shorter, same⟩
    · cases none.symm.trans read
    · cases some.symm.trans read
      obtain ⟨ends, rest, length⟩ := ih left
      refine ⟨ends, ?_, ?_⟩
      · rw [same, rest]
        rfl
      · rw [List.length_cons]
        omega

/-- The passes over a stream come to an end, and find what its lines hold. -/
theorem exists_passes {line : Line} (between : line.Between) :
    ∃ final, Passes line (results line.rest) final ∧ final.pass = none := by
  induction size : line.rest.length using Nat.strongRecOn generalizing line with
  | ind size ih =>
    rcases pass_cases between with ⟨none, nothing⟩ | ⟨found, after, read, left, shorter, same⟩
    · rw [nothing]
      exact ⟨line, .done line, none⟩
    · obtain ⟨final, passes, none⟩ := ih _ (size ▸ shorter) left rfl
      rw [same]
      exact ⟨final, .pass read passes, none⟩

end Line

end Custody
