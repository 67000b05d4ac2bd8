import Custody.Operation.Parser

/-!
# Loops of a statement

Keys, captures and arms are read in rounds whose number is bounded beforehand.  Every round takes a
token, and none goes past the end of the line.  So a bound above the number of lexemes ahead is
never reached, and the loops read as if they had none.
-/

namespace Custody

theorem Token.kind_of_endsLine {token : Token} (ends : token.endsLine = true) :
    token.kind = .lineEnd ∨ token.kind = .stop := by
  simpa [endsLine] using ends

theorem Token.kind_ne_of_endsLine {token : Token} (ends : token.endsLine = true)
    (kind : Token.Kind) (solid : kind ≠ .lineEnd ∧ kind ≠ .stop) : token.kind ≠ kind := by
  rintro rfl
  simp [endsLine, solid] at ends

/-- The line of a statement has an end, at the current token or ahead of it. -/
def Line.Ended (line : Line) : Prop :=
  ∃ lexeme ∈ (.ok line.current :: line.rest : List Lexeme), Lexeme.endsLine lexeme = true

namespace Reading

variable {α β : Type} {line after : Line}

/-! ## Rounds -/

/-- The rounds of a loop: a step finds something and goes on, or finds nothing and ends the loop.
The last argument bounds the number of rounds. -/
def rounds (step : Reading (Option α)) (put : α → β → β) (nothing : β) : Nat → Reading β
  | 0 => return nothing
  | more + 1 => do
    match ← step with
    | none => return nothing
    | some found => return put found (← rounds step put nothing more)

/-- Read the comma behind an item, unless it is the last one. -/
def comma (isLast : Reading Bool) (expected : String) : Reading Unit := do
  if ← at? .comma then advance
  else unless ← isLast do unexpected expected

theorem comma_bind (isLast : Reading Bool) (expected : String) (next : Unit → Reading α) :
    comma isLast expected >>= next = (do
      if ← at? .comma then
        advance
        next ()
      else if ← isLast then next ()
      else
        unexpected (α := Unit) expected
        next ()) := by
  simp only [comma, bind_assoc]
  refine bind_congr fun found => ?_
  cases found with
  | true => rfl
  | false =>
    simp only [Bool.false_eq_true, if_false, bind_assoc]
    refine bind_congr fun last => ?_
    cases last <;> rfl

/-- Read a key and the comma behind it, unless the brace closes. -/
def key? : Reading (Option Value) := do
  if ← at? .rightBrace then
    advance
    return none
  else
    let key ← value
    comma (at? .rightBrace) "',' or '\x7d'"
    return some key

theorem keys_eq_rounds (bound : Nat) : keys bound = rounds key? List.cons [] bound := by
  induction bound with
  | zero => rfl
  | succ more ih =>
    rw [keys, rounds, ih]
    generalize rounds key? List.cons [] more = later
    rw [key?, bind_assoc]
    refine bind_congr fun closes => ?_
    cases closes with
    | true => simp only [if_true, bind_assoc, pure_bind]
    | false =>
      simp only [Bool.false_eq_true, if_false, bind_assoc]
      simp only [comma_bind, pure_bind]

/-- Read on behind the first name of a capture, which marks it when a second one follows. -/
def captured (first : String) : Reading Capture := do
  let token ← current
  if first = "take" ∧ token.kind = .name then return ⟨← name "captured binding", true⟩
  else return ⟨first, false⟩

/-- Read a captured binding and the comma behind it, unless the statement ends. -/
def capture? : Reading (Option Capture) := do
  if ← atEnd then return none
  else
    let capture ← captured (← name "captured binding")
    comma atEnd "',' or end of statement"
    return some capture

theorem captures_eq_rounds (bound : Nat) :
    captures bound = rounds capture? List.cons [] bound := by
  induction bound with
  | zero => rfl
  | succ more ih =>
    rw [captures, rounds, ih]
    generalize rounds capture? List.cons [] more = later
    rw [capture?, bind_assoc]
    refine bind_congr fun ended => ?_
    cases ended with
    | true => simp only [if_true, pure_bind]
    | false =>
      simp only [Bool.false_eq_true, if_false, captured, bind_assoc]
      refine bind_congr fun first => bind_congr fun token => ?_
      split
      · simp only [bind_assoc, pure_bind]
        simp only [comma_bind]
      · simp only [pure_bind]
        simp only [comma_bind]

/-- Read an arm of a choice and the comma behind it, or the fallback, unless the statement ends. -/
def arm? : Reading (Option (Option Perspective)) := do
  let token ← current
  if token.endsLine then return none
  else if token.isWord "_" then
    advance
    return some none
  else
    let arm ← word Perspective.ofWord? "perspective" "lifo, fifo, hashed, _"
    if ← at? .comma then advance
    return some (some arm)

/-- Put an arm, or the fallback, in front of what follows. -/
def putArm (arm : Option Perspective) (later : List Perspective × Bool) : List Perspective × Bool :=
  match arm with
  | none => (later.1, true)
  | some arm => (arm :: later.1, later.2)

theorem arms_eq_rounds (bound : Nat) : arms bound = rounds arm? putArm ([], false) bound := by
  induction bound with
  | zero => rfl
  | succ more ih =>
    rw [arms, rounds, ih]
    generalize rounds arm? putArm ([], false) more = later
    rw [arm?, bind_assoc]
    refine bind_congr fun token => ?_
    split
    · simp only [pure_bind]
    split
    · simp only [bind_assoc, pure_bind]
      rfl
    · simp only [bind_assoc]
      refine bind_congr fun arm => bind_congr fun found => ?_
      cases found with
      | true =>
        simp only [if_true, bind_assoc, pure_bind]
        rfl
      | false => rfl

/-! ## Lexemes taken -/

theorem valueOf_of_endsLine {token : Token} (ends : token.endsLine = true) :
    valueOf token = .error none := by
  unfold valueOf
  rcases Token.kind_of_endsLine ends with kind | kind <;> rw [kind]

theorem exists_of_run_bind {p : Reading α} {f : α → Reading β} {value : β}
    (read : (p >>= f).run line = (.ok value, after)) : ∃ first middle,
      p.run line = (.ok first, middle) ∧ (f first).run middle = (.ok value, after) := by
  rw [run_bind] at read
  cases first : p.run line with
  | mk result middle =>
    rw [first] at read
    cases result with
    | error fault => cases read
    | ok found => exact ⟨found, middle, rfl, read⟩

/-- A reading that succeeds has taken lexemes, but not the end of the line. -/
def Takes (p : Reading α) : Prop :=
  ∀ {line after value}, line.Ended → p.run line = (.ok value, after) →
    after.Ended ∧ after.rest.length < line.rest.length

/-- A step past a token that does not end the line. -/
theorem advance_takes (ended : line.Ended) (going : line.current.endsLine = false)
    (read : advance.run line = (.ok (), after)) :
    after.Ended ∧ after.rest.length < line.rest.length := by
  obtain ⟨current, last, rest⟩ := line
  obtain ⟨lexeme, member, ends⟩ := ended
  rcases List.mem_cons.mp member with rfl | ahead
  · exact absurd (going.symm.trans ends) (by decide)
  cases rest with
  | nil => cases ahead
  | cons next rest =>
    cases next with
    | error fault => cases read
    | ok token =>
      cases read
      exact ⟨⟨lexeme, ahead, ends⟩, Nat.lt_succ_self _⟩

theorem takes_expect {kind : Token.Kind} (solid : kind ≠ .lineEnd ∧ kind ≠ .stop)
    (expected : String) : Takes (expect kind expected) := by
  intro line after token ended read
  obtain ⟨first, middle, look, read⟩ := exists_of_run_bind read
  cases look
  split at read
  · next found =>
    obtain ⟨_, middle, step, read⟩ := exists_of_run_bind read
    cases read
    refine advance_takes ended ?_ step
    simp [Token.endsLine, found, solid]
  · cases read

theorem takes_name (expected : String) : Takes (name expected) := by
  intro line after found ended read
  obtain ⟨token, middle, read, same⟩ := exists_of_run_bind read
  cases same
  exact takes_expect (by decide) expected ended read

theorem takes_word (ofWord? : String → Option α) (context choices : String) :
    Takes (word ofWord? context choices) := by
  intro line after found ended read
  obtain ⟨token, middle, look, read⟩ := exists_of_run_bind read
  cases look
  split at read
  · next named =>
    split at read
    · obtain ⟨_, middle, step, read⟩ := exists_of_run_bind read
      cases read
      refine advance_takes ended ?_ step
      simp [Token.endsLine, named]
    · cases read
  · cases read

theorem takes_value : Takes value := by
  intro line after found ended read
  obtain ⟨token, middle, look, read⟩ := exists_of_run_bind read
  cases look
  split at read
  · next known =>
    obtain ⟨_, middle, step, read⟩ := exists_of_run_bind read
    cases read
    refine advance_takes ended ?_ step
    cases ends : line.current.endsLine with
    | false => rfl
    | true =>
      rw [valueOf_of_endsLine ends] at known
      cases known
  · cases read
  · cases read

/-- A reading that succeeds has not gone past the end of the line. -/
def Keeps (p : Reading α) : Prop :=
  ∀ {line after value}, line.Ended → p.run line = (.ok value, after) →
    after.Ended ∧ after.rest.length ≤ line.rest.length

/-- A look at the current token. -/
def Looks (p : Reading α) : Prop :=
  ∀ {line after value}, p.run line = (.ok value, after) → after = line

theorem looks_at? (kind : Token.Kind) : Looks (at? kind) := by
  intro line after found read
  cases read
  rfl

theorem looks_atEnd : Looks atEnd := by
  intro line after found read
  cases read
  rfl

theorem keeps_comma {isLast : Reading Bool} (looks : Looks isLast) (expected : String) :
    Keeps (comma isLast expected) := by
  intro line after _ ended read
  obtain ⟨found, middle, look, read⟩ := exists_of_run_bind read
  cases look
  split at read
  · next found =>
    have kind : line.current.kind = .comma := by simpa using found
    have taken := advance_takes ended (by simp [Token.endsLine, kind]) read
    exact ⟨taken.1, Nat.le_of_lt taken.2⟩
  · obtain ⟨last, same, look, done⟩ := exists_of_run_bind read
    obtain rfl := looks look
    split at done
    · cases done
      exact ⟨ended, Nat.le_refl _⟩
    · cases done

theorem keeps_captured (first : String) : Keeps (captured first) := by
  intro line after capture ended read
  obtain ⟨token, middle, look, read⟩ := exists_of_run_bind read
  cases look
  split at read
  · obtain ⟨second, middle, named, read⟩ := exists_of_run_bind read
    cases read
    have taken := takes_name _ ended named
    exact ⟨taken.1, Nat.le_of_lt taken.2⟩
  · cases read
    exact ⟨ended, Nat.le_refl _⟩

/-- A step of a loop takes lexemes whenever it finds something. -/
def Steps (step : Reading (Option α)) : Prop :=
  ∀ {line after found}, line.Ended → step.run line = (.ok (some found), after) →
    after.Ended ∧ after.rest.length < line.rest.length

theorem steps_key? : Steps key? := by
  intro line after found ended read
  obtain ⟨closes, middle, look, read⟩ := exists_of_run_bind read
  cases look
  split at read
  · obtain ⟨_, middle, -, read⟩ := exists_of_run_bind read
    cases read
  · obtain ⟨key, middle, key, read⟩ := exists_of_run_bind read
    obtain ⟨_, last, comma, read⟩ := exists_of_run_bind read
    cases read
    have taken := takes_value ended key
    have kept := keeps_comma (looks_at? _) _ taken.1 comma
    exact ⟨kept.1, Nat.lt_of_le_of_lt kept.2 taken.2⟩

theorem steps_capture? : Steps capture? := by
  intro line after found ended read
  obtain ⟨done, middle, look, read⟩ := exists_of_run_bind read
  cases look
  split at read
  · cases read
  · obtain ⟨first, second, named, read⟩ := exists_of_run_bind read
    obtain ⟨capture, third, mark, read⟩ := exists_of_run_bind read
    obtain ⟨_, last, comma, read⟩ := exists_of_run_bind read
    cases read
    have taken := takes_name _ ended named
    have marked := keeps_captured _ taken.1 mark
    have kept := keeps_comma looks_atEnd _ marked.1 comma
    exact ⟨kept.1, Nat.lt_of_le_of_lt (Nat.le_trans kept.2 marked.2) taken.2⟩

theorem steps_arm? : Steps arm? := by
  intro line after found ended read
  obtain ⟨token, middle, look, read⟩ := exists_of_run_bind read
  cases look
  split at read
  · cases read
  · next goes =>
    split at read
    · obtain ⟨_, middle, step, read⟩ := exists_of_run_bind read
      cases read
      exact advance_takes ended (by simpa using goes) step
    · obtain ⟨arm, middle, named, read⟩ := exists_of_run_bind read
      have taken := takes_word _ _ _ ended named
      obtain ⟨found, same, look, read⟩ := exists_of_run_bind read
      cases look
      split at read
      · next found =>
        obtain ⟨_, last, step, read⟩ := exists_of_run_bind read
        cases read
        have kind : middle.current.kind = .comma := by simpa using found
        have stepped := advance_takes taken.1 (by simp [Token.endsLine, kind]) step
        exact ⟨stepped.1, Nat.lt_trans stepped.2 taken.2⟩
      · cases read
        exact taken

/-! ## Bounds -/

/-- A loop whose steps take lexemes never reaches a bound above the number of those ahead. -/
theorem rounds_run_eq {step : Reading (Option α)} (steps : Steps step) (put : α → β → β)
    (nothing : β) {bound other : Nat} (ended : line.Ended) (enough : line.rest.length < bound)
    (sufficient : line.rest.length < other) :
    (rounds step put nothing bound).run line = (rounds step put nothing other).run line := by
  induction bound generalizing other line with
  | zero => exact absurd enough (Nat.not_lt_zero _)
  | succ bound ih =>
    cases other with
    | zero => exact absurd sufficient (Nat.not_lt_zero _)
    | succ other =>
      rw [rounds, rounds, run_bind, run_bind]
      cases read : step.run line with
      | mk result after =>
        match result with
        | .error fault => rfl
        | .ok none => rfl
        | .ok (some found) =>
          have taken := steps ended read
          have later : (rounds step put nothing bound).run after =
              (rounds step put nothing other).run after := ih taken.1 (by omega) (by omega)
          change (rounds step put nothing bound >>= fun rest => pure (put found rest)).run after =
            (rounds step put nothing other >>= fun rest => pure (put found rest)).run after
          rw [run_bind, run_bind, later]

theorem keys_run_eq {bound other : Nat} (ended : line.Ended) (enough : line.rest.length < bound)
    (sufficient : line.rest.length < other) : (keys bound).run line = (keys other).run line := by
  rw [keys_eq_rounds, keys_eq_rounds]
  exact rounds_run_eq steps_key? _ _ ended enough sufficient

/-- Read keys from the brace that opens them on. -/
def braced (bound : Nat) : Reading Extent := do
  advance
  return .keys (← keys bound)

theorem braced_run_eq {bound other : Nat} (ended : line.Ended)
    (going : line.current.endsLine = false) (enough : line.rest.length < bound)
    (sufficient : line.rest.length < other) :
    (braced bound).run line = (braced other).run line := by
  rw [braced, braced, run_bind, run_bind]
  cases read : advance.run line with
  | mk result after =>
    cases result with
    | error fault => rfl
    | ok _ =>
      have taken := advance_takes ended going read
      have same : (keys bound).run after = (keys other).run after :=
        keys_run_eq taken.1 (by omega) (by omega)
      change (keys bound >>= fun found => pure (Extent.keys found)).run after =
        (keys other >>= fun found => pure (Extent.keys found)).run after
      rw [run_bind, run_bind, same]

theorem captures_run_eq {bound other : Nat} (ended : line.Ended)
    (enough : line.rest.length < bound) (sufficient : line.rest.length < other) :
    (captures bound).run line = (captures other).run line := by
  rw [captures_eq_rounds, captures_eq_rounds]
  exact rounds_run_eq steps_capture? _ _ ended enough sufficient

theorem arms_run_eq {bound other : Nat} (ended : line.Ended) (enough : line.rest.length < bound)
    (sufficient : line.rest.length < other) : (arms bound).run line = (arms other).run line := by
  rw [arms_eq_rounds, arms_eq_rounds]
  exact rounds_run_eq steps_arm? _ _ ended enough sufficient

end Reading

end Custody
