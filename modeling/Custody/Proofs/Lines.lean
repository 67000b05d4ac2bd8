import Mathlib.Data.List.Forall2
import Custody.Proofs.Readings

/-!
# Lines of a stream

Lexemes that no reading tells apart have the same results, line by line.  A line that is read
without errors holds one statement, and the statement takes up all of its tokens.
-/

namespace Custody

/-! ## Lexemes that are read alike -/

/-- Two lexemes that no reading tells apart. -/
inductive Lexeme.Like (places : Span → Span → Prop) : Lexeme → Lexeme → Prop
  | token {left right : Token} (like : left.Like places right) : Like places (.ok left) (.ok right)
  | fault (left right : SyntaxError) : Like places (.error left) (.error right)

/-- Two statements that no reading tells apart. -/
structure Line.Like (places : Span → Span → Prop) (left right : Line) : Prop where
  current : left.current.Like places right.current
  rest : List.Forall₂ (Lexeme.Like places) left.rest right.rest
  last : places left.last right.last

/-- Two results of one reading: both are errors, or they are the same operation and cover related
spans. -/
inductive Node.Like (places : Span → Span → Prop) :
    Except SyntaxError Node → Except SyntaxError Node → Prop
  | node (operation : Operation) {first second last final : Span} (starts : places first second)
      (ends : places last final) :
      Like places (.ok ⟨operation, first.cover last⟩) (.ok ⟨operation, second.cover final⟩)
  | fault (left right : SyntaxError) : Like places (.error left) (.error right)

section

variable {places : Span → Span → Prop}

theorem Lexeme.Like.endsLine_eq {left right : Lexeme} (like : Lexeme.Like places left right) :
    Lexeme.endsLine left = Lexeme.endsLine right := by
  cases like with
  | token like =>
    rcases like with ⟨first, second⟩ | ⟨-, kind, -⟩
    · exact first.trans second.symm
    · exact Token.endsLine_congr kind
  | fault => rfl

theorem Line.simulation_like (places : Span → Span → Prop) :
    Reading.Simulation ⟨Line.Like places, places, fun _ _ => True, fun _ _ => True⟩ where
  current like := like.current
  bounds like := .inl like.rest.length_eq
  givenUp _ := trivial
  refusal _ _ := trivial
  keyword _ _ _ _ := trivial
  literal _ _ := trivial
  advance := by
    rintro ⟨first, before, rest⟩ ⟨second, prior, others⟩ like going
    have reached : places first.span second.span := by
      rcases like.current with ⟨ends, -⟩ | ⟨-, -, -, reached⟩
      · exact absurd (ends.symm.trans going) (by decide)
      · exact reached
    cases like.rest with
    | nil => exact .ok () ⟨like.current, .nil, reached⟩
    | cons head tail =>
      cases head with
      | token next => exact .ok () ⟨next, tail, reached⟩
      | fault left right => exact .error trivial trivial

theorem readLine_like (origin : places {} {}) {left right : List Lexeme}
    (like : List.Forall₂ (Lexeme.Like places) left right) :
    List.Forall₂ (Node.Like places) (readLine left) (readLine right) := by
  induction like with
  | nil => exact .nil
  | cons head tail ih =>
    have ends := head.endsLine_eq
    cases head with
    | fault first second => exact .cons (.fault first second) ih
    | @token first second like =>
      have same : first.endsLine = second.endsLine := ends
      unfold readLine
      cases stops : first.endsLine with
      | true =>
        rw [stops] at same
        rw [if_pos rfl, if_pos same.symm]
        exact .nil
      | false =>
        rw [stops] at same
        rw [if_neg Bool.false_ne_true, if_neg (by rw [← same]; exact Bool.false_ne_true)]
        refine .cons ?_ .nil
        have start : Line.Like places ⟨first, {}, _⟩ ⟨second, {}, _⟩ := ⟨like, tail, origin⟩
        rcases (Line.simulation_like places).statement_related start with
          ⟨one, other, _, _, -, -, left, right⟩ | ⟨operation, s, t, after, -, left, right⟩
        · rw [left, right]
          exact .fault one other
        · rw [left, right]
          refine .node operation ?_ after.last
          rcases like with ⟨ended, -⟩ | ⟨-, -, -, starts⟩
          · exact absurd (stops.symm.trans ended) Bool.false_ne_true
          · exact starts

theorem splitLines_like {left right : List Lexeme}
    (like : List.Forall₂ (Lexeme.Like places) left right) :
    List.Forall₂ (List.Forall₂ (Lexeme.Like places)) (splitLines left) (splitLines right) := by
  induction like with
  | nil => exact .nil
  | @cons _ _ rest others head tail ih =>
    unfold splitLines
    rw [head.endsLine_eq]
    split
    · exact .cons (.cons head .nil) ih
    · generalize splitLines rest = first at ih ⊢
      generalize splitLines others = second at ih ⊢
      cases ih with
      | nil => exact .cons (.cons head .nil) .nil
      | cons line lines => exact .cons (.cons head line) lines

/-- The results of a stream. -/
def results (lexemes : List Lexeme) : List (Except SyntaxError Node) :=
  (splitLines lexemes).flatMap readLine

/-- Lexemes that are alike have like results. -/
theorem results_like (origin : places {} {}) {left right : List Lexeme}
    (like : List.Forall₂ (Lexeme.Like places) left right) :
    List.Forall₂ (Node.Like places) (results left) (results right) :=
  List.rel_flatMap (splitLines_like like) fun _ _ => readLine_like origin

end

/-- A stream is read if every result is an operation. -/
theorem gather_eq_ok_iff (limit : Nat) (found : List (Except SyntaxError Node))
    (errors : List SyntaxError) (nodes : List Node) :
    gather limit found errors = .ok nodes ↔ errors = [] ∧ found = nodes.map .ok := by
  induction found generalizing errors nodes with
  | nil => cases errors <;> simp [gather, eq_comm]
  | cons head found ih =>
    cases head with
    | ok node =>
      rw [gather]
      constructor
      · intro read
        cases later : gather limit found errors with
        | error faults =>
          rw [later] at read
          cases read
        | ok more =>
          rw [later] at read
          cases read
          obtain ⟨none, rfl⟩ := (ih errors more).mp later
          exact ⟨none, rfl⟩
      · rintro ⟨none, same⟩
        cases nodes with
        | nil => cases same
        | cons first more =>
          obtain ⟨first, rest⟩ := List.cons.inj same
          cases first
          rw [(ih errors more).mpr ⟨none, rest⟩]
          rfl
    | error fault =>
      have mixed : (.error fault :: found : List (Except SyntaxError Node)) ≠ nodes.map .ok := by
        cases nodes <;> simp
      rw [gather]
      split
      · simp [mixed]
      · rw [ih]
        simp [mixed]

/-! ## Lines -/

/-- A line that its last lexeme, and no other one, ends. -/
def ClosedLine (line : List Lexeme) : Prop :=
  ∃ front stop, line = front ++ [.ok stop] ∧ stop.endsLine = true ∧
    ∀ lexeme ∈ front, Lexeme.endsLine lexeme = false

theorem splitLines_cons_of_endsLine {lexeme : Lexeme} (ends : Lexeme.endsLine lexeme = true)
    (rest : List Lexeme) : splitLines (lexeme :: rest) = [lexeme] :: splitLines rest := by
  rw [splitLines, if_pos ends]

theorem splitLines_cons {lexeme : Lexeme} (going : Lexeme.endsLine lexeme = false)
    {rest line : List Lexeme} {lines : List (List Lexeme)}
    (split : splitLines rest = line :: lines) :
    splitLines (lexeme :: rest) = (lexeme :: line) :: lines := by
  rw [splitLines, if_neg (by simp [going]), split]

theorem splitLines_cons_going {lexeme : Lexeme} (goes : Lexeme.endsLine lexeme = false)
    (rest : List Lexeme) : splitLines (lexeme :: rest) =
      (lexeme :: (splitLines rest).headD []) :: (splitLines rest).tail := by
  rw [splitLines, if_neg (by simp [goes])]
  cases splitLines rest <;> rfl

theorem splitLines_ne_nil (lexeme : Lexeme) (rest : List Lexeme) :
    splitLines (lexeme :: rest) ≠ [] := by
  rw [splitLines]
  split
  · exact List.cons_ne_nil _ _
  · split <;> exact List.cons_ne_nil _ _

theorem exists_splitLines (front : List Lexeme) (stop : Lexeme) :
    ∃ line lines, splitLines (front ++ [stop]) = line :: lines := by
  apply List.exists_cons_of_ne_nil
  cases front with
  | nil => exact splitLines_ne_nil stop []
  | cons lexeme front => exact splitLines_ne_nil lexeme (front ++ [stop])

theorem flatten_splitLines (lexemes : List Lexeme) : (splitLines lexemes).flatten = lexemes := by
  induction lexemes with
  | nil => rfl
  | cons lexeme rest ih =>
    rw [splitLines]
    split
    · rw [List.flatten_cons, ih]
      rfl
    · split
      · rename_i empty
        rw [empty] at ih
        rw [← ih]
        rfl
      · rename_i line lines split
        rw [split] at ih
        rw [← ih]
        rfl

/-- A lexeme that ends a line separates what is before it from what is behind it. -/
theorem splitLines_append {stop : Lexeme} (ends : Lexeme.endsLine stop = true)
    (front rest : List Lexeme) :
    splitLines (front ++ stop :: rest) = splitLines (front ++ [stop]) ++ splitLines rest := by
  induction front with
  | nil =>
    rw [List.nil_append, List.nil_append, splitLines_cons_of_endsLine ends,
      splitLines_cons_of_endsLine ends]
    rfl
  | cons lexeme front ih =>
    rw [List.cons_append, List.cons_append]
    cases ended : Lexeme.endsLine lexeme with
    | true =>
      rw [splitLines_cons_of_endsLine ended, splitLines_cons_of_endsLine ended, ih]
      rfl
    | false =>
      obtain ⟨line, lines, split⟩ := exists_splitLines front stop
      rw [split] at ih
      rw [splitLines_cons ended split, splitLines_cons ended ih]
      rfl

/-- The lines of a stream that ends are closed. -/
theorem closedLine_of_mem {stop : Token} (ends : stop.endsLine = true) (front : List Lexeme) :
    ∀ line ∈ splitLines (front ++ [.ok stop]), ClosedLine line := by
  have ended : Lexeme.endsLine (.ok stop) = true := ends
  induction front with
  | nil =>
    intro line member
    rw [List.nil_append, splitLines_cons_of_endsLine ended] at member
    obtain rfl : line = [.ok stop] := by simpa [splitLines] using member
    exact ⟨[], stop, rfl, ends, by simp⟩
  | cons lexeme front ih =>
    intro line member
    rw [List.cons_append] at member
    cases ended : Lexeme.endsLine lexeme with
    | true =>
      rw [splitLines_cons_of_endsLine ended] at member
      cases member with
      | head =>
        cases lexeme with
        | ok token => exact ⟨[], token, rfl, ended, by simp⟩
        | error fault => cases ended
      | tail _ member => exact ih line member
    | false =>
      obtain ⟨first, lines, split⟩ := exists_splitLines front (.ok stop)
      rw [splitLines_cons ended split] at member
      rw [split] at ih
      cases member with
      | head =>
        obtain ⟨front, last, rfl, stops, going⟩ := ih first List.mem_cons_self
        exact ⟨lexeme :: front, last, rfl, stops, by simpa [ended] using going⟩
      | tail _ member => exact ih line (List.mem_cons_of_mem _ member)

theorem ClosedLine.splitLines_eq {line : List Lexeme} (closed : ClosedLine line) :
    splitLines line = [line] := by
  obtain ⟨front, stop, rfl, ends, going⟩ := closed
  have ended : Lexeme.endsLine (.ok stop) = true := ends
  induction front with
  | nil => exact splitLines_cons_of_endsLine ended []
  | cons lexeme front ih =>
    simp only [List.forall_mem_cons] at going
    exact splitLines_cons going.1 (ih going.2)

theorem ClosedLine.going {tokens : List Token} {last : Token}
    (closed : ClosedLine (tokens.map .ok ++ [.ok last])) :
    ∀ token ∈ tokens, token.endsLine = false := by
  obtain ⟨front, stop, split, -, going⟩ := closed
  intro token member
  have same := (List.append_inj' split rfl).1
  exact going (.ok token) (same ▸ List.mem_map_of_mem member)

/-! ## What a statement takes up -/

/-- A statement that has been read up to a line, with the tokens that are done. -/
structure Line.Reaches (start : Line) (done : List Token) (line : Line) : Prop where
  split : (.ok start.current :: start.rest : List Lexeme) =
    done.map .ok ++ .ok line.current :: line.rest
  going : ∀ token ∈ done, token.endsLine = false
  last : ∀ token ∈ done.getLast?, line.last = token.span

theorem Line.Reaches.refl (line : Line) : line.Reaches [] line :=
  ⟨rfl, by simp, by simp⟩

/-- The end of the line is ahead of a token that does not end it. -/
theorem Line.Reaches.rest_ne_nil {start line : Line} {done : List Token}
    (reaches : start.Reaches done line) (ended : start.Ended)
    (goes : line.current.endsLine = false) : line.rest ≠ [] := by
  intro nothing
  obtain ⟨lexeme, member, ends⟩ := ended
  rw [reaches.split, nothing, List.mem_append, List.mem_singleton, List.mem_map] at member
  rcases member with ⟨token, found, rfl⟩ | rfl
  · exact absurd (ends.symm.trans (reaches.going token found)) (by decide)
  · exact absurd (ends.symm.trans goes) (by decide)

/-- Where a statement can be given up: at a token it has reached, or past an error that stands in
the place of the next one. -/
inductive Line.GivenUp (start : Line) : Line → Prop
  | token {done : List Token} {line : Line} (reaches : start.Reaches done line) :
      GivenUp start line
  | error {done : List Token} {line : Line} {fault : SyntaxError} {rest : List Lexeme}
      (reaches : start.Reaches done line) (goes : line.current.endsLine = false)
      (instead : line.rest = .error fault :: rest) :
      GivenUp start ⟨line.current, line.current.span, rest⟩

theorem Line.simulation_reaches {start : Line} (ended : start.Ended) :
    Reading.Simulation ⟨fun s t => s = t ∧ ∃ done, start.Reaches done s, fun _ _ => True,
      fun _ _ => True, fun s _ => start.GivenUp s⟩ where
  refusal _ _ := trivial
  keyword _ _ _ _ := trivial
  literal _ _ := trivial
  givenUp := by
    rintro s t ⟨rfl, done, reaches⟩
    exact .token reaches
  current := by
    rintro s t ⟨rfl, -⟩
    cases ends : s.current.endsLine with
    | true => exact .inl ⟨ends, ends⟩
    | false => exact .inr ⟨ends, rfl, rfl, trivial⟩
  bounds := by
    rintro s t ⟨rfl, -⟩
    exact .inl rfl
  advance := by
    rintro ⟨current, last, rest⟩ t ⟨rfl, done, reaches⟩ going
    cases rest with
    | nil => exact absurd rfl (reaches.rest_ne_nil ended going)
    | cons head tail =>
      cases head with
      | error fault => exact .error trivial (.error reaches going rfl)
      | ok token =>
        refine .ok () ⟨rfl, done ++ [current], ?_, ?_, ?_⟩
        · rw [reaches.split, List.map_append, List.append_assoc]
          rfl
        · intro found member
          rcases List.mem_append.mp member with member | member
          · exact reaches.going found member
          · rw [List.mem_singleton.mp member]
            exact going
        · simp

/-- A statement that fails leaves a state in which it can be given up. -/
theorem Line.givenUp_of_statement {start line : Line} {fault : SyntaxError} (ended : start.Ended)
    (failed : Reading.statement.run start = (.error fault, line)) : start.GivenUp line := by
  rcases (simulation_reaches ended).statement_related ⟨rfl, [], .refl start⟩ with
    ⟨_, _, left, _, -, givenUp, found, -⟩ | ⟨_, _, _, -, -, found, -⟩
  · cases found.symm.trans failed
    exact givenUp
  · cases found.symm.trans failed

theorem append_stop_inj {front rest : List Lexeme} {done : List Token} {stop last : Token}
    (same : front ++ [.ok stop] = done.map .ok ++ .ok last :: rest)
    (ends : last.endsLine = true) (going : ∀ lexeme ∈ front, Lexeme.endsLine lexeme = false) :
    front = done.map .ok := by
  induction done generalizing front with
  | nil =>
    cases front with
    | nil => rfl
    | cons lexeme front =>
      obtain ⟨rfl, -⟩ := List.cons.inj same
      have goes := going _ List.mem_cons_self
      exact absurd (goes.symm.trans ends) (by decide)
  | cons token done ih =>
    cases front with
    | nil => simp at same
    | cons lexeme front =>
      obtain ⟨rfl, rest⟩ := List.cons.inj same
      rw [ih rest fun lexeme member => going lexeme (List.mem_cons_of_mem _ member)]
      rfl

/-- A closed line that is read without errors is a statement that takes up all of it, from its
first token through its last one, unless it is empty. -/
theorem readLine_of_closed {front : List Lexeme} {stop : Token} (ends : stop.endsLine = true)
    (going : ∀ lexeme ∈ front, Lexeme.endsLine lexeme = false)
    (readable : ∀ fault, .error fault ∉ readLine (front ++ [.ok stop])) :
    (front = [] ∧ readLine (front ++ [.ok stop]) = []) ∨
      ∃ (first : Token) (more : List Token) (operation : Operation),
        front = (first :: more).map .ok ∧ readLine (front ++ [.ok stop]) =
          [.ok ⟨operation, first.span.cover (more.getLastD first).span⟩] := by
  cases front with
  | nil => exact .inl ⟨rfl, by simp [readLine, ends]⟩
  | cons lexeme rest =>
    cases lexeme with
    | error fault => exact absurd List.mem_cons_self (readable fault)
    | ok first =>
      apply Or.inr
      have goes : first.endsLine = false := going _ List.mem_cons_self
      let start : Line := ⟨first, {}, rest ++ [.ok stop]⟩
      have stopped : start.Ended := ⟨.ok stop, by simp [start], ends⟩
      have read : readLine (.ok first :: rest ++ [.ok stop]) =
          [(Reading.statement.run start).1] := by
        rw [List.cons_append, readLine, if_neg (by simp [goes])]
      rw [read] at readable ⊢
      rcases (Line.simulation_reaches stopped).statement_related ⟨rfl, [], .refl start⟩ with
        ⟨fault, _, _, _, -, -, found, -⟩ | ⟨operation, s, t, ⟨-, done, reaches⟩, ended, found, -⟩
      · rw [found] at readable
        exact absurd List.mem_cons_self (readable fault)
      · have split : .ok first :: rest ++ [.ok stop] =
            done.map .ok ++ .ok s.current :: s.rest := reaches.split
        have all := append_stop_inj split ended going
        cases done with
        | nil => cases all
        | cons token more =>
          obtain ⟨same, later⟩ := List.cons.inj all
          cases same
          refine ⟨first, more, operation, by rw [later]; rfl, ?_⟩
          rw [found, reaches.last (more.getLastD first) (by simp [List.getLast?_cons])]

/-! ## Streams of lines -/

theorem results_append {stop : Token} (ends : stop.endsLine = true) (front rest : List Lexeme) :
    results (front ++ .ok stop :: rest) = results (front ++ [.ok stop]) ++ results rest := by
  have ended : Lexeme.endsLine (.ok stop) = true := ends
  rw [results, splitLines_append ended, List.flatMap_append]
  rfl

theorem Cursor.parse_eq_ok_iff (cursor : Cursor) (limit : Nat) (nodes : List Node) :
    cursor.parse limit = .ok nodes ↔ results cursor.lexemes = nodes.map .ok := by
  rw [Cursor.parse, gather_eq_ok_iff]
  exact and_iff_right rfl

/-- Results that are like operations are operations, and the same ones. -/
theorem exists_nodes_of_like {places : Span → Span → Prop} {nodes : List Node}
    {found : List (Except SyntaxError Node)}
    (like : List.Forall₂ (Node.Like places) (nodes.map .ok) found) :
    ∃ others : List Node, found = others.map .ok ∧
      others.map (·.operation) = nodes.map (·.operation) := by
  induction nodes generalizing found with
  | nil =>
    cases like
    exact ⟨[], rfl, rfl⟩
  | cons node nodes ih =>
    cases like with
    | cons head tail =>
      obtain ⟨others, rfl, same⟩ := ih tail
      cases head with
      | @node operation first second last final =>
        exact ⟨⟨operation, second.cover final⟩ :: others, rfl, by simp [same]⟩

/-- Results that are like operations at the same spans are the same. -/
theorem eq_of_like {nodes : List Node} {found : List (Except SyntaxError Node)}
    (like : List.Forall₂ (Node.Like Eq) (nodes.map .ok) found) : found = nodes.map .ok := by
  induction nodes generalizing found with
  | nil =>
    cases like
    rfl
  | cons node nodes ih =>
    cases like with
    | cons head tail =>
      rw [ih tail]
      cases head with
      | node operation starts ends =>
        subst starts ends
        rfl

/-- Tokens in front of an end of the line, of which no reading tells one from another. -/
theorem results_stop_like {places : Span → Span → Prop} (origin : places {} {})
    {front other : List Token} (like : List.Forall₂ (Token.Like places) front other)
    {stop halt : Token} (ends : stop.endsLine = true) (halts : halt.endsLine = true) :
    List.Forall₂ (Node.Like places) (results (front.map .ok ++ [.ok stop]))
      (results (other.map .ok ++ [.ok halt])) := by
  apply results_like origin
  apply List.rel_append
  · rw [List.forall₂_map_left_iff, List.forall₂_map_right_iff]
    exact like.imp fun _ _ => .token
  · exact .cons (.token (.inl ⟨ends, halts⟩)) .nil

theorem Token.like_self {places : Span → Span → Prop} {token : Token}
    (stays : places token.span token.span) : token.Like places token := by
  cases ends : token.endsLine with
  | true => exact .inl ⟨ends, ends⟩
  | false => exact .inr ⟨ends, rfl, rfl, stays⟩

/-- A line of a stream that is read is empty, or holds one statement that takes up all of it. -/
theorem cases_line {front : List Lexeme} {stop : Token} (ends : stop.endsLine = true)
    {nodes : List Node} (read : results (front ++ [.ok stop]) = nodes.map .ok)
    {line : List Lexeme} (member : line ∈ splitLines (front ++ [.ok stop])) :
    (∃ last : Token, line = [.ok last] ∧ readLine line = []) ∨
      ∃ (first : Token) (more : List Token) (last : Token) (operation : Operation),
        line = (first :: more).map .ok ++ [.ok last] ∧ ClosedLine line ∧
        last.endsLine = true ∧
        readLine line = [.ok ⟨operation, first.span.cover (more.getLastD first).span⟩] := by
  have closed := closedLine_of_mem ends front line member
  obtain ⟨own, last, rfl, stops, going⟩ := closed
  have readable : ∀ fault, .error fault ∉ readLine (own ++ [.ok last]) := by
    intro fault wrong
    have there : .error fault ∈ results (front ++ [.ok stop]) :=
      List.mem_flatMap.mpr ⟨_, member, wrong⟩
    simp [read] at there
  rcases readLine_of_closed stops going readable with
    ⟨rfl, none⟩ | ⟨first, more, operation, rfl, found⟩
  · exact .inl ⟨last, rfl, none⟩
  · exact .inr ⟨first, more, last, operation, rfl, ⟨_, last, rfl, stops, going⟩, stops, found⟩

end Custody
