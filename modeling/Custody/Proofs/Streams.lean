import Custody.Proofs.Lexing
import Custody.Proofs.Lines

/-!
# Texts as streams

A text that is read without errors is read the same way wherever it stands, and a line break lets
the lines before and behind it be read on their own.  Each operation has the span of its own part
of the text.
-/

namespace Custody

theorem Text.Utf8.utf8ByteSize_ofList (text : List Char) :
    (String.ofList text).utf8ByteSize = width text := by
  induction text with
  | nil => rfl
  | cons c text ih =>
    rw [String.ofList_cons, String.utf8ByteSize_append, ih, String.utf8ByteSize_singleton]
    rfl

theorem Text.Utf8.width_toList (text : String) : width text.toList = text.utf8ByteSize := by
  rw [← utf8ByteSize_ofList, String.ofList_toList]

theorem Sourced.exists_stop {lexemes : List Lexeme} (sourced : Sourced lexemes) :
    ∃ front stop, lexemes = front ++ [.ok stop] ∧ stop.endsLine = true := by
  induction sourced with
  | @stop token stops => exact ⟨[], token, rfl, by simp [Token.endsLine, stops]⟩
  | @token token _ _ _ ih =>
    obtain ⟨front, stop, rfl, ends⟩ := ih
    exact ⟨.ok token :: front, stop, rfl, ends⟩
  | @error fault _ _ ih =>
    obtain ⟨front, stop, rfl, ends⟩ := ih
    exact ⟨.error fault :: front, stop, rfl, ends⟩

/-- The lexemes of a text end with the end of the source. -/
theorem Cursor.exists_stop (cursor : Cursor) :
    ∃ front stop, cursor.lexemes = front ++ [.ok stop] ∧ stop.endsLine = true :=
  cursor.lexemes_sourced.exists_stop

namespace Place

/-- A text that is read without errors is made of chunks and a last gap. -/
theorem chunks_of_parse {place : Place} {text : List Char} {limit : Nat} {nodes : List Node}
    (read : (place.cursor text).parse limit = .ok nodes) :
    ∃ chunks gap, text = chunks.flatMap Chunk.chars ++ gap ∧ Chunk.Fit chunks gap ∧
      Skips false gap [] := by
  apply exists_chunks
  intro fault member
  obtain ⟨front, stop, split, ends⟩ := (place.cursor text).exists_stop
  rw [Cursor.parse_eq_ok_iff, split] at read
  rw [← flatten_splitLines (place.cursor text).lexemes, split, List.mem_flatten] at member
  obtain ⟨line, found, member⟩ := member
  rcases cases_line ends read found with ⟨last, rfl, -⟩ | ⟨first, more, last, _, rfl, -⟩
  · simp at member
  · simp at member

/-- The lexemes of a text that is made of chunks and a last gap. -/
theorem lexemes_chunks {chunks : List Chunk} {gap : List Char} (fit : Chunk.Fit chunks gap)
    (skips : Skips false gap []) (place : Place) :
    ∃ stop, (place.cursor (chunks.flatMap Chunk.chars ++ gap)).lexemes =
      (place.tokens chunks).map .ok ++ [.ok stop] ∧ stop.endsLine = true := by
  rw [lexemes_cursor fit, lexemes_gap skips]
  exact ⟨_, rfl, rfl⟩

theorem token_like (place other : Place) {chunk bare : Chunk} (kind : chunk.kind = bare.kind)
    (text : chunk.text = bare.text) :
    (place.token chunk).Like (fun _ _ => True) (other.token bare) := by
  have same : (place.token chunk).kind = (other.token bare).kind := kind
  cases ends : (place.token chunk).endsLine with
  | true => exact .inl ⟨ends, Token.endsLine_congr same ▸ ends⟩
  | false => exact .inr ⟨ends, same, congrArg String.ofList text, trivial⟩

/-- The tokens of chunks have the same kinds and texts everywhere. -/
theorem tokens_like (place other : Place) (chunks : List Chunk) :
    List.Forall₂ (Token.Like fun _ _ => True) (place.tokens chunks) (other.tokens chunks) := by
  induction chunks generalizing place other with
  | nil => exact .nil
  | cons chunk chunks ih => exact .cons (token_like place other rfl rfl) (ih _ _)

theorem parse_nil (place : Place) (limit : Nat) : (place.cursor []).parse limit = .ok [] := by
  rw [Cursor.parse_eq_ok_iff, lexemes_gap (.done (by simp))]
  rfl

theorem parse_ofList (text : List Char) (limit : Nat) :
    parse (String.ofList text) limit = ((⟨1, 0, 0⟩ : Place).cursor text).parse limit := by
  rw [parse, Cursor.ofString, Cursor.startingAt, String.toList_ofList]
  rfl

/-- Where a text stands has no influence on its operations. -/
theorem parse_elsewhere {place : Place} {text : List Char} {limit : Nat} {nodes : List Node}
    (read : (place.cursor text).parse limit = .ok nodes) (other : Place) (bound : Nat) :
    ∃ again : List Node, (other.cursor text).parse bound = .ok again ∧
      again.map (·.operation) = nodes.map (·.operation) := by
  obtain ⟨chunks, gap, rfl, fit, skips⟩ := chunks_of_parse read
  obtain ⟨stop, here, ends⟩ := lexemes_chunks fit skips place
  obtain ⟨halt, there, halts⟩ := lexemes_chunks fit skips other
  have like := results_stop_like trivial (tokens_like place other chunks) ends halts
  rw [Cursor.parse_eq_ok_iff, here] at read
  rw [read] at like
  obtain ⟨again, found, same⟩ := exists_nodes_of_like like
  exact ⟨again, by rw [Cursor.parse_eq_ok_iff, there, found], same⟩

/-- The place behind a line. -/
def nextLine (place : Place) (text : List Char) : Place :=
  ⟨place.line + text.count '\n' + 1, 0, place.offset + Text.Utf8.width text + 1⟩

theorem through_append (place : Place) (chunks more : List Chunk) :
    place.through (chunks ++ more) = (place.through chunks).through more :=
  List.foldl_append

theorem through_lineBreak {chunks : List Chunk} {gap : List Char} (fit : Chunk.Fit chunks gap)
    (skips : Skips false gap []) (place : Place) :
    place.through (chunks ++ [.lineBreak gap]) =
      place.nextLine (chunks.flatMap Chunk.chars ++ gap) := by
  have step : (place.through chunks).through [.lineBreak gap] =
      ⟨(place.through chunks).line + 1, 0,
        (place.through chunks).offset + Text.Utf8.width gap + 1⟩ := rfl
  have along := List.count_eq_zero.mpr skips.newLine_notMem
  rw [through_append, step, through_line fit, through_offset, nextLine, List.count_append,
    Text.Utf8.width_append, along, Nat.add_assoc place.offset]
  rfl

/-- The operations of a line and of what is behind it are those of the whole text. -/
theorem parse_newLine {place : Place} {text tail : List Char} {limit bound : Nat}
    {nodes more : List Node} (read : (place.cursor text).parse limit = .ok nodes)
    (later : ((place.nextLine text).cursor tail).parse bound = .ok more) :
    (place.cursor (text ++ '\n' :: tail)).parse bound = .ok (nodes ++ more) := by
  obtain ⟨chunks, gap, rfl, fit, skips⟩ := chunks_of_parse read
  obtain ⟨stop, here, ends⟩ := lexemes_chunks fit skips place
  rw [Cursor.parse_eq_ok_iff] at read later ⊢
  -- A line break ends the line just as the end of the source does.
  let newLine := (place.through chunks).token (.lineBreak gap)
  have breaks : newLine.endsLine = true := rfl
  have same : List.Forall₂ (Token.Like Eq) (place.tokens chunks) (place.tokens chunks) :=
    List.forall₂_same.mpr fun _ _ => Token.like_self rfl
  have like := results_stop_like rfl same ends breaks
  rw [← here, read] at like
  have chars : chunks.flatMap Chunk.chars ++ gap ++ '\n' :: tail =
      (chunks ++ [Chunk.lineBreak gap]).flatMap Chunk.chars ++ tail := by
    simp [Chunk.lineBreak, Chunk.chars]
  rw [chars, lexemes_cursor (fit.newLine skips tail), through_lineBreak fit skips, tokens_append,
    List.map_append, List.append_assoc]
  calc results ((place.tokens chunks).map .ok ++ .ok newLine ::
        ((place.nextLine (chunks.flatMap Chunk.chars ++ gap)).cursor tail).lexemes)
      = nodes.map .ok ++ more.map .ok := by rw [results_append breaks, eq_of_like like, later]
    _ = (nodes ++ more).map .ok := by rw [List.map_append]

end Place

/-! ## Where operations stand -/

/-- A span that tells where a part of a text stands. -/
def Span.Marks (span : Span) (text own : List Char) : Prop :=
  ∃ before after, text = before ++ own ++ after ∧ span.offset = Text.Utf8.width before ∧
    span.length = Text.Utf8.width own ∧ span.line = 1 + before.count '\n'

theorem exists_append_of_mem_splitLines {lexemes line : List Lexeme}
    (member : line ∈ splitLines lexemes) : ∃ front rest, lexemes = front ++ (line ++ rest) := by
  obtain ⟨before, after, split⟩ := List.append_of_mem member
  refine ⟨before.flatten, after.flatten, ?_⟩
  rw [← flatten_splitLines lexemes, split, List.flatten_append, List.flatten_cons]

namespace Place

/-- Tokens in front of an end of a line are those of some chunks. -/
theorem exists_chunks_of_start {place : Place} {chunks : List Chunk} {stop last : Token}
    {done : List Token} {rest : List Lexeme}
    (same : (place.tokens chunks).map .ok ++ [.ok stop] = done.map .ok ++ .ok last :: rest) :
    ∃ middle after, chunks = middle ++ after ∧ done = place.tokens middle := by
  induction done generalizing place chunks with
  | nil => exact ⟨[], chunks, rfl, rfl⟩
  | cons token done ih =>
    cases chunks with
    | nil => simp [tokens] at same
    | cons chunk chunks =>
      obtain ⟨first, same⟩ := List.cons.inj same
      obtain ⟨middle, after, rfl, rfl⟩ := ih same
      cases first
      exact ⟨chunk :: middle, after, rfl, rfl⟩

theorem exists_chunks_of_part {place : Place} {chunks : List Chunk} {stop last : Token}
    {done : List Token} {front rest : List Lexeme}
    (same : (place.tokens chunks).map .ok ++ [.ok stop] =
      front ++ (done.map .ok ++ .ok last :: rest)) :
    ∃ before middle after, chunks = before ++ (middle ++ after) ∧
      done = (place.through before).tokens middle := by
  induction front generalizing place chunks with
  | nil =>
    obtain ⟨middle, after, split, found⟩ := exists_chunks_of_start same
    exact ⟨[], middle, after, split, found⟩
  | cons lexeme front ih =>
    cases chunks with
    | nil => simp [tokens] at same
    | cons chunk chunks =>
      obtain ⟨-, same⟩ := List.cons.inj same
      obtain ⟨before, middle, after, rfl, found⟩ := ih same
      exact ⟨chunk :: before, middle, after, rfl, found⟩

theorem stop_token (place : Place) (chunk : Chunk) :
    (place.token chunk).span.stop = (place.after chunk).offset := by
  rw [after_offset, Chunk.chars, Text.Utf8.width_append, ← Nat.add_assoc]
  rfl

/-- The last token of chunks ends where they end. -/
theorem stop_getLastD (place : Place) (chunk : Chunk) (chunks : List Chunk) :
    (((place.after chunk).tokens chunks).getLastD (place.token chunk)).span.stop =
      (place.through (chunk :: chunks)).offset := by
  induction chunks generalizing place chunk with
  | nil => exact place.stop_token chunk
  | cons next chunks ih =>
    rw [tokens, List.getLastD_cons]
    exact ih (place.after chunk) next

/-- The span from the first token of chunks through their last one. -/
theorem cover_tokens (place : Place) (chunk : Chunk) (chunks : List Chunk) :
    (place.token chunk).span.cover
        (((place.after chunk).tokens chunks).getLastD (place.token chunk)).span =
      ⟨place.line, place.column + chunk.gap.length, place.offset + Text.Utf8.width chunk.gap,
        Text.Utf8.width (chunk.own ++ chunks.flatMap Chunk.chars)⟩ := by
  have first : (place.token chunk).span.stop =
      place.offset + Text.Utf8.width chunk.gap + Text.Utf8.width chunk.own := rfl
  have last := place.stop_getLastD chunk chunks
  rw [through_offset, List.flatMap_cons, Chunk.chars, Text.Utf8.width_append,
    Text.Utf8.width_append] at last
  rw [Span.cover, last, first, Text.Utf8.width_append]
  simp only [token, Span.mk.injEq, true_and]
  omega

theorem going_tokens {place : Place} {chunks : List Chunk}
    (going : ∀ token ∈ place.tokens chunks, token.endsLine = false) (other : Place) :
    ∀ token ∈ other.tokens chunks, token.endsLine = false := by
  induction chunks generalizing place other with
  | nil => simp [tokens]
  | cons chunk chunks ih =>
    rw [tokens, List.forall_mem_cons] at going ⊢
    exact ⟨going.1, ih going.2 _⟩

/-- The tokens of one line are read as one operation, which spans them. -/
theorem eq_singleton_of_going {place : Place} {chunk : Chunk} {chunks : List Chunk}
    (going : ∀ token ∈ place.tokens (chunk :: chunks), token.endsLine = false) {last : Token}
    (stops : last.endsLine = true) {nodes : List Node}
    (read : results ((place.tokens (chunk :: chunks)).map .ok ++ [.ok last]) = nodes.map .ok) :
    ∃ operation, nodes = [⟨operation, ⟨place.line, place.column + chunk.gap.length,
      place.offset + Text.Utf8.width chunk.gap,
      Text.Utf8.width (chunk.own ++ chunks.flatMap Chunk.chars)⟩⟩] := by
  have goes : ∀ lexeme ∈ (place.tokens (chunk :: chunks)).map .ok,
      Lexeme.endsLine lexeme = false := List.forall_mem_map.mpr going
  have closed : ClosedLine ((place.tokens (chunk :: chunks)).map .ok ++ [.ok last]) :=
    ⟨_, last, rfl, stops, goes⟩
  rw [results, closed.splitLines_eq, List.flatMap_singleton] at read
  rcases readLine_of_closed stops goes (by simp [read]) with
    ⟨none, -⟩ | ⟨first, more, operation, same, found⟩
  · cases none
  · obtain ⟨rfl, rfl⟩ := List.cons.inj
      (List.map_injective_iff.mpr (fun _ _ => Except.ok.inj) same)
    rw [read, cover_tokens] at found
    exact ⟨operation, List.map_injective_iff.mpr (fun _ _ => Except.ok.inj) found⟩

/-- The text of a statement, from its first token on, is read as the statement, and spanned by
it. -/
theorem parse_own {chunk : Chunk} {chunks : List Chunk} {rest : List Char}
    (fit : Chunk.Fit (chunk :: chunks) rest) {place : Place}
    (going : ∀ token ∈ place.tokens (chunk :: chunks), token.endsLine = false) {last : Token}
    (stops : last.endsLine = true) {node : Node}
    (one : results ((place.tokens (chunk :: chunks)).map .ok ++ [.ok last]) = [node].map .ok)
    (limit : Nat) :
    parse (String.ofList (chunk.own ++ chunks.flatMap Chunk.chars)) limit = .ok [⟨node.operation,
      ⟨1, 0, 0, Text.Utf8.width (chunk.own ++ chunks.flatMap Chunk.chars)⟩⟩] := by
  let bare : Chunk := { chunk with gap := [] }
  let start : Place := ⟨1, 0, 0⟩
  have skips : Skips false [] [] := .done (by simp)
  obtain ⟨halt, lexemes, halts⟩ := lexemes_chunks fit.without_gap.rest_nil skips start
  have tokens : List.Forall₂ (Token.Like fun _ _ => True) (place.tokens (chunk :: chunks))
      (start.tokens (bare :: chunks)) :=
    .cons (token_like place start rfl rfl) (tokens_like _ _ chunks)
  have like := results_stop_like trivial tokens stops halts
  rw [one] at like
  obtain ⟨nodes, read, operations⟩ := exists_nodes_of_like like
  obtain ⟨head, tail⟩ := List.forall_mem_cons.mp going
  have goes : ∀ token ∈ start.tokens (bare :: chunks), token.endsLine = false :=
    List.forall_mem_cons.mpr ⟨head, going_tokens tail _⟩
  obtain ⟨operation, rfl⟩ := eq_singleton_of_going goes halts read
  obtain rfl : operation = node.operation := (List.cons.inj operations).1
  rw [parse_ofList, Cursor.parse_eq_ok_iff]
  rw [List.flatMap_cons, List.append_nil] at lexemes
  exact (congrArg results lexemes).trans read

/-- An operation of a text was read from some of its chunks. -/
theorem chunks_of_node {place : Place} {chunks : List Chunk} {stop : Token}
    (ends : stop.endsLine = true) {nodes : List Node}
    (read : results ((place.tokens chunks).map .ok ++ [.ok stop]) = nodes.map .ok) {node : Node}
    (member : node ∈ nodes) :
    ∃ before chunk middle after last, chunks = before ++ (chunk :: middle ++ after) ∧
      (∀ token ∈ (place.through before).tokens (chunk :: middle), token.endsLine = false) ∧
      last.endsLine = true ∧
      results (((place.through before).tokens (chunk :: middle)).map .ok ++ [.ok last]) =
        [node].map .ok := by
  have listed : .ok node ∈ results ((place.tokens chunks).map .ok ++ [.ok stop]) := by
    rw [read]
    exact List.mem_map_of_mem member
  obtain ⟨line, here, found⟩ := List.mem_flatMap.mp listed
  rcases cases_line ends read here with
    ⟨-, -, none⟩ | ⟨first, more, last, operation, rfl, closed, stops, one⟩
  · rw [none] at found
    cases found
  · obtain ⟨front, rest, split⟩ := exists_append_of_mem_splitLines here
    rw [List.append_assoc] at split
    obtain ⟨before, middle, after, rfl, tokens⟩ := exists_chunks_of_part split
    cases middle with
    | nil => cases tokens
    | cons chunk middle =>
      refine ⟨before, chunk, middle, after, last, rfl, tokens ▸ closed.going, stops, ?_⟩
      rw [← tokens, results, closed.splitLines_eq, List.flatMap_singleton]
      rw [one, List.mem_singleton] at found
      rw [one, ← found]
      rfl

/-- Each operation of a text has the span of the part of the text that it was read from, and that
part alone is read as the operation and spanned by it. -/
theorem parse_points {place : Place} {text : List Char} {limit : Nat} {nodes : List Node}
    (read : (place.cursor text).parse limit = .ok nodes) {node : Node} (member : node ∈ nodes) :
    ∃ before own after, text = before ++ own ++ after ∧
      node.span.offset = place.offset + Text.Utf8.width before ∧
      node.span.length = Text.Utf8.width own ∧
      node.span.line = place.line + before.count '\n' ∧
      ∀ bound, parse (String.ofList own) bound =
        .ok [⟨node.operation, ⟨1, 0, 0, node.span.length⟩⟩] := by
  obtain ⟨chunks, gap, rfl, fit, skips⟩ := chunks_of_parse read
  obtain ⟨stop, lexemes, ends⟩ := lexemes_chunks fit skips place
  rw [Cursor.parse_eq_ok_iff, lexemes] at read
  obtain ⟨before, chunk, middle, after, last, rfl, going, stops, one⟩ :=
    chunks_of_node ends read member
  obtain ⟨operation, same⟩ := eq_singleton_of_going going stops one
  obtain rfl := List.singleton_inj.mp same
  rw [Chunk.fit_append, Chunk.fit_append] at fit
  obtain ⟨fitBefore, fitMiddle, -⟩ := fit
  have along := List.count_eq_zero.mpr fitMiddle.1.newLine_notMem
  refine ⟨before.flatMap Chunk.chars ++ chunk.gap, chunk.own ++ middle.flatMap Chunk.chars,
    after.flatMap Chunk.chars ++ gap, ?_, ?_, rfl, ?_, parse_own fitMiddle going stops one⟩
  · simp [Chunk.chars]
  · rw [through_offset, Text.Utf8.width_append (before.flatMap Chunk.chars), Nat.add_assoc]
  · rw [through_line fitBefore, List.count_append, along]
    rfl

end Place

end Custody
