import Custody.Proofs.Streams

/-!
# Where statements stand

The lexer only moves forward, and every token but the last one takes up some of the text.  A
statement ends before the token that closes its line, so it stands apart from those behind it.  Its
span is exact: the part of the text that it marks is the statement and nothing else.
-/

namespace Custody

/-- A token takes up some text and ends before another one begins. -/
def Lexeme.Precedes : Lexeme → Lexeme → Prop
  | .ok first, .ok second => 0 < first.span.length ∧ first.span.stop ≤ second.span.offset
  | _, _ => False

/-- Operations of which one ends before the other begins. -/
def Node.Apart : Except SyntaxError Node → Except SyntaxError Node → Prop
  | .ok first, .ok second => first.span.stop < second.span.offset
  | _, _ => False

theorem Text.Utf8.width_pos {text : List Char} (some : text ≠ []) : 0 < width text := by
  cases text with
  | nil => exact absurd rfl some
  | cons c text => exact Nat.add_pos_left c.utf8Size_pos _

namespace Place

theorem offset_le_of_mem_tokens {place : Place} {chunks : List Chunk} {token : Token}
    (member : token ∈ place.tokens chunks) : place.offset ≤ token.span.offset := by
  induction chunks generalizing place with
  | nil => cases member
  | cons chunk chunks ih =>
    rcases List.mem_cons.mp member with rfl | member
    · exact Nat.le_add_right ..
    · calc place.offset
          ≤ (place.after chunk).offset := by rw [after_offset]; exact Nat.le_add_right ..
        _ ≤ token.span.offset := ih member

/-- The tokens of a text stand one behind the other. -/
theorem pairwise_precedes {place : Place} {chunks : List Chunk} {rest : List Char}
    (fit : Chunk.Fit chunks rest) {stop : Token}
    (behind : (place.through chunks).offset ≤ stop.span.offset) :
    List.Pairwise Lexeme.Precedes ((place.tokens chunks).map .ok ++ [.ok stop]) := by
  induction chunks generalizing place with
  | nil => exact List.pairwise_singleton ..
  | cons chunk chunks ih =>
    obtain ⟨-, spelled, fit⟩ := fit
    have precedes {token : Token} (later : (place.after chunk).offset ≤ token.span.offset) :
        Lexeme.Precedes (.ok (place.token chunk)) (.ok token) :=
      ⟨Text.Utf8.width_pos spelled.ne_nil, place.stop_token chunk ▸ later⟩
    rw [tokens, List.map_cons, List.cons_append, List.pairwise_cons, List.forall_mem_append,
      List.forall_mem_map, List.forall_mem_singleton]
    refine ⟨⟨fun token member => precedes (offset_le_of_mem_tokens member), precedes ?_⟩,
      ih fit behind⟩
    calc (place.after chunk).offset
        ≤ ((place.after chunk).through chunks).offset := by
          rw [through_offset]
          exact Nat.le_add_right ..
      _ ≤ stop.span.offset := behind

end Place

/-- A statement ends before the token that closes its line. -/
theorem stop_cover_le {first last : Token} {more : List Token}
    (ordered : List.Pairwise Lexeme.Precedes ((first :: more).map .ok ++ [.ok last])) :
    (first.span.cover (more.getLastD first).span).stop ≤ last.span.offset := by
  have before : ∀ token ∈ first :: more, token.span.stop ≤ last.span.offset := by
    intro token member
    exact ((List.pairwise_append.mp ordered).2.2 _ (List.mem_map_of_mem member) _
      List.mem_cons_self).2
  rw [Span.cover_stop]
  exact Nat.max_le.mpr ⟨before _ List.getLastD_mem_cons, before first List.mem_cons_self⟩

theorem pairwise_splitLines {lexemes : List Lexeme} (ordered : lexemes.Pairwise Lexeme.Precedes) :
    (∀ line ∈ splitLines lexemes, line.Pairwise Lexeme.Precedes) ∧
      (splitLines lexemes).Pairwise fun line next =>
        ∀ lexeme ∈ line, ∀ later ∈ next, lexeme.Precedes later := by
  rw [← flatten_splitLines lexemes] at ordered
  exact List.pairwise_flatten.mp ordered

/-- The operations of tokens that stand one behind the other do so, too. -/
theorem pairwise_apart {front : List Lexeme} {stop : Token} (ends : stop.endsLine = true)
    (ordered : List.Pairwise Lexeme.Precedes (front ++ [.ok stop])) {nodes : List Node}
    (read : results (front ++ [.ok stop]) = nodes.map .ok) :
    (results (front ++ [.ok stop])).Pairwise Node.Apart := by
  obtain ⟨within, between⟩ := pairwise_splitLines ordered
  refine List.pairwise_flatMap.mpr ⟨?_, between.imp_of_mem ?_⟩
  · intro line member
    rcases cases_line ends read member with ⟨_, -, none⟩ | ⟨_, _, _, _, -, -, -, one⟩
    · rw [none]
      exact .nil
    · rw [one]
      exact List.pairwise_singleton ..
  · intro line next here there apart result inLine other inNext
    rcases cases_line ends read here with
      ⟨_, -, none⟩ | ⟨first, more, last, operation, rfl, -, -, one⟩
    · rw [none] at inLine
      cases inLine
    rcases cases_line ends read there with
      ⟨_, -, none⟩ | ⟨second, others, _, later, rfl, -, -, single⟩
    · rw [none] at inNext
      cases inNext
    rw [one, List.mem_singleton] at inLine
    rw [single, List.mem_singleton] at inNext
    subst inLine inNext
    -- The token that closes the line lies between the two.
    obtain ⟨taken, before⟩ : Lexeme.Precedes (.ok last) (.ok second) :=
      apart _ (List.mem_append_right _ List.mem_cons_self) _ List.mem_cons_self
    calc (first.span.cover (more.getLastD first).span).stop
        ≤ last.span.offset := stop_cover_le (within _ here)
      _ < last.span.stop := Nat.lt_add_of_pos_right taken
      _ ≤ second.span.offset := before

/-- The operations of a text stand apart and in order.  The part of the text that the span of an
operation marks is read as just this operation, and all of it is spanned. -/
theorem statement_spans_exact (code : String) {limit : Nat} {nodes : List Node}
    (read : parse code limit = .ok nodes) :
    nodes.Pairwise (fun first second => first.span.stop < second.span.offset) ∧
      ∀ node ∈ nodes, ∃ before own after : String, code = before ++ own ++ after ∧
        node.span.offset = before.utf8ByteSize ∧ node.span.length = own.utf8ByteSize ∧
        ∀ bound, parse own bound = .ok [⟨node.operation, ⟨1, 0, 0, own.utf8ByteSize⟩⟩] := by
  have start : ((⟨1, 0, 0⟩ : Place).cursor code.toList).parse limit = .ok nodes := read
  constructor
  · obtain ⟨chunks, gap, text, fit, skips⟩ := Place.chunks_of_parse start
    rw [text, Cursor.parse_eq_ok_iff, Place.lexemes_cursor fit, Place.lexemes_gap skips] at start
    have apart := pairwise_apart rfl (Place.pairwise_precedes fit (Nat.le_add_right ..)) start
    rw [start] at apart
    exact List.pairwise_map.mp apart
  · intro node member
    obtain ⟨before, own, after, text, offset, length, -, alone⟩ := Place.parse_points start member
    refine ⟨.ofList before, .ofList own, .ofList after, ?_, ?_, ?_, ?_⟩
    · rw [← String.ofList_append, ← String.ofList_append, ← text, String.ofList_toList]
    · rw [offset, Text.Utf8.utf8ByteSize_ofList, Nat.zero_add]
    · rw [length, Text.Utf8.utf8ByteSize_ofList]
    · rw [Text.Utf8.utf8ByteSize_ofList, ← length]
      exact alone

/-- Statements behind a tab, in front of a comment and on one line, with a name and a string that
take more bytes than characters. -/
theorem statement_spans_exact_three :
    ∃ nodes, parse "\tpush é \"\\\"ß\" # ;\npop é ;\x7d" 0 = .ok nodes ∧
      nodes.map Node.span = [⟨1, 1, 1, 14⟩, ⟨2, 0, 20, 6⟩, ⟨2, 8, 28, 1⟩] ∧
      nodes.Pairwise (fun first second => first.span.stop < second.span.offset) ∧
      ∀ node ∈ nodes, ∃ before own after : String,
        "\tpush é \"\\\"ß\" # ;\npop é ;\x7d" = before ++ own ++ after ∧
        node.span.offset = before.utf8ByteSize ∧ node.span.length = own.utf8ByteSize ∧
        ∀ bound, parse own bound = .ok [⟨node.operation, ⟨1, 0, 0, own.utf8ByteSize⟩⟩] := by
  have read : parse "\tpush é \"\\\"ß\" # ;\npop é ;\x7d" 0 =
      .ok [⟨.push "é" (.value (.string "\"ß")) none none, ⟨1, 1, 1, 14⟩⟩,
        ⟨.pop "é" none, ⟨2, 0, 20, 6⟩⟩, ⟨.exitScope, ⟨2, 8, 28, 1⟩⟩] := by decide +kernel
  exact ⟨_, read, rfl, statement_spans_exact _ read⟩

end Custody
