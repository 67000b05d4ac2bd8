import Custody.Proofs.Checks
import Custody.Proofs.Spans

/-!
# Tokens tile their text

The chunks of a text cover it without holes.  So a byte that no token takes up stands in the gap in
front of a token or in the last one, and a gap is made of blanks and of comments that run to the end
of their line.
-/

namespace Custody

/-- A byte among those that a span marks. -/
def Span.Covers (span : Span) (byte : Nat) : Prop :=
  span.offset ≤ byte ∧ byte < span.stop

/-- A part of a text, in front of the rest, that is read as nothing: a blank, or a comment, which
runs to the end of its line. -/
inductive Ignored : List Char → List Char → Prop
  | blank {c : Char} {rest : List Char} (blank : Text.isBlank c = true) (along : c ≠ '\n') :
      Ignored [c] rest
  | comment {text rest : List Char} (along : '\n' ∉ text) (ends : ∀ c ∈ rest.head?, c = '\n') :
      Ignored ('#' :: text) rest

/-! ## Gaps -/

namespace Skips

/-- A gap that ends inside a comment ends with its line. -/
theorem ends_of_inside {gap rest : List Char} (skips : Skips true gap rest) :
    ∀ c ∈ rest.head?, c = '\n' := by
  generalize within : true = inside at skips
  induction skips with
  | done stops =>
    intro c first
    rcases stops c first with newLine | ⟨outside, -⟩
    · exact newLine
    · exact absurd (within.trans outside) (by simp)
  | comment _ _ _ ih => exact ih rfl
  | blank => cases within

/-- Every byte of a gap is one of a blank or of a comment. -/
theorem exists_ignored {gap rest : List Char} (skips : Skips false gap rest) {byte : Nat}
    (inGap : byte < Text.Utf8.width gap) :
    ∃ before part after, gap = before ++ part ++ after ∧ Ignored part (after ++ rest) ∧
      Text.Utf8.width before ≤ byte ∧ byte < Text.Utf8.width (before ++ part) := by
  generalize outside : false = inside at skips
  induction skips generalizing byte with
  | done => exact absurd inGap (Nat.not_lt_zero byte)
  | @comment _ c gap rest _ within more _ =>
    subst outside
    obtain rfl : c = '#' := within.resolve_left Bool.false_ne_true
    exact ⟨[], '#' :: gap, [], by simp, .comment more.newLine_notMem more.ends_of_inside,
      Nat.zero_le _, inGap⟩
  | @blank c gap rest along _ blank more ih =>
    rw [Text.Utf8.width_cons] at inGap
    by_cases first : byte < c.utf8Size
    · exact ⟨[], [c], gap, rfl, .blank blank along, Nat.zero_le _, first⟩
    · have further : byte - c.utf8Size < Text.Utf8.width gap := by omega
      obtain ⟨before, part, after, rfl, ignored, start, stop⟩ := ih further rfl
      refine ⟨c :: before, part, after, rfl, ignored, ?_⟩
      rw [List.cons_append, Text.Utf8.width_cons, Text.Utf8.width_cons]
      omega

end Skips

/-! ## Places of tokens -/

namespace Place

/-- A token of chunks stands behind the chunks in front of its own. -/
theorem exists_chunk_of_mem_tokens {place : Place} {chunks : List Chunk} {token : Token}
    (member : token ∈ place.tokens chunks) :
    ∃ front chunk back, chunks = front ++ chunk :: back ∧
      token = (place.through front).token chunk := by
  induction chunks generalizing place with
  | nil => cases member
  | cons chunk chunks ih =>
    rcases List.mem_cons.mp member with rfl | member
    · exact ⟨[], chunk, chunks, rfl, rfl⟩
    · obtain ⟨front, other, back, rfl, same⟩ := ih member
      exact ⟨chunk :: front, other, back, rfl, same⟩

/-- A token marks its own characters, and its line counts the new lines in front of them. -/
theorem exists_own_of_mem_tokens {place : Place} {chunks : List Chunk} {last : List Char}
    (fit : Chunk.Fit chunks last) {token : Token} (member : token ∈ place.tokens chunks) :
    ∃ before own after, chunks.flatMap Chunk.chars ++ last = before ++ own ++ after ∧
      token.span.offset = place.offset + Text.Utf8.width before ∧
      token.span.length = Text.Utf8.width own ∧
      token.span.line = place.line + before.count '\n' ∧ token.kind ≠ .stop := by
  obtain ⟨front, chunk, back, rfl, rfl⟩ := exists_chunk_of_mem_tokens member
  obtain ⟨inFront, skips, spelled, -⟩ := Chunk.fit_append.mp fit
  refine ⟨front.flatMap Chunk.chars ++ chunk.gap, chunk.own, back.flatMap Chunk.chars ++ last,
    by simp [Chunk.chars], ?_, rfl, ?_, spelled.kind_ne_stop⟩
  · rw [Text.Utf8.width_append, ← Nat.add_assoc, ← through_offset]
    rfl
  · rw [List.count_append, List.count_eq_zero.mpr skips.newLine_notMem, Nat.add_zero,
      ← through_line inFront]
    rfl

/-- A byte that no token of chunks covers is one of a gap, which no token reaches into. -/
theorem exists_gap_of_uncovered {place : Place} {chunks : List Chunk} {last : List Char}
    (fit : Chunk.Fit chunks last) (skips : Skips false last []) {byte : Nat}
    (behind : place.offset ≤ byte)
    (inText : byte < place.offset + Text.Utf8.width (chunks.flatMap Chunk.chars ++ last))
    (uncovered : ∀ token ∈ place.tokens chunks, ¬ token.span.Covers byte) :
    ∃ before gap after, chunks.flatMap Chunk.chars ++ last = before ++ gap ++ after ∧
      Skips false gap after ∧
      place.offset + Text.Utf8.width before ≤ byte ∧
      byte < place.offset + Text.Utf8.width (before ++ gap) ∧
      ∀ token ∈ place.tokens chunks, token.span.stop ≤ place.offset + Text.Utf8.width before ∨
        place.offset + Text.Utf8.width (before ++ gap) ≤ token.span.offset := by
  induction chunks generalizing place with
  | nil => exact ⟨[], last, [], by simp, skips, behind, inText, by simp [tokens]⟩
  | cons chunk chunks ih =>
    obtain ⟨gapSkips, -, fit⟩ := fit
    rw [tokens, List.forall_mem_cons] at uncovered
    by_cases inGap : byte < place.offset + Text.Utf8.width chunk.gap
    · refine ⟨[], chunk.gap, chunk.own ++ (chunks.flatMap Chunk.chars ++ last),
        by simp [Chunk.chars], gapSkips, behind, inGap, ?_⟩
      rw [tokens, List.forall_mem_cons]
      refine ⟨.inr (Nat.le_refl _), fun token member => .inr ?_⟩
      calc place.offset + Text.Utf8.width chunk.gap
          ≤ (place.after chunk).offset := by
            rw [after_offset, Chunk.chars, Text.Utf8.width_append]
            omega
        _ ≤ token.span.offset := offset_le_of_mem_tokens member
    · -- The byte is not one of the chunk's own token either, so it lies behind the chunk.
      have passed : (place.after chunk).offset ≤ byte := by
        rw [← stop_token]
        exact Nat.le_of_not_lt fun before => uncovered.1 ⟨Nat.le_of_not_lt inGap, before⟩
      have reach (part : List Char) : (place.after chunk).offset + Text.Utf8.width part =
          place.offset + Text.Utf8.width (chunk.chars ++ part) := by
        rw [after_offset, Text.Utf8.width_append, Nat.add_assoc]
      rw [List.flatMap_cons, List.append_assoc, ← reach] at inText
      obtain ⟨before, gap, after, text, inside, from_, upTo, apart⟩ :=
        ih fit passed inText uncovered.2
      rw [reach] at from_ upTo
      refine ⟨chunk.chars ++ before, gap, after, ?_, inside, from_, ?_, ?_⟩
      · rw [List.flatMap_cons, List.append_assoc, text]
        simp only [List.append_assoc]
      · rw [List.append_assoc]
        exact upTo
      · rw [tokens, List.forall_mem_cons]
        constructor
        · rw [stop_token, ← reach]
          exact .inl (Nat.le_add_right ..)
        · intro token member
          rw [List.append_assoc, ← reach, ← reach]
          exact apart token member

/-- A byte that no token of chunks covers is one of a blank or of a comment between them. -/
theorem exists_ignored_of_uncovered {place : Place} {chunks : List Chunk} {last : List Char}
    (fit : Chunk.Fit chunks last) (skips : Skips false last []) {byte : Nat}
    (behind : place.offset ≤ byte)
    (inText : byte < place.offset + Text.Utf8.width (chunks.flatMap Chunk.chars ++ last))
    (uncovered : ∀ token ∈ place.tokens chunks, ¬ token.span.Covers byte) :
    ∃ before part after, chunks.flatMap Chunk.chars ++ last = before ++ part ++ after ∧
      Ignored part after ∧
      place.offset + Text.Utf8.width before ≤ byte ∧
      byte < place.offset + Text.Utf8.width (before ++ part) ∧
      ∀ token ∈ place.tokens chunks, token.span.stop ≤ place.offset + Text.Utf8.width before ∨
        place.offset + Text.Utf8.width (before ++ part) ≤ token.span.offset := by
  obtain ⟨front, gap, rest, text, inside, from_, upTo, apart⟩ :=
    exists_gap_of_uncovered fit skips behind inText uncovered
  rw [Text.Utf8.width_append] at upTo
  have inGap : byte - (place.offset + Text.Utf8.width front) < Text.Utf8.width gap := by omega
  obtain ⟨before, part, after, rfl, ignored, start, stop⟩ := inside.exists_ignored inGap
  simp only [Text.Utf8.width_append] at upTo apart stop ⊢
  refine ⟨front ++ before, part, after ++ rest, ?_, ignored, ?_, ?_, ?_⟩
  · rw [text]
    simp only [List.append_assoc]
  · rw [Text.Utf8.width_append]
    omega
  · rw [Text.Utf8.width_append]
    omega
  · intro token member
    rw [Text.Utf8.width_append]
    exact (apart token member).imp (by omega) (by omega)

end Place

/-! ## Texts -/

/-- The tokens of a text are those of its chunks and its end. -/
theorem tokens_of_tokenize {code : String} {tokens : List Token}
    (read : tokenize code = .ok tokens) :
    ∃ chunks gap stop, code.toList = chunks.flatMap Chunk.chars ++ gap ∧ Chunk.Fit chunks gap ∧
      Skips false gap [] ∧ tokens = (⟨1, 0, 0⟩ : Place).tokens chunks ++ [stop] ∧
      stop.kind = .stop ∧ stop.span.offset = Text.Utf8.width code.toList ∧
      stop.span.length = 0 ∧ stop.span.line = 1 + code.toList.count '\n' := by
  have all : tokens.map Except.ok = ((⟨1, 0, 0⟩ : Place).cursor code.toList).lexemes.map id :=
    Check.map_of_mapM_eq_ok read fun found => found.symm
  rw [List.map_id] at all
  have readable : ∀ fault, .error fault ∉ ((⟨1, 0, 0⟩ : Place).cursor code.toList).lexemes := by
    simp [← all]
  obtain ⟨chunks, gap, text, fit, skips⟩ := Place.exists_chunks readable
  rw [text, Place.lexemes_cursor fit, Place.lexemes_gap skips, ← List.map_singleton,
    ← List.map_append] at all
  have same := List.map_injective_iff.mpr (fun _ _ => Except.ok.inj) all
  refine ⟨chunks, gap, _, text, fit, skips, same, rfl, ?_, rfl, ?_⟩
  · rw [text, Text.Utf8.width_append, Place.through_offset, Nat.zero_add]
  · rw [text, List.count_append, List.count_eq_zero.mpr skips.newLine_notMem, Nat.add_zero,
      Place.through_line fit]

/-- The three parts of a text, as texts. -/
theorem eq_ofList_of_split {code : String} {before own after : List Char}
    (text : code.toList = before ++ own ++ after) :
    code = .ofList before ++ .ofList own ++ .ofList after := by
  rw [← String.ofList_append, ← String.ofList_append, ← text, String.ofList_toList]

/-- Tokens that tile a text. -/
structure Tiles (code : String) (tokens : List Token) : Prop where
  /-- Each token ends before the next one begins. -/
  ordered : tokens.Pairwise fun first second =>
    first.span.offset < second.span.offset ∧ first.span.stop ≤ second.span.offset
  /-- A token marks a part of the text, and its line counts the new lines in front of it. -/
  marks : ∀ token ∈ tokens, ∃ before own after : String, code = before ++ own ++ after ∧
    token.span.offset = before.utf8ByteSize ∧ token.span.length = own.utf8ByteSize ∧
    token.span.line = 1 + before.toList.count '\n'
  /-- A byte outside of all tokens is part of a blank or of a comment, which no token reaches. -/
  between : ∀ byte < code.utf8ByteSize, (∀ token ∈ tokens, ¬ token.span.Covers byte) →
    ∃ before part after : String, code = before ++ part ++ after ∧
      Ignored part.toList after.toList ∧
      before.utf8ByteSize ≤ byte ∧ byte < (before ++ part).utf8ByteSize ∧
      ∀ token ∈ tokens, token.span.stop ≤ before.utf8ByteSize ∨
        (before ++ part).utf8ByteSize ≤ token.span.offset
  /-- The last token, and no other one, is the end of the text. -/
  ends : ∃ front stop, tokens = front ++ [stop] ∧ (∀ token ∈ front, token.kind ≠ .stop) ∧
    stop.kind = .stop ∧ stop.span.offset = code.utf8ByteSize ∧ stop.span.length = 0

/-- The tokens of a text tile it: what they leave out is blanks and comments. -/
theorem tokenize_tiles (code : String) {tokens : List Token} (read : tokenize code = .ok tokens) :
    Tiles code tokens := by
  obtain ⟨chunks, gap, stop, text, fit, skips, rfl, kind, offset, length, line⟩ :=
    tokens_of_tokenize read
  have width : Text.Utf8.width code.toList = code.utf8ByteSize := Text.Utf8.width_toList code
  refine ⟨?_, ?_, ?_, _, stop, rfl, ?_, kind, offset.trans width, length⟩
  · have behind : ((⟨1, 0, 0⟩ : Place).through chunks).offset ≤ stop.span.offset := by
      rw [offset, text, Place.through_offset, Text.Utf8.width_append, Nat.zero_add]
      exact Nat.le_add_right ..
    have ordered := Place.pairwise_precedes fit behind
    rw [← List.map_singleton, ← List.map_append, List.pairwise_map] at ordered
    refine ordered.imp ?_
    rintro first second ⟨some, before⟩
    exact ⟨Nat.lt_of_lt_of_le (Nat.lt_add_of_pos_right some) before, before⟩
  · intro token member
    rcases List.mem_append.mp member with member | member
    · obtain ⟨before, own, after, split, offset, length, line, -⟩ :=
        Place.exists_own_of_mem_tokens fit member
      refine ⟨_, _, _, eq_ofList_of_split (text.trans split), ?_, ?_, ?_⟩
      · rw [offset, Nat.zero_add, Text.Utf8.utf8ByteSize_ofList]
      · rw [length, Text.Utf8.utf8ByteSize_ofList]
      · rw [line, String.toList_ofList]
    · obtain rfl := List.mem_singleton.mp member
      exact ⟨code, "", "", by simp, offset.trans width, length, line⟩
  · intro byte inText uncovered
    rw [List.forall_mem_append, List.forall_mem_singleton] at uncovered
    rw [← width, text] at inText
    obtain ⟨before, part, after, split, ignored, from_, upTo, apart⟩ :=
      Place.exists_ignored_of_uncovered fit skips (Nat.zero_le byte) (by simpa using inText)
        uncovered.1
    simp only [Nat.zero_add] at from_ upTo apart
    refine ⟨_, _, _, eq_ofList_of_split (text.trans split), ?_, ?_, ?_, ?_⟩
    · rw [String.toList_ofList, String.toList_ofList]
      exact ignored
    · rw [Text.Utf8.utf8ByteSize_ofList]
      exact from_
    · rw [← String.ofList_append, Text.Utf8.utf8ByteSize_ofList]
      exact upTo
    · simp only [← String.ofList_append, Text.Utf8.utf8ByteSize_ofList, List.forall_mem_append,
        List.forall_mem_singleton]
      refine ⟨apart, .inr ?_⟩
      rw [offset, text, split, Text.Utf8.width_append (before ++ part)]
      exact Nat.le_add_right ..
  · intro token member
    obtain ⟨_, _, _, -, -, -, -, going⟩ := Place.exists_own_of_mem_tokens fit member
    exact going

/-- Two lines with a name and a comment that take more bytes than characters, the mark of a comment
in a string, and a blank above the ASCII block. -/
theorem tokenize_tiles_two_lines :
    ∃ tokens, tokenize "pop é;# ß\n\t\"#\"\u00a0# x" = .ok tokens ∧
      tokens.map Token.span = [⟨1, 0, 0, 3⟩, ⟨1, 4, 4, 2⟩, ⟨1, 6, 6, 1⟩, ⟨1, 10, 11, 1⟩,
        ⟨2, 1, 13, 3⟩, ⟨2, 8, 21, 0⟩] ∧
      Tiles "pop é;# ß\n\t\"#\"\u00a0# x" tokens := by
  have read : tokenize "pop é;# ß\n\t\"#\"\u00a0# x" =
      .ok [⟨.name, ⟨1, 0, 0, 3⟩, "pop"⟩, ⟨.name, ⟨1, 4, 4, 2⟩, "é"⟩, ⟨.lineEnd, ⟨1, 6, 6, 1⟩, ";"⟩,
        ⟨.lineEnd, ⟨1, 10, 11, 1⟩, "\n"⟩, ⟨.string, ⟨2, 1, 13, 3⟩, "#"⟩,
        ⟨.stop, ⟨2, 8, 21, 0⟩, ""⟩] := by decide +kernel
  exact ⟨_, read, rfl, tokenize_tiles _ read⟩

end Custody
