import Custody.Proofs.Spelling

/-!
# Lexemes of a text

The lexer moves on with every lexeme, so the lexemes of a text are the first one and those behind
it.  A text without errors is made of chunks, which are tokens with the gaps in front of them.  Its
tokens are those of the chunks, each at the place where its chunk stands, and what a chunk is read
as depends on no place.
-/

namespace Custody

/-! ## Progress -/

namespace StringScan

/-- What follows the string, or the error in it. -/
def rest : StringScan → List Char
  | .closed _ _ rest => rest
  | .unterminated rest => rest
  | .badEscape _ _ rest => rest

theorem rest_cons (c : Char) (width : Nat) (found : StringScan) :
    (found.cons c width).rest = found.rest := by
  cases found <;> rfl

theorem rest_scan_suffix (input : List Char) : (scan input).rest <:+ input := by
  fun_induction scan input with
  | case1 => exact List.suffix_refl _
  | case4 => exact List.nil_suffix
  | case5 letter after meant known _ _ ih =>
    rw [rest_cons]
    exact ih.trans (List.suffix_append ['\\', letter] after)
  | case6 letter after => exact List.suffix_append ['\\', letter] after
  | case7 c after _ _ _ ih =>
    rw [rest_cons]
    exact ih.trans (List.suffix_cons c after)
  | _ => exact List.suffix_cons ..

end StringScan

theorem DigitRun.rest_scan_suffix (before : Bool) (input : List Char) :
    (scan before input).rest <:+ input := by
  obtain ⟨own, text, after, rest, rfl, digits⟩ := Digits.exists_split before input
  rw [digits.scan_eq]
  exact List.suffix_append own rest

namespace Cursor

theorem readBytes_suffix (cursor : Cursor) (mark : Nat) (input : List Char) :
    (cursor.readBytes mark input).2.rest <:+ input := by
  unfold readBytes
  dsimp only
  split <;> exact List.dropWhile_suffix _

theorem rest_readNumber {input : List Char} (plain : ∀ tail, input ≠ '0' :: 'x' :: tail)
    (cursor : Cursor) (sign : List Char) :
    (cursor.readNumber sign input).2.rest = (DigitRun.scan false input).rest := by
  rw [readNumber_plain plain]
  dsimp only
  split <;> rfl

theorem readNumber_suffix (cursor : Cursor) (sign input : List Char) :
    (cursor.readNumber sign input).2.rest <:+ input := by
  by_cases marked : ∃ tail, input = '0' :: 'x' :: tail
  · obtain ⟨tail, rfl⟩ := marked
    exact (cursor.readBytes_suffix _ tail).trans (List.suffix_append ['0', 'x'] tail)
  · rw [rest_readNumber (not_exists.mp marked)]
    exact DigitRun.rest_scan_suffix ..

theorem readNumber_digit_suffix {c : Char} (digit : c.isDigit = true) (cursor : Cursor)
    (sign input : List Char) :
    (cursor.readNumber sign (c :: input)).2.rest <:+ input := by
  by_cases marked : ∃ tail, c :: input = '0' :: 'x' :: tail
  · obtain ⟨tail, same⟩ := marked
    obtain ⟨rfl, rfl⟩ := List.cons.inj same
    exact (cursor.readBytes_suffix _ tail).trans (List.suffix_cons 'x' tail)
  · rw [rest_readNumber (not_exists.mp marked), DigitRun.scan, if_pos digit]
    exact DigitRun.rest_scan_suffix ..

theorem readString_suffix (cursor : Cursor) (input : List Char) :
    (cursor.readString input).2.rest <:+ input := by
  have behind := StringScan.rest_scan_suffix input
  unfold readString
  split <;> rename_i found <;> rw [found] at behind <;> exact behind

/-- The lexeme that begins with a character takes at least that one. -/
theorem readFrom_suffix (cursor : Cursor) (c : Char) (input : List Char) :
    (cursor.readFrom c input).2.rest <:+ input := by
  unfold readFrom
  split
  · exact List.suffix_refl _
  split
  · exact List.suffix_refl _
  split
  · exact readString_suffix ..
  split
  · split
    · exact List.suffix_cons ..
    · exact List.suffix_refl _
  split
  · split
    · exact List.suffix_cons ..
    · exact List.suffix_refl _
  split
  · exact readNumber_suffix ..
  split
  · rename_i digit
    exact readNumber_digit_suffix digit ..
  split
  · exact List.dropWhile_suffix _
  · exact List.suffix_refl _

/-- The cursor behind a gap. -/
def skip (cursor : Cursor) (gap rest : List Char) : Cursor :=
  cursor.advance rest gap.length (Text.Utf8.width gap)

theorem skipBlanks_eq {gap rest : List Char} (skips : Skips false gap rest) {cursor : Cursor}
    (split : cursor.rest = gap ++ rest) : cursor.skipBlanks = cursor.skip gap rest := by
  rw [skipBlanks, split, skips.skipFrom_eq]
  rfl

theorem next_stop {gap : List Char} (skips : Skips false gap []) {cursor : Cursor}
    (split : cursor.rest = gap) :
    cursor.next = (.ok ⟨.stop, (cursor.skip gap []).span 0, ""⟩, cursor.skip gap []) := by
  rw [next, skipBlanks_eq skips (by rw [split, List.append_nil])]
  rfl

theorem next_readFrom {c : Char} {gap more : List Char} (skips : Skips false gap (c :: more))
    {cursor : Cursor} (split : cursor.rest = gap ++ c :: more) :
    cursor.next = (cursor.skip gap (c :: more)).readFrom c more := by
  rw [next, skipBlanks_eq skips split]
  rfl

/-- A cursor only moves forward. -/
theorem next_suffix (cursor : Cursor) : cursor.next.2.rest <:+ cursor.rest := by
  obtain ⟨gap, rest, split, skips⟩ := Skips.exists_split false cursor.rest
  cases rest with
  | nil =>
    rw [next_stop skips (by rw [split, List.append_nil])]
    exact List.nil_suffix
  | cons c more =>
    rw [next_readFrom skips split, split]
    exact (readFrom_suffix ..).trans ((List.suffix_cons c more).trans (List.suffix_append gap _))

/-- A call takes characters, unless it finds the end of the source and only blanks and comments are
left. -/
theorem next_takes (cursor : Cursor) :
    (∃ own, own ≠ [] ∧ cursor.rest = own ++ cursor.next.2.rest) ∨
      (∃ span, cursor.next.1 = .ok ⟨.stop, span, ""⟩) ∧ Skips false cursor.rest [] := by
  obtain ⟨gap, rest, split, skips⟩ := Skips.exists_split false cursor.rest
  cases rest with
  | nil =>
    rw [List.append_nil] at split
    rw [next_stop skips split, split]
    exact .inr ⟨⟨_, rfl⟩, skips⟩
  | cons c more =>
    rw [next_readFrom skips split]
    obtain ⟨own, same⟩ := readFrom_suffix (cursor.skip gap (c :: more)) c more
    refine .inl ⟨gap ++ c :: own, by simp, ?_⟩
    rw [split, List.append_assoc, List.cons_append, same]

/-- A cursor at the end of its source stays there; any other one moves on. -/
theorem next_progress (cursor : Cursor) :
    (∃ span, cursor.next.1 = .ok ⟨.stop, span, ""⟩) ∨
      cursor.next.2.rest.length < cursor.rest.length := by
  rcases cursor.next_takes with ⟨own, taken, split⟩ | ⟨ended, -⟩
  · have := List.length_pos_of_ne_nil taken
    rw [split, List.length_append]
    exact .inr (by omega)
  · exact .inl ended

/-- A bound above the number of characters leaves out nothing. -/
theorem lexemesWithin_eq {bound other : Nat} {cursor : Cursor}
    (enough : cursor.rest.length < bound) (sufficient : cursor.rest.length < other) :
    lexemesWithin bound cursor = lexemesWithin other cursor := by
  induction bound generalizing other cursor with
  | zero => exact absurd enough (Nat.not_lt_zero _)
  | succ bound ih =>
    cases other with
    | zero => exact absurd sufficient (Nat.not_lt_zero _)
    | succ other =>
      unfold lexemesWithin
      have progress := cursor.next_progress
      cases read : cursor.next with
      | mk lexeme after =>
        rw [read] at progress
        have more (shorter : after.rest.length < cursor.rest.length) :
            lexemesWithin bound after = lexemesWithin other after :=
          ih (by omega) (by omega)
        cases lexeme with
        | ok token =>
          by_cases stopped : token.kind = .stop
          · simp only [stopped, if_true]
          · cases progress with
            | inl found =>
              obtain ⟨span, same⟩ := found
              cases same
              exact absurd rfl stopped
            | inr shorter => simp only [stopped, if_false, more shorter]
        | error fault =>
          cases progress with
          | inl found =>
            obtain ⟨span, same⟩ := found
            cases same
          | inr shorter => simp only [more shorter]

/-- The lexemes of a text are the first one and those behind it. -/
theorem lexemes_eq (cursor : Cursor) :
    cursor.lexemes =
      match cursor.next with
      | (.ok token, after) =>
        if token.kind = .stop then [.ok token] else .ok token :: after.lexemes
      | (.error fault, after) => .error fault :: after.lexemes := by
  have progress := cursor.next_progress
  unfold lexemes
  rw [lexemesWithin]
  cases read : cursor.next with
  | mk lexeme after =>
    rw [read] at progress
    cases progress with
    | inl found =>
      obtain ⟨span, same⟩ := found
      cases same
      rfl
    | inr shorter =>
      have more := lexemesWithin_eq shorter (Nat.lt_succ_self after.rest.length)
      cases lexeme <;> simp only [more]

/-- A lexeme that is not the end of the source stands in front of those behind it. -/
theorem lexemes_of_next {cursor after : Cursor} {lexeme : Lexeme}
    (read : cursor.next = (lexeme, after))
    (going : ∀ token, lexeme = .ok token → token.kind ≠ .stop) :
    cursor.lexemes = lexeme :: after.lexemes := by
  rw [lexemes_eq, read]
  cases lexeme with
  | error fault => rfl
  | ok token =>
    have goes := going token rfl
    simp only [goes, if_false]

theorem mem_lexemes_of_next {cursor : Cursor} {fault : SyntaxError}
    (error : cursor.next.1 = .error fault) : .error fault ∈ cursor.lexemes := by
  rw [lexemes_eq]
  cases read : cursor.next with
  | mk lexeme after =>
    rw [read] at error
    cases error
    exact List.mem_cons_self

end Cursor

/-- Lexemes of which the last one, and no other one, is the end of the source. -/
inductive Sourced : List Lexeme → Prop
  | stop {token : Token} (stops : token.kind = .stop) : Sourced [.ok token]
  | token {token : Token} {rest : List Lexeme} (goes : token.kind ≠ .stop) (more : Sourced rest) :
      Sourced (.ok token :: rest)
  | error {fault : SyntaxError} {rest : List Lexeme} (more : Sourced rest) :
      Sourced (.error fault :: rest)

namespace Sourced

variable {token : Token} {rest : List Lexeme}

theorem rest_nil (sourced : Sourced (.ok token :: rest)) (stops : token.kind = .stop) :
    rest = [] := by
  cases sourced with
  | stop => rfl
  | token goes => exact absurd stops goes

theorem tail (sourced : Sourced (.ok token :: rest)) (goes : token.kind ≠ .stop) :
    Sourced rest := by
  cases sourced with
  | stop stops => exact absurd stops goes
  | token _ more => exact more

theorem of_append {front : List Lexeme} {lexeme : Lexeme}
    (sourced : Sourced (front ++ lexeme :: rest)) : Sourced (lexeme :: rest) := by
  induction front with
  | nil => exact sourced
  | cons head front ih =>
    rw [List.cons_append] at sourced
    generalize split : front ++ lexeme :: rest = later at sourced
    cases sourced with
    | stop => simp at split
    | token _ more => exact ih (split ▸ more)
    | error more => exact ih (split ▸ more)

end Sourced

theorem Cursor.lexemes_sourced (cursor : Cursor) : Sourced cursor.lexemes := by
  induction length : cursor.rest.length using Nat.strongRecOn generalizing cursor with
  | ind size ih =>
    rw [lexemes_eq]
    have progress := cursor.next_progress
    cases read : cursor.next with
    | mk lexeme after =>
      rw [read] at progress
      cases progress with
      | inl found =>
        obtain ⟨span, same⟩ := found
        cases same
        exact .stop rfl
      | inr shorter =>
        have more := ih _ (length ▸ shorter) after rfl
        cases lexeme with
        | error fault => exact .error more
        | ok token =>
          by_cases stops : token.kind = .stop
          · simpa only [stops, if_true] using .stop stops
          · simpa only [stops, if_false] using .token stops more

/-! ## Texts as chunks -/

/-- A token as it stands in a text, with the gap in front of it. -/
structure Chunk where
  gap : List Char
  own : List Char
  kind : Token.Kind
  text : List Char
  deriving DecidableEq, Repr

namespace Chunk

/-- The characters of a chunk. -/
def chars (chunk : Chunk) : List Char :=
  chunk.gap ++ chunk.own

/-- The line break behind the last gap of a line. -/
def lineBreak (gap : List Char) : Chunk :=
  ⟨gap, ['\n'], .lineEnd, ['\n']⟩

/-- Chunks can be read one after the other in front of a text. -/
def Fit : List Chunk → List Char → Prop
  | [], _ => True
  | chunk :: chunks, rest =>
    Skips false chunk.gap (chunk.own ++ (chunks.flatMap chars ++ rest)) ∧
      Spelled chunk.own chunk.kind chunk.text (chunks.flatMap chars ++ rest) ∧ Fit chunks rest

variable {chunks more : List Chunk} {gap rest other : List Char}

theorem fit_append : Fit (chunks ++ more) rest ↔
    Fit chunks (more.flatMap chars ++ rest) ∧ Fit more rest := by
  induction chunks with
  | nil => simp [Fit]
  | cons chunk chunks ih => simp only [List.cons_append, Fit, ih, List.flatMap_append,
      List.append_assoc, and_assoc]

theorem Fit.continued (fit : Fit chunks rest) (continues : Continues rest other) :
    Fit chunks other := by
  induction chunks with
  | nil => trivial
  | cons chunk chunks ih =>
    obtain ⟨skips, spelled, fit⟩ := fit
    have behind := continues.append (chunks.flatMap chars)
    exact ⟨skips.continued (behind.append chunk.own), spelled.continued behind, ih fit⟩

theorem Fit.rest_nil (fit : Fit chunks rest) : Fit chunks [] :=
  fit.continued ⟨[], List.nil_prefix⟩

/-- Chunks can be read from the first character of their first token on. -/
theorem Fit.without_gap {chunk : Chunk} (fit : Fit (chunk :: chunks) rest) :
    Fit ({ chunk with gap := [] } :: chunks) rest :=
  ⟨fit.1.behind, fit.2⟩

/-- Chunks and a gap at the end of a text, in front of a new line. -/
theorem Fit.newLine (fit : Fit chunks gap) (skips : Skips false gap []) (tail : List Char) :
    Fit (chunks ++ [lineBreak gap]) tail := by
  rw [fit_append]
  refine ⟨?_, ?_, .lineBreak tail, trivial⟩
  · have behind := fit.continued (Continues.newLine gap tail)
    simpa [lineBreak, chars] using behind
  · exact skips.before_newLine tail

end Chunk

/-- A place in a text. -/
structure Place where
  line : Nat
  column : Nat
  offset : Nat
  deriving DecidableEq, Repr

namespace Place

/-- A cursor at a place. -/
def cursor (place : Place) (rest : List Char) : Cursor :=
  ⟨rest, place.line, place.column, place.offset⟩

/-- The token of a chunk at a place. -/
def token (place : Place) (chunk : Chunk) : Token :=
  ⟨chunk.kind, ⟨place.line, place.column + chunk.gap.length,
    place.offset + Text.Utf8.width chunk.gap, Text.Utf8.width chunk.own⟩, String.ofList chunk.text⟩

/-- The place behind a chunk. -/
def after (place : Place) (chunk : Chunk) : Place :=
  if chunk.own = ['\n'] then ⟨place.line + 1, 0, place.offset + Text.Utf8.width chunk.gap + 1⟩
  else ⟨place.line, place.column + chunk.gap.length + Text.Utf8.width chunk.own,
    place.offset + Text.Utf8.width chunk.gap + Text.Utf8.width chunk.own⟩

/-- The tokens of chunks from a place on. -/
def tokens : Place → List Chunk → List Token
  | _, [] => []
  | place, chunk :: chunks => place.token chunk :: (place.after chunk).tokens chunks

/-- The place behind chunks. -/
def through (place : Place) (chunks : List Chunk) : Place :=
  chunks.foldl after place

theorem next_cursor {chunk : Chunk} {rest : List Char}
    (skips : Skips false chunk.gap (chunk.own ++ rest))
    (spelled : Spelled chunk.own chunk.kind chunk.text rest) (place : Place) :
    (place.cursor (chunk.chars ++ rest)).next =
      (.ok (place.token chunk), (place.after chunk).cursor rest) := by
  obtain ⟨c, more, own, read⟩ := spelled.readFrom_eq
  have behind : chunk.own ++ rest = c :: (more ++ rest) := by rw [own, List.cons_append]
  rw [behind] at skips
  rw [Cursor.next_readFrom skips (by rw [← behind]; exact List.append_assoc ..), read]
  unfold after Cursor.past
  split <;> rfl

theorem lexemes_chunk {chunk : Chunk} {rest : List Char}
    (skips : Skips false chunk.gap (chunk.own ++ rest))
    (spelled : Spelled chunk.own chunk.kind chunk.text rest) (place : Place) :
    (place.cursor (chunk.chars ++ rest)).lexemes =
      .ok (place.token chunk) :: ((place.after chunk).cursor rest).lexemes := by
  apply Cursor.lexemes_of_next (next_cursor skips spelled place)
  intro token same
  cases same
  exact spelled.kind_ne_stop

/-- Reading chunks gives their tokens. -/
theorem lexemes_cursor {chunks : List Chunk} {rest : List Char} (fit : Chunk.Fit chunks rest)
    (place : Place) :
    (place.cursor (chunks.flatMap Chunk.chars ++ rest)).lexemes =
      (place.tokens chunks).map .ok ++ ((place.through chunks).cursor rest).lexemes := by
  induction chunks generalizing place with
  | nil => rfl
  | cons chunk chunks ih =>
    obtain ⟨skips, spelled, fit⟩ := fit
    rw [List.flatMap_cons, List.append_assoc, lexemes_chunk skips spelled, ih fit]
    rfl

/-- A text is a gap, or begins with an error, or begins with a chunk. -/
theorem cases_next (place : Place) (text : List Char) :
    Skips false text [] ∨ (∃ fault, (place.cursor text).next.1 = .error fault) ∨
      ∃ chunk rest, text = Chunk.chars chunk ++ rest ∧
        Skips false chunk.gap (chunk.own ++ rest) ∧
        Spelled chunk.own chunk.kind chunk.text rest := by
  obtain ⟨gap, rest, rfl, skips⟩ := Skips.exists_split false text
  cases rest with
  | nil => exact .inl (by rwa [List.append_nil])
  | cons c more =>
    rw [Cursor.next_readFrom skips rfl]
    cases read : ((place.cursor (gap ++ c :: more)).skip gap (c :: more)).readFrom c more with
    | mk lexeme after =>
      cases lexeme with
      | error fault => exact .inr (.inl ⟨fault, rfl⟩)
      | ok token =>
        obtain ⟨own, rest, rfl, spelled⟩ := Spelled.of_readFrom read
        let chunk : Chunk := ⟨gap, c :: own, token.kind, token.text.toList⟩
        refine .inr (.inr ⟨chunk, rest, ?_, skips, spelled⟩)
        exact (List.append_assoc gap (c :: own) rest).symm

/-- A text whose lexemes are tokens is made of chunks and a last gap. -/
theorem exists_chunks {place : Place} {text : List Char}
    (readable : ∀ fault, .error fault ∉ (place.cursor text).lexemes) :
    ∃ chunks gap, text = chunks.flatMap Chunk.chars ++ gap ∧ Chunk.Fit chunks gap ∧
      Skips false gap [] := by
  induction length : text.length using Nat.strongRecOn generalizing place text with
  | ind size ih =>
    rcases place.cases_next text with skips | ⟨fault, error⟩ | ⟨chunk, rest, rfl, skips, spelled⟩
    · exact ⟨[], text, rfl, trivial, skips⟩
    · exact (readable fault (Cursor.mem_lexemes_of_next error)).elim
    · have shorter : rest.length < size := by
        rw [← length, Chunk.chars, List.length_append, List.length_append]
        have := List.length_pos_of_ne_nil spelled.ne_nil
        omega
      have behind : ∀ fault, .error fault ∉ ((place.after chunk).cursor rest).lexemes := by
        intro fault member
        apply readable fault
        rw [lexemes_chunk skips spelled]
        exact List.mem_cons_of_mem _ member
      obtain ⟨chunks, gap, rfl, fit, last⟩ := ih _ shorter behind rfl
      refine ⟨chunk :: chunks, gap, ?_, ⟨skips, spelled, fit⟩, last⟩
      rw [List.flatMap_cons, List.append_assoc]

/-- At the end of a text there is only its end. -/
theorem lexemes_gap {gap : List Char} (skips : Skips false gap []) (place : Place) :
    (place.cursor gap).lexemes = [.ok ⟨.stop, ⟨place.line, place.column + gap.length,
      place.offset + Text.Utf8.width gap, 0⟩, ""⟩] := by
  rw [Cursor.lexemes_eq, Cursor.next_stop skips rfl]
  rfl

@[simp] theorem tokens_append (place : Place) (chunks more : List Chunk) :
    place.tokens (chunks ++ more) = place.tokens chunks ++ (place.through chunks).tokens more := by
  induction chunks generalizing place with
  | nil => rfl
  | cons chunk chunks ih => simp only [List.cons_append, tokens, ih]; rfl

theorem after_offset (place : Place) (chunk : Chunk) :
    (place.after chunk).offset = place.offset + Text.Utf8.width chunk.chars := by
  unfold after
  split
  · rename_i same
    simp only [Chunk.chars, same, Text.Utf8.width_append]
    rfl
  · simp only [Chunk.chars, Text.Utf8.width_append, Nat.add_assoc]

theorem after_line {chunk : Chunk} {rest : List Char}
    (skips : Skips false chunk.gap (chunk.own ++ rest))
    (spelled : Spelled chunk.own chunk.kind chunk.text rest) (place : Place) :
    (place.after chunk).line = place.line + chunk.chars.count '\n' := by
  have gap := List.count_eq_zero.mpr skips.newLine_notMem
  rw [Chunk.chars, List.count_append, gap, Nat.zero_add]
  unfold after
  rcases spelled.cases_newLine with ⟨same, -, -⟩ | along
  · simp [same]
  · have other : chunk.own ≠ ['\n'] := by
      intro same
      simp [same] at along
    simp [other, List.count_eq_zero.mpr along]

/-- The place behind chunks is as far on as they have bytes and new lines. -/
theorem through_offset (place : Place) (chunks : List Chunk) :
    (place.through chunks).offset =
      place.offset + Text.Utf8.width (chunks.flatMap Chunk.chars) := by
  induction chunks generalizing place with
  | nil => rfl
  | cons chunk chunks ih =>
    have step : place.through (chunk :: chunks) = (place.after chunk).through chunks := rfl
    rw [step, ih, after_offset, List.flatMap_cons, Text.Utf8.width_append, Nat.add_assoc]

theorem through_line {chunks : List Chunk} {rest : List Char} (fit : Chunk.Fit chunks rest)
    (place : Place) :
    (place.through chunks).line = place.line + (chunks.flatMap Chunk.chars).count '\n' := by
  induction chunks generalizing place with
  | nil => rfl
  | cons chunk chunks ih =>
    obtain ⟨skips, spelled, fit⟩ := fit
    have step : place.through (chunk :: chunks) = (place.after chunk).through chunks := rfl
    rw [step, ih fit, after_line skips spelled, List.flatMap_cons, List.count_append, Nat.add_assoc]

end Place

end Custody
