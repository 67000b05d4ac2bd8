import Custody.Proofs.Printing
import Custody.Proofs.Streams

/-!
# Written operations are read back

The tokens of a written operation are read as the operation.  Spans play no part in that, so the
tokens stand here without them.
-/

namespace Custody

/-- The token of a chunk, without its place. -/
def Chunk.bare (chunk : Chunk) : Token :=
  ⟨chunk.kind, {}, String.ofList chunk.text⟩

@[simp] theorem Chunk.bare_name (gap : List Char) (text : String) :
    (Chunk.name gap text).bare = ⟨.name, {}, text⟩ := by
  simp [Chunk.bare, Chunk.name]

@[simp] theorem Chunk.bare_mark (gap : List Char) (c : Char) (kind : Token.Kind) :
    (Chunk.mark gap c kind).bare = ⟨kind, {}, String.ofList [c]⟩ := rfl

@[simp] theorem Chunk.bare_arrow : Chunk.arrow.bare = ⟨.arrow, {}, "<-"⟩ := rfl

/-- A line of tokens of which none has been passed. -/
def Line.along : List Token → Line
  | [] => ⟨default, {}, []⟩
  | token :: rest => ⟨token, {}, rest.map .ok⟩

namespace Reading

variable {α β : Type} {next : Token} {rest : List Token}

theorem bind_run {p : Reading α} {f : α → Reading β} {start line : Line} {value : α}
    (first : p.run start = (.ok value, line)) : (p >>= f).run start = (f value).run line := by
  rw [run_bind, first]

theorem advance_run (kind : Token.Kind) (text : String) :
    advance.run (.along (⟨kind, {}, text⟩ :: next :: rest)) = (.ok (), .along (next :: rest)) := rfl

theorem at?_run (kind : Token.Kind) :
    (at? kind).run (.along (next :: rest)) =
      (.ok (decide (next.kind = kind)), .along (next :: rest)) := rfl

theorem atEnd_run :
    atEnd.run (.along (next :: rest)) = (.ok next.endsLine, .along (next :: rest)) := rfl

theorem current_run : current.run (.along (next :: rest)) = (.ok next, .along (next :: rest)) := rfl

theorem get_run : (get : Reading Line).run (.along (next :: rest)) =
    (.ok (.along (next :: rest)), .along (next :: rest)) := rfl

theorem expect_run (kind : Token.Kind) (expected text : String) :
    (expect kind expected).run (.along (⟨kind, {}, text⟩ :: next :: rest)) =
      (.ok ⟨kind, {}, text⟩, .along (next :: rest)) := by
  rw [expect, bind_run current_run, if_pos rfl, bind_run (advance_run ..)]
  rfl

theorem name_run (expected text : String) :
    (name expected).run (.along (⟨.name, {}, text⟩ :: next :: rest)) =
      (.ok text, .along (next :: rest)) := by
  rw [name, bind_run (expect_run ..)]
  rfl

theorem word_run {ofWord? : String → Option α} {text : String} {value : α}
    (known : ofWord? text = some value) (context choices : String) :
    (word ofWord? context choices).run (.along (⟨.name, {}, text⟩ :: next :: rest)) =
      (.ok value, .along (next :: rest)) := by
  rw [word, bind_run current_run, if_pos rfl]
  dsimp only
  rw [known]
  dsimp only
  rw [bind_run (advance_run ..)]
  rfl

/-! ## Values -/

theorem valueOf_bare {value : Value} (writable : value.Writable) (gap : List Char) :
    valueOf (value.chunk gap).bare = .ok value := by
  cases value with
  | integer value =>
    simp [valueOf, Chunk.bare, Value.chunk, Value.spelling, Decimal.readInt64_ofInt64]
  | float value => exact writable.elim
  | string text => simp [valueOf, Chunk.bare, Value.chunk, Value.spelling]
  | bool value => cases value <;> rfl
  | bytes data =>
    simp [valueOf, Chunk.bare, Value.chunk, Value.spelling, (Value.byteDigits_spec data).2.2]

theorem value_run {value : Value} (writable : value.Writable) (gap : List Char) :
    Reading.value.run (.along ((value.chunk gap).bare :: next :: rest)) =
      (.ok value, .along (next :: rest)) := by
  rw [Reading.value, bind_run current_run, valueOf_bare writable]
  dsimp only
  rw [Chunk.bare, bind_run (advance_run ..)]
  rfl

theorem bound_run (value : Int64) (gap : List Char) :
    bound.run (.along ((Value.chunk gap (.integer value)).bare :: next :: rest)) =
      (.ok value, .along (next :: rest)) := by
  have text : (String.ofList (Decimal.ofInt64 value)).toList = Decimal.ofInt64 value :=
    String.toList_ofList
  have token : (Value.chunk gap (.integer value)).bare =
      ⟨.integer, {}, String.ofList (Decimal.ofInt64 value)⟩ := rfl
  rw [bound, token, bind_run (expect_run ..)]
  dsimp only
  rw [text, Decimal.readInt64_ofInt64]
  rfl

theorem kind_ne_rightBrace (value : Value) (gap : List Char) :
    (value.chunk gap).bare.kind ≠ .rightBrace := by
  cases value with
  | bool value => cases value <;> exact Token.Kind.noConfusion
  | _ => exact Token.Kind.noConfusion

theorem keys_close (bound : Nat) (text : String) :
    (keys (bound + 1)).run (.along (⟨.rightBrace, {}, text⟩ :: next :: rest)) =
      (.ok [], .along (next :: rest)) := by
  rw [keys, bind_run (at?_run ..)]
  rfl

theorem keys_comma {key : Value} (writable : key.Writable) {bound : Nat} {later : List Value}
    {line : Line} (read : (keys bound).run (.along (next :: rest)) = (.ok later, line))
    (gap : List Char) (text : String) :
    (keys (bound + 1)).run
      (.along ((key.chunk gap).bare :: ⟨.comma, {}, text⟩ :: next :: rest)) =
      (.ok (key :: later), line) := by
  rw [keys, bind_run (at?_run ..), if_neg (by simp [kind_ne_rightBrace]),
    bind_run (value_run writable gap), bind_run (at?_run ..), if_pos (decide_eq_true rfl),
    bind_run (advance_run ..), bind_run read]
  rfl

theorem keys_last {key : Value} (writable : key.Writable) (bound : Nat) (gap : List Char)
    (text : String) :
    (keys (bound + 2)).run
      (.along ((key.chunk gap).bare :: ⟨.rightBrace, {}, text⟩ :: next :: rest)) =
      (.ok [key], .along (next :: rest)) := by
  rw [keys, bind_run (at?_run ..), if_neg (by simp [kind_ne_rightBrace]),
    bind_run (value_run writable gap), bind_run (at?_run ..), if_neg (by simp),
    bind_run (at?_run ..), if_pos (decide_eq_true rfl), bind_run (keys_close ..)]
  rfl

theorem keys_cons {first : Value} {others : List Value} {bound : Nat}
    (enough : others.length + 1 < bound) (writable : ∀ key ∈ first :: others, key.Writable)
    (gap : List Char) (text : String) :
    (keys bound).run (.along ((first.chunk gap).bare ::
      ((others.flatMap fun key => [Chunk.mark [] ',' .comma, key.chunk [' ']]).map Chunk.bare ++
        ⟨.rightBrace, {}, text⟩ :: next :: rest))) =
      (.ok (first :: others), .along (next :: rest)) := by
  induction others generalizing first bound gap with
  | nil =>
    obtain ⟨bound, rfl⟩ := Nat.exists_eq_add_of_le' enough
    exact keys_last (writable first List.mem_cons_self) bound gap text
  | cons second others ih =>
    rw [List.forall_mem_cons] at writable
    rw [List.length_cons] at enough
    obtain ⟨bound, rfl⟩ : ∃ spare, bound = spare + 1 := ⟨bound - 1, by omega⟩
    have fits : others.length + 1 < bound := by omega
    exact keys_comma writable.1 (ih fits writable.2 [' ']) gap (String.ofList [','])

/-- Keys with commas between them are read through the closing brace. -/
theorem keys_run {members : List Value} {bound : Nat} (enough : members.length < bound)
    (writable : ∀ key ∈ members, key.Writable) (text : String) :
    (keys bound).run (.along ((Value.listing members).map Chunk.bare ++
      ⟨.rightBrace, {}, text⟩ :: next :: rest)) = (.ok members, .along (next :: rest)) := by
  cases members with
  | nil =>
    obtain ⟨bound, rfl⟩ := Nat.exists_eq_add_of_le' enough
    exact keys_close bound text
  | cons first others => exact keys_cons enough writable [] text

/-! ## Extents -/

theorem length_along (first : Token) :
    (Line.along (first :: rest)).rest.length = rest.length := by
  rw [Line.along, List.length_map]

theorem extent_square (text : String) :
    extent.run (.along (⟨.leftSquare, {}, text⟩ :: next :: rest)) =
      (do
        let low ← bound
        let _ ← expect .range "'..'"
        let high ← bound
        let _ ← expect .rightSquare "']'"
        return Extent.range low high : Reading Extent).run (.along (next :: rest)) := rfl

theorem extent_brace {tokens : List Token} (filled : tokens ≠ []) (text : String) :
    extent.run (.along (⟨.leftBrace, {}, text⟩ :: tokens)) =
      (do return Extent.keys (← keys (tokens.length + 1)) : Reading Extent).run
        (.along tokens) := by
  cases tokens with
  | nil => exact absurd rfl filled
  | cons next rest =>
    rw [← length_along ⟨.leftBrace, {}, text⟩]
    rfl

theorem length_le_flatMap {cut : α → List β} (items : List α) (filled : ∀ item, cut item ≠ []) :
    items.length ≤ (items.flatMap cut).length := by
  induction items with
  | nil => exact Nat.le_refl _
  | cons item items ih =>
    have some := List.length_pos_iff.mpr (filled item)
    rw [List.flatMap_cons, List.length_append, List.length_cons]
    omega

theorem length_listing (members : List Value) :
    members.length ≤ (Value.listing members).length := by
  cases members with
  | nil => exact Nat.le_refl _
  | cons first others =>
    exact Nat.succ_le_succ (length_le_flatMap others fun key => List.cons_ne_nil _ _)

theorem extent_run {extent : Extent} (writable : ∀ key ∈ extent.members, key.Writable) :
    Reading.extent.run (.along (extent.chunks.map Chunk.bare ++ next :: rest)) =
      (.ok extent, .along (next :: rest)) := by
  cases extent with
  | range low high =>
    simp only [Extent.chunks, List.map_cons, List.map_nil, List.cons_append, List.nil_append,
      Chunk.bare_mark]
    rw [extent_square, bind_run (bound_run ..), Chunk.dots, Chunk.bare, bind_run (expect_run ..),
      bind_run (bound_run ..), bind_run (expect_run ..)]
    rfl
  | keys members =>
    have legible : ∀ key ∈ members, key.Writable := writable
    have enough := length_listing members
    simp only [Extent.chunks, List.map_cons, List.map_nil, List.map_append, List.cons_append,
      List.nil_append, List.append_assoc, Chunk.bare_mark]
    rw [extent_brace (by simp), bind_run (keys_run ?_ legible _)]
    · rfl
    · simp only [List.length_append, List.length_map]
      omega

theorem extent_going (extent : Extent) :
    ∃ first more, extent.chunks.map Chunk.bare = first :: more ∧ first.endsLine = false := by
  cases extent with
  | range low high => exact ⟨_, _, rfl, rfl⟩
  | keys members => exact ⟨_, _, rfl, rfl⟩

theorem extent?_run {extent : Option Extent}
    (writable : ∀ key ∈ extent.toList.flatMap Extent.members, key.Writable) {stop : Token}
    (ends : stop.endsLine = true) :
    extent?.run (.along ((extent.toList.flatMap Extent.chunks).map Chunk.bare ++ [stop])) =
      (.ok extent, .along [stop]) := by
  cases extent with
  | none =>
    show extent?.run (.along [stop]) = _
    rw [extent?, bind_run atEnd_run, if_pos ends]
    rfl
  | some extent =>
    have legible : ∀ key ∈ extent.members, key.Writable := by simpa using writable
    have chunks : (some extent).toList.flatMap Extent.chunks = extent.chunks := by simp
    obtain ⟨first, more, split, going⟩ := extent_going extent
    have read : Reading.extent.run (.along (extent.chunks.map Chunk.bare ++ [stop])) =
        (.ok extent, .along [stop]) := extent_run legible
    rw [chunks]
    rw [split, List.cons_append] at read ⊢
    rw [extent?, bind_run atEnd_run, if_neg (by simp [going]), bind_run read]
    rfl

/-! ## Pushes -/

theorem operand_value {literal : Value} (writable : literal.Writable) :
    operand.run (.along ((Operand.value literal).chunks.map Chunk.bare ++ next :: rest)) =
      (.ok (.value literal), .along (next :: rest)) := by
  have other : (literal.chunk [' ']).bare.kind ≠ .arrow := by
    cases literal with
    | bool value => cases value <;> exact Token.Kind.noConfusion
    | _ => exact Token.Kind.noConfusion
  show operand.run (.along ((literal.chunk [' ']).bare :: next :: rest)) = _
  rw [operand, bind_run (at?_run ..), if_neg (by simp [other]), bind_run (value_run writable _)]
  rfl

/-- A word behind the arrow is the source, unless a source can follow it. -/
theorem operand_move {source : String}
    (stops : ¬ (next.kind = .name ∧ !next.isWord "key" ∧ !next.isWord "as")) :
    operand.run (.along ((Operand.transfer source .move).chunks.map Chunk.bare ++ next :: rest)) =
      (.ok (.transfer source .move), .along (next :: rest)) := by
  simp only [Operand.chunks, List.map_cons, List.map_nil, List.cons_append, List.nil_append,
    Chunk.bare_arrow, Chunk.bare_name]
  rw [operand, bind_run (at?_run ..), if_pos (decide_eq_true rfl),
    bind_run (advance_run ..), bind_run (name_run ..), bind_run current_run]
  cases known : Effect.ofWord? source with
  | none => rfl
  | some effect =>
    dsimp only
    rw [if_neg stops]
    rfl

theorem operand_effect {source : String} {effect : Effect} (other : effect ≠ .move)
    (apart : source ≠ "key" ∧ source ≠ "as") :
    operand.run (.along ((Operand.transfer source effect).chunks.map Chunk.bare ++ next :: rest)) =
      (.ok (.transfer source effect), .along (next :: rest)) := by
  have words : (Operand.transfer source effect).chunks.map Chunk.bare =
      [⟨.arrow, {}, "<-"⟩, ⟨.name, {}, effect.name⟩, ⟨.name, {}, source⟩] := by
    cases effect with
    | move => exact absurd rfl other
    | _ => simp [Operand.chunks]
  have follows : Token.kind ⟨.name, {}, source⟩ = .name ∧
      !Token.isWord ⟨.name, {}, source⟩ "key" ∧ !Token.isWord ⟨.name, {}, source⟩ "as" := by
    simp [Token.isWord, apart]
  rw [words, List.cons_append, List.cons_append, List.cons_append, List.nil_append, operand,
    bind_run (at?_run ..), if_pos (decide_eq_true rfl), bind_run (advance_run ..),
    bind_run (name_run ..), bind_run current_run, Effect.ofWord?_name]
  dsimp only
  rw [if_pos follows, bind_run (name_run ..)]
  rfl

theorem pushOption_stop {stop : Token} (ends : stop.endsLine = true)
    (given : Option Value × Option Conversion) :
    (pushOption given).run (.along [stop]) = (.ok given, .along [stop]) := by
  rw [pushOption, bind_run current_run, if_pos ends]
  rfl

theorem pushOption_key {value : Value} (writable : value.Writable) (gap : List Char)
    (conversion : Option Conversion) :
    (pushOption (none, conversion)).run
      (.along (⟨.name, {}, "key"⟩ :: (value.chunk gap).bare :: next :: rest)) =
      (.ok (some value, conversion), .along (next :: rest)) := by
  rw [pushOption, bind_run current_run, if_neg (by decide), if_pos (by rfl),
    bind_run (advance_run ..), bind_run (value_run writable gap)]
  rfl

theorem pushOption_as (key : Option Value) (conversion : Conversion) :
    (pushOption (key, none)).run
      (.along (⟨.name, {}, "as"⟩ :: ⟨.name, {}, conversion.name⟩ :: next :: rest)) =
      (.ok (key, some conversion), .along (next :: rest)) := by
  have other : ¬ (Token.isWord ⟨.name, {}, "as"⟩ "key" && key.isNone) = true := by
    rw [Bool.and_eq_true]
    exact fun both => absurd both.1 (by decide)
  rw [pushOption, bind_run current_run, if_neg (by decide), if_neg other, if_pos (by rfl),
    bind_run (advance_run ..), bind_run (word_run conversion.ofWord?_name ..)]
  rfl

theorem bare_key (value : Value) (conversion : Option Conversion) :
    (optionChunks (some value) conversion).map Chunk.bare =
      ⟨.name, {}, "key"⟩ :: (value.chunk [' ']).bare ::
        (optionChunks none conversion).map Chunk.bare := by
  simp [optionChunks]

theorem bare_as (conversion : Conversion) :
    (optionChunks none (some conversion)).map Chunk.bare =
      [⟨.name, {}, "as"⟩, ⟨.name, {}, conversion.name⟩] := by
  simp [optionChunks]

/-- The options of a push are read by three readings, of which the last ones may stand still. -/
theorem options_run {key : Option Value} (writable : ∀ value ∈ key.toList, value.Writable)
    (conversion : Option Conversion) {stop : Token} (ends : stop.endsLine = true) :
    ∃ first second near far,
      (pushOption (none, none)).run
        (.along ((optionChunks key conversion).map Chunk.bare ++ [stop])) = (.ok first, near) ∧
      (pushOption first).run near = (.ok second, far) ∧
      (pushOption second).run far = (.ok (key, conversion), .along [stop]) := by
  have done := pushOption_stop ends
  cases key with
  | none =>
    cases conversion with
    | none => exact ⟨_, _, _, _, done _, done _, done _⟩
    | some conversion =>
      rw [bare_as]
      exact ⟨_, _, _, _, pushOption_as none conversion, done _, done _⟩
  | some value =>
    have legible : value.Writable := writable value (by simp)
    rw [bare_key]
    cases conversion with
    | none => exact ⟨_, _, _, _, pushOption_key legible _ none, done _, done _⟩
    | some conversion =>
      rw [bare_as]
      exact ⟨_, _, _, _, pushOption_key legible _ none, pushOption_as _ conversion, done _⟩

/-- What stands behind an operand is no source. -/
theorem options_stop (key : Option Value) (conversion : Option Conversion) {stop : Token}
    (ends : stop.endsLine = true) :
    ∃ next rest, (optionChunks key conversion).map Chunk.bare ++ [stop] = next :: rest ∧
      ¬ (next.kind = .name ∧ !next.isWord "key" ∧ !next.isWord "as") := by
  cases key with
  | some value =>
    rw [bare_key]
    exact ⟨_, _, rfl, by decide⟩
  | none =>
    cases conversion with
    | some conversion =>
      rw [bare_as]
      exact ⟨_, _, rfl, by decide⟩
    | none =>
      refine ⟨stop, [], rfl, fun follows => ?_⟩
      exact Token.kind_ne_of_endsLine ends .name (by decide) follows.1

theorem push_run {binding : String} {operand : Operand} {key : Option Value}
    {conversion : Option Conversion}
    (writable : (Operation.push binding operand key conversion).Writable) {stop : Token}
    (ends : stop.endsLine = true) :
    push.run (.along ((Operation.push binding operand key conversion).chunks.tail.map Chunk.bare ++
      [stop])) = (.ok (.push binding operand key conversion), .along [stop]) := by
  obtain ⟨-, literals, distinct⟩ := writable
  obtain ⟨next, rest, split, stops⟩ := options_stop key conversion ends
  simp only [Operation.chunks, List.tail_cons, List.map_cons, List.map_append, List.cons_append,
    List.append_assoc, Chunk.bare_name]
  rw [split]
  have keyed : ∀ value ∈ key.toList, value.Writable := by
    cases operand with
    | value literal => exact fun value member => literals value (List.mem_cons_of_mem _ member)
    | transfer source effect => exact literals
  obtain ⟨first, second, near, far, start, middle, final⟩ := options_run keyed conversion ends
  rw [split] at start
  have read : Reading.operand.run (.along (operand.chunks.map Chunk.bare ++ next :: rest)) =
      (.ok operand, .along (next :: rest)) := by
    cases operand with
    | value literal => exact operand_value (literals literal List.mem_cons_self)
    | transfer source effect =>
      by_cases moves : effect = .move
      · subst moves
        exact operand_move stops
      · apply operand_effect moves
        simpa [Operation.isDistinct, moves] using distinct
  cases words : operand.chunks.map Chunk.bare ++ next :: rest with
  | nil => simp at words
  | cons token more =>
    rw [words] at read
    rw [push, bind_run (name_run ..), bind_run read, bind_run start, bind_run middle,
      bind_run final]
    rfl

/-! ## Captures and arms -/

theorem length_captures (captured : List Capture) :
    captured.length ≤ (Capture.listing captured).length := by
  have filled (capture : Capture) : capture.chunks ≠ [] := by
    unfold Capture.chunks
    split <;> exact List.cons_ne_nil _ _
  cases captured with
  | nil => exact Nat.le_refl _
  | cons first others =>
    have some := List.length_pos_iff.mpr (filled first)
    have more := length_le_flatMap others fun capture =>
      List.cons_ne_nil (Chunk.mark [] ',' .comma) capture.chunks
    rw [Capture.listing, List.length_append, List.length_cons]
    omega

theorem captures_stop {stop : Token} (ends : stop.endsLine = true) (bound : Nat) :
    (captures (bound + 1)).run (.along [stop]) = (.ok [], .along [stop]) := by
  rw [captures, bind_run atEnd_run, if_pos ends]
  rfl

/-- What is left to do when a captured binding has been read. -/
def afterCapture (bound : Nat) (capture : Capture) : Reading (List Capture) := do
  if ← at? .comma then advance
  else unless ← atEnd do unexpected "',' or end of statement"
  return capture :: (← captures bound)

theorem captures_step (capture : Capture) (other : next.kind ≠ .name) (bound : Nat) :
    (captures (bound + 1)).run (.along (capture.chunks.map Chunk.bare ++ next :: rest)) =
      (afterCapture bound capture).run (.along (next :: rest)) := by
  obtain ⟨binding, take⟩ := capture
  cases take with
  | true =>
    have words : (Capture.mk binding true).chunks.map Chunk.bare =
        [⟨.name, {}, "take"⟩, ⟨.name, {}, binding⟩] := by simp [Capture.chunks]
    rw [words, List.cons_append, List.cons_append, List.nil_append, captures, bind_run atEnd_run,
      if_neg (by simp [Token.endsLine]), bind_run (name_run ..), bind_run current_run,
      if_pos ⟨rfl, rfl⟩, bind_run (name_run ..)]
    rfl
  | false =>
    have words : (Capture.mk binding false).chunks.map Chunk.bare = [⟨.name, {}, binding⟩] := by
      simp [Capture.chunks]
    rw [words, List.cons_append, List.nil_append, captures, bind_run atEnd_run,
      if_neg (by simp [Token.endsLine]), bind_run (name_run ..), bind_run current_run,
      if_neg fun both => other both.2]
    rfl

theorem captures_comma (capture : Capture) {bound : Nat} {later : List Capture} {line : Line}
    {tokens : List Token} (filled : tokens ≠ [])
    (read : (captures bound).run (.along tokens) = (.ok later, line)) (text : String) :
    (captures (bound + 1)).run (.along (capture.chunks.map Chunk.bare ++
      ⟨.comma, {}, text⟩ :: tokens)) = (.ok (capture :: later), line) := by
  cases tokens with
  | nil => exact absurd rfl filled
  | cons next rest =>
    rw [captures_step capture (by simp), afterCapture, bind_run (at?_run ..),
      if_pos (decide_eq_true rfl), bind_run (advance_run ..), bind_run read]
    rfl

theorem captures_last {stop : Token} (ends : stop.endsLine = true) (capture : Capture)
    (bound : Nat) :
    (captures (bound + 2)).run (.along (capture.chunks.map Chunk.bare ++ [stop])) =
      (.ok [capture], .along [stop]) := by
  have other := Token.kind_ne_of_endsLine ends
  rw [captures_step capture (other .name (by decide)), afterCapture, bind_run (at?_run ..),
    if_neg (by simp [other .comma (by decide)]), bind_run atEnd_run, if_pos ends,
    bind_run (captures_stop ends bound)]
  rfl

theorem captures_cons {first : Capture} {others : List Capture} {bound : Nat}
    (enough : others.length + 1 < bound) {stop : Token} (ends : stop.endsLine = true) :
    (captures bound).run (.along (first.chunks.map Chunk.bare ++
      ((others.flatMap fun capture => Chunk.mark [] ',' .comma :: capture.chunks).map Chunk.bare ++
        [stop]))) = (.ok (first :: others), .along [stop]) := by
  induction others generalizing first bound with
  | nil =>
    obtain ⟨bound, rfl⟩ := Nat.exists_eq_add_of_le' enough
    exact captures_last ends first bound
  | cons second others ih =>
    rw [List.length_cons] at enough
    obtain ⟨bound, rfl⟩ : ∃ spare, bound = spare + 1 := ⟨bound - 1, by omega⟩
    have fits : others.length + 1 < bound := by omega
    rw [List.flatMap_cons, List.cons_append, List.map_cons, List.map_append, List.cons_append,
      List.append_assoc]
    exact captures_comma first (by simp) (ih fits) (String.ofList [','])

/-- Captured bindings with commas between them are read to the end of the line. -/
theorem captures_run {captured : List Capture} {bound : Nat} (enough : captured.length < bound)
    {stop : Token} (ends : stop.endsLine = true) :
    (captures bound).run (.along ((Capture.listing captured).map Chunk.bare ++ [stop])) =
      (.ok captured, .along [stop]) := by
  cases captured with
  | nil =>
    obtain ⟨bound, rfl⟩ := Nat.exists_eq_add_of_le' enough
    exact captures_stop ends bound
  | cons first others =>
    rw [Capture.listing, List.map_append, List.append_assoc]
    exact captures_cons enough ends

theorem arms_stop {stop : Token} (ends : stop.endsLine = true) (bound : Nat) :
    (arms (bound + 1)).run (.along [stop]) = (.ok ([], false), .along [stop]) := by
  rw [arms, bind_run current_run, if_pos ends]
  rfl

theorem arms_fallback {stop : Token} (ends : stop.endsLine = true) (bound : Nat) :
    (arms (bound + 2)).run (.along [⟨.name, {}, "_"⟩, stop]) = (.ok ([], true), .along [stop]) := by
  rw [arms, bind_run current_run, if_neg (by decide), if_pos (by decide),
    bind_run (advance_run ..), bind_run (arms_stop ends bound)]
  rfl

theorem arms_arm (arm : Perspective) {bound : Nat} {later : List Perspective} {fallback : Bool}
    {line : Line} (other : next.kind ≠ .comma)
    (read : (arms bound).run (.along (next :: rest)) = (.ok (later, fallback), line)) :
    (arms (bound + 1)).run (.along (⟨.name, {}, arm.name⟩ :: next :: rest)) =
      (.ok (arm :: later, fallback), line) := by
  have word : ¬ Token.isWord ⟨.name, {}, arm.name⟩ "_" = true := by cases arm <;> decide
  rw [arms, bind_run current_run, if_neg (by simp [Token.endsLine]), if_neg word,
    bind_run (word_run arm.ofWord?_name ..), bind_run (at?_run ..), if_neg (by simp [other]),
    bind_run read]
  rfl

/-- The tokens of the arms of a choice and of the end of its line. -/
def armTokens (found : List Perspective) (fallback : Bool) (stop : Token) : List Token :=
  found.map (fun arm => ⟨.name, {}, arm.name⟩) ++
    ((if fallback then [⟨.name, {}, "_"⟩] else []) ++ [stop])

theorem armTokens_starts (found : List Perspective) (fallback : Bool) {stop : Token}
    (ends : stop.endsLine = true) :
    ∃ next rest, armTokens found fallback stop = next :: rest ∧ next.kind ≠ .comma := by
  cases found with
  | cons arm found => exact ⟨_, _, rfl, Token.Kind.noConfusion⟩
  | nil =>
    cases fallback with
    | true => exact ⟨_, _, rfl, Token.Kind.noConfusion⟩
    | false => exact ⟨_, _, rfl, Token.kind_ne_of_endsLine ends .comma (by decide)⟩

/-- The arms of a choice are read to the end of the line. -/
theorem arms_run {found : List Perspective} {fallback : Bool} {stop : Token} {bound : Nat}
    (enough : (armTokens found fallback stop).length ≤ bound) (ends : stop.endsLine = true) :
    (arms bound).run (.along (armTokens found fallback stop)) =
      (.ok (found, fallback), .along [stop]) := by
  induction found generalizing bound with
  | nil =>
    cases fallback with
    | true =>
      obtain ⟨bound, rfl⟩ := Nat.exists_eq_add_of_le' enough
      exact arms_fallback ends bound
    | false =>
      obtain ⟨bound, rfl⟩ := Nat.exists_eq_add_of_le' enough
      exact arms_stop ends bound
  | cons arm found ih =>
    have words : armTokens (arm :: found) fallback stop =
        ⟨.name, {}, arm.name⟩ :: armTokens found fallback stop := rfl
    rw [words] at enough ⊢
    obtain ⟨next, rest, split, other⟩ := armTokens_starts found fallback ends
    cases bound with
    | zero => exact absurd enough (Nat.not_succ_le_zero _)
    | succ bound =>
      have read := ih (Nat.le_of_succ_le_succ enough)
      rw [split] at read ⊢
      exact arms_arm arm other read

/-! ## Statements -/

theorem operation_word (text : String) (more : List Chunk) :
    operation.run (.along ((Chunk.name [] text :: more).map Chunk.bare ++ next :: rest)) =
      (afterWord ⟨.name, {}, text⟩).run (.along (more.map Chunk.bare ++ next :: rest)) := by
  rw [List.map_cons, Chunk.bare_name]
  cases more <;> rfl

theorem declare_run (container : String) (type : Element) (key : Option Element) (mode : Mode) :
    declare.run (.along ((Operation.declare container type key mode).chunks.tail.map Chunk.bare ++
      next :: rest)) = (.ok (.declare container type key mode), .along (next :: rest)) := by
  cases key with
  | none =>
    simp only [Operation.chunks, List.tail_cons, List.nil_append, List.map_cons, List.map_nil,
      List.cons_append, Chunk.bare_name, Chunk.bare_mark]
    rw [declare, bind_run (name_run ..), bind_run (expect_run ..), element,
      bind_run (word_run type.ofWord?_name ..), bind_run (at?_run ..), if_neg (by simp),
      pure_bind, bind_run (word_run mode.ofWord?_name ..)]
    rfl
  | some key =>
    simp only [Operation.chunks, List.tail_cons, List.nil_append, List.map_cons, List.map_nil,
      List.cons_append, Chunk.bare_name, Chunk.bare_mark]
    rw [declare, bind_run (name_run ..), bind_run (expect_run ..), element,
      bind_run (word_run type.ofWord?_name ..), bind_run (at?_run ..),
      if_pos (decide_eq_true rfl), bind_run (advance_run ..),
      bind_run (word_run key.ofWord?_name ..), bind_run (expect_run ..), pure_bind,
      bind_run (word_run mode.ofWord?_name ..)]
    rfl

theorem borrow_run {extent : Extent} (writable : ∀ key ∈ extent.members, key.Writable)
    (binding source : String) (mode : BorrowMode) :
    borrow.run (.along ((Operation.borrow binding source extent mode).chunks.tail.map Chunk.bare ++
      next :: rest)) = (.ok (.borrow binding source extent mode), .along (next :: rest)) := by
  obtain ⟨first, more, split, -⟩ := extent_going extent
  have read : Reading.extent.run (.along (extent.chunks.map Chunk.bare ++
      ⟨.name, {}, mode.keyword⟩ :: next :: rest)) =
        (.ok extent, .along (⟨.name, {}, mode.keyword⟩ :: next :: rest)) := extent_run writable
  simp only [Operation.chunks, List.tail_cons, List.map_cons, List.map_nil, List.map_append,
    List.cons_append, List.nil_append, List.append_assoc, Chunk.bare_name, Chunk.bare_mark]
  rw [split, List.cons_append] at read ⊢
  rw [borrow, bind_run (name_run ..), bind_run (expect_run ..), bind_run (name_run ..),
    bind_run read, bind_run (word_run mode.ofWord?_keyword ..)]
  rfl

section

variable {stop : Token} (ends : stop.endsLine = true)

include ends

theorem bind_statement_run (binding container : String) (perspective : Option Perspective) :
    Reading.bind.run (.along ((Operation.bind binding container perspective).chunks.tail.map
      Chunk.bare ++ [stop])) = (.ok (.bind binding container perspective), .along [stop]) := by
  cases perspective with
  | none =>
    simp only [Operation.chunks, List.tail_cons, Option.toList_none, List.map_cons, List.map_nil,
      List.cons_append, List.nil_append, Chunk.bare_name, Chunk.bare_mark]
    rw [Reading.bind, bind_run (name_run ..), bind_run (expect_run ..), bind_run (name_run ..),
      bind_run atEnd_run, if_pos ends]
    rfl
  | some perspective =>
    simp only [Operation.chunks, List.tail_cons, Option.toList_some, List.map_cons, List.map_nil,
      List.cons_append, List.nil_append, Chunk.bare_name, Chunk.bare_mark]
    rw [Reading.bind, bind_run (name_run ..), bind_run (expect_run ..), bind_run (name_run ..),
      bind_run atEnd_run, if_neg (by simp [Token.endsLine]), Reading.perspective,
      bind_run (word_run perspective.ofWord?_name ..)]
    rfl

theorem choose_run {found : List Perspective} {fallback : Bool}
    (filled : found ≠ [] ∨ fallback = true) (binding : String) :
    choose.run (.along (⟨.name, {}, binding⟩ :: armTokens found fallback stop)) =
      (.ok (.choose binding found fallback), .along [stop]) := by
  obtain ⟨next, rest, split, -⟩ := armTokens_starts found fallback ends
  have read : (arms ((Line.along (next :: rest)).rest.length + 1)).run (.along (next :: rest)) =
      (.ok (found, fallback), .along [stop]) := by
    rw [length_along, ← split]
    refine arms_run (Nat.le_of_eq ?_) ends
    rw [split, List.length_cons]
  have some : ¬ (found.isEmpty && !fallback) = true := by
    cases fallback with
    | true => simp
    | false => simpa using filled
  rw [split, choose, bind_run (name_run ..), bind_run get_run, bind_run read]
  dsimp only
  rw [if_neg some]
  rfl

theorem extent_statement_run {extent : Option Extent}
    (writable : ∀ key ∈ extent.toList.flatMap Extent.members, key.Writable) (binding : String)
    (make : String → Option Extent → Operation) :
    (do return make (← name "binding name") (← extent?) : Reading Operation).run
      (.along ((Chunk.name [' '] binding :: extent.toList.flatMap Extent.chunks).map Chunk.bare ++
        [stop])) = (.ok (make binding extent), .along [stop]) := by
  have read := extent?_run writable ends
  rw [List.map_cons, List.cons_append, Chunk.bare_name]
  cases words : (extent.toList.flatMap Extent.chunks).map Chunk.bare ++ [stop] with
  | nil => simp at words
  | cons next rest =>
    rw [words] at read
    rw [bind_run (name_run ..), bind_run read]
    rfl

theorem spawn_run (captured : List Capture) :
    (afterWord ⟨.name, {}, "spawn"⟩).run
      (.along ((Capture.listing captured).map Chunk.bare ++ [stop])) =
      (.ok (.spawn captured), .along [stop]) := by
  have enough : captured.length < ((Capture.listing captured).map Chunk.bare ++ [stop]).length := by
    rw [List.length_append, List.length_map]
    exact Nat.lt_succ_of_le (length_captures captured)
  have read := captures_run enough ends
  cases words : (Capture.listing captured).map Chunk.bare ++ [stop] with
  | nil => simp at words
  | cons next rest =>
    have branch : afterWord ⟨.name, {}, "spawn"⟩ =
        (do return .spawn (← captures ((← get).rest.length + 1))) := rfl
    rw [words, List.length_cons] at read
    rw [branch, bind_run get_run, length_along, bind_run read]
    rfl

/-- The tokens of an operation are read as the operation. -/
theorem operation_run {operation : Operation} (writable : operation.Writable) :
    Reading.operation.run (.along (operation.chunks.map Chunk.bare ++ [stop])) =
      (.ok operation, .along [stop]) := by
  obtain ⟨-, literals, distinct⟩ := id writable
  cases operation with
  | declare container type key mode =>
    exact (operation_word ..).trans (declare_run container type key mode)
  | bind binding container perspective =>
    exact (operation_word ..).trans (bind_statement_run ends binding container perspective)
  | push binding operand key conversion =>
    exact (operation_word ..).trans (push_run writable ends)
  | pop binding extent =>
    exact (operation_word ..).trans (extent_statement_run ends literals binding .pop)
  | peek binding extent =>
    exact (operation_word ..).trans (extent_statement_run ends literals binding .peek)
  | borrow binding source extent mode =>
    exact (operation_word ..).trans (borrow_run literals binding source mode)
  | setPerspective binding perspective =>
    refine (operation_word ..).trans ?_
    simp only [List.map_cons, List.map_nil, Chunk.bare_name]
    cases perspective <;> rfl
  | flip binding =>
    refine (operation_word ..).trans ?_
    simp only [List.map_cons, List.map_nil, Chunk.bare_name]
    rfl
  | capture target source =>
    refine (operation_word ..).trans ?_
    simp only [List.map_cons, List.map_nil, Chunk.bare_name, Chunk.bare_mark]
    rfl
  | release binding =>
    refine (operation_word ..).trans ?_
    simp only [List.map_cons, List.map_nil, Chunk.bare_name]
    rfl
  | choose binding found fallback =>
    have words : (Operation.choose binding found fallback).chunks.tail.map Chunk.bare ++ [stop] =
        ⟨.name, {}, binding⟩ :: armTokens found fallback stop := by
      cases fallback <;> simp [Operation.chunks, armTokens]
    have filled : found ≠ [] ∨ fallback = true := by
      simpa [Operation.isDistinct] using distinct
    have read := choose_run ends filled binding
    rw [← words] at read
    exact (operation_word ..).trans read
  | enterScope kind => cases kind <;> rfl
  | exitScope => rfl
  | spawn captured => exact (operation_word ..).trans (spawn_run ends captured)

end

end Reading

/-! ## Streams -/

theorem Chunk.Fit.kind_ne_stop {chunks : List Chunk} {rest : List Char}
    (fit : Chunk.Fit chunks rest) : ∀ chunk ∈ chunks, chunk.kind ≠ .stop := by
  induction chunks with
  | nil => simp
  | cons chunk chunks ih =>
    obtain ⟨-, spelled, fit⟩ := fit
    exact List.forall_mem_cons.mpr ⟨spelled.kind_ne_stop, ih fit⟩

theorem Operation.endsLine_bare {operation : Operation} (writable : operation.Writable) :
    ∀ chunk ∈ operation.chunks, chunk.bare.endsLine = false := by
  intro chunk member
  have fits := Operation.fits_chunks writable
  have ne_stop := (fits.fit breaks_nil).kind_ne_stop chunk member
  simp [Chunk.bare, Token.endsLine, fits.going chunk member, ne_stop]

/-- A written operation starts with a token that has no gap in front. -/
theorem Operation.chunks_starts (operation : Operation) :
    ∃ first more, operation.chunks = first :: more ∧ first.gap = [] := by
  cases operation with
  | enterScope kind => cases kind <;> exact ⟨_, _, rfl, rfl⟩
  | _ => exact ⟨_, _, rfl, rfl⟩

/-- The tokens of an operation are read as the operation. -/
theorem Operation.results_bare {operation : Operation} (writable : operation.Writable)
    {stop : Token} (ends : stop.endsLine = true) :
    ∃ node : Node, results ((operation.chunks.map Chunk.bare).map .ok ++ [.ok stop]) = [.ok node] ∧
      node.operation = operation := by
  have going := Operation.endsLine_bare writable
  have read := Reading.operation_run ends writable
  have closed : ClosedLine ((operation.chunks.map Chunk.bare).map .ok ++ [.ok stop]) := by
    refine ⟨_, stop, rfl, ends, ?_⟩
    simp only [List.forall_mem_map]
    exact going
  rw [results, closed.splitLines_eq, List.flatMap_singleton]
  obtain ⟨first, more, chunks, -⟩ := operation.chunks_starts
  rw [chunks] at going read ⊢
  have start : first.bare.endsLine = false := going first List.mem_cons_self
  have line : (⟨first.bare, {}, (more.map Chunk.bare).map .ok ++ [.ok stop]⟩ : Line) =
      .along ((first :: more).map Chunk.bare ++ [stop]) := by
    simp [Line.along]
  refine ⟨⟨operation, first.bare.span.cover {}⟩, ?_, rfl⟩
  rw [List.map_cons, List.map_cons, List.cons_append, readLine, if_neg (by simp [start]), line,
    Reading.statement_run, Reading.bind_run read, Reading.conclude_run_of_endsLine ends]
  rfl

theorem Place.tokens_bare (place : Place) (chunks : List Chunk) :
    List.Forall₂ (Token.Like fun _ _ => True) (chunks.map Chunk.bare) (place.tokens chunks) := by
  induction chunks generalizing place with
  | nil => exact .nil
  | cons chunk chunks ih =>
    refine .cons ?_ (ih _)
    cases ends : chunk.bare.endsLine with
    | true => exact .inl ⟨ends, ends⟩
    | false => exact .inr ⟨ends, rfl, rfl, trivial⟩

theorem Operation.trail_cases (operation : Operation) :
    operation.trail = [] ∨ operation.trail = [' '] := by
  cases operation with
  | spawn captured =>
    cases captured with
    | nil => exact .inr rfl
    | cons first others => exact .inl rfl
  | _ => exact .inl rfl

/-- An operation is read back from a line of its own. -/
theorem Place.parse_literal {operation : Operation} (writable : operation.Writable)
    (place : Place) (indentation limit : Nat) :
    ∃ node : Node,
      (place.cursor (List.replicate indentation ' ' ++ operation.literal)).parse limit =
        .ok [node] ∧ node.operation = operation := by
  have breaks : Breaks operation.trail := by
    rcases operation.trail_cases with trail | trail <;> rw [trail]
    · exact breaks_nil
    · exact breaks_cons (by decide) []
  have ended : Skips false operation.trail [] := by
    rcases operation.trail_cases with trail | trail <;> rw [trail]
    · exact .done (by simp)
    · exact .blank (by decide) (by decide) (by decide) (.done (by simp))
  obtain ⟨first, more, chunks, bare⟩ := operation.chunks_starts
  -- The indentation is the gap in front of the first token.
  let indented : Chunk := { first with gap := List.replicate indentation ' ' }
  have text : List.replicate indentation ' ' ++ operation.literal =
      (indented :: more).flatMap Chunk.chars ++ operation.trail := by
    rw [operation.literal_eq, chunks]
    simp [indented, Chunk.chars, bare]
  have fit := (Operation.fits_chunks writable).fit breaks
  rw [chunks] at fit
  have fit : Chunk.Fit (indented :: more) operation.trail :=
    ⟨fit.1.behind.blanks indentation, fit.2⟩
  obtain ⟨stop, lexemes, ends⟩ := Place.lexemes_chunks fit ended place
  obtain ⟨node, read, same⟩ := Operation.results_bare writable ends
  rw [chunks] at read
  have like := results_stop_like trivial (place.tokens_bare (indented :: more)) ends ends
  have words : (indented :: more).map Chunk.bare = (first :: more).map Chunk.bare := rfl
  have single : [Except.ok node] = [node].map (Except.ok : Node → Except SyntaxError Node) := rfl
  rw [words, read, single] at like
  obtain ⟨again, found, operations⟩ := exists_nodes_of_like like
  obtain ⟨other, rfl⟩ : ∃ other, again = [other] := List.length_eq_one_iff.mp (by
    simpa using congrArg List.length operations)
  refine ⟨other, ?_, ?_⟩
  · rw [Cursor.parse_eq_ok_iff, text, lexemes, found]
  · rw [← same]
    simpa using operations

theorem literalFrom_cons (depth : Nat) (operation : Operation) (operations : List Operation) :
    ∃ indentation next, literalFrom depth (operation :: operations) =
      List.replicate indentation ' ' ++ operation.literal ++ '\n' :: literalFrom next operations :=
  ⟨_, _, rfl⟩

/-- The operations of a canonical text. -/
theorem Place.parse_literalFrom {operations : List Operation}
    (writable : ∀ operation ∈ operations, operation.Writable) (place : Place) (depth limit : Nat) :
    ∃ nodes : List Node, (place.cursor (literalFrom depth operations)).parse limit = .ok nodes ∧
      nodes.map (·.operation) = operations := by
  induction operations generalizing place depth with
  | nil => exact ⟨[], Place.parse_nil place limit, rfl⟩
  | cons operation operations ih =>
    rw [List.forall_mem_cons] at writable
    obtain ⟨indentation, next, text⟩ := literalFrom_cons depth operation operations
    obtain ⟨node, here, same⟩ := place.parse_literal writable.1 indentation limit
    obtain ⟨nodes, later, rest⟩ := ih writable.2 (place.nextLine _) next
    refine ⟨node :: nodes, ?_, by rw [List.map_cons, same, rest]⟩
    rw [text]
    exact Place.parse_newLine here later

/-- Operations are read back from their canonical text. -/
theorem parse_formatStream (nodes : List Node)
    (writable : ∀ node ∈ nodes, node.operation.Writable) (limit : Nat) :
    ∃ again : List Node, parse (formatStream nodes) limit = .ok again ∧
      again.map (·.operation) = nodes.map (·.operation) ∧
      formatStream again = formatStream nodes := by
  have operations : ∀ operation ∈ nodes.map (·.operation), operation.Writable := by
    simpa using writable
  obtain ⟨again, read, same⟩ := Place.parse_literalFrom operations ⟨1, 0, 0⟩ 0 limit
  refine ⟨again, ?_, same, ?_⟩
  · rw [formatStream, Place.parse_ofList, read]
  · rw [formatStream, same, formatStream]

/-- Words of the language as names, an empty list of captures, and literals of each kind that is
read back. -/
theorem parse_formatStream_words :
    (∀ node ∈ ([⟨.push "take" (.transfer "key" .move) (some (.string "\x00é\"")) (some .auto), {}⟩,
        ⟨.spawn [], {}⟩, ⟨.spawn [⟨"take", true⟩, ⟨"take", false⟩], {}⟩,
        ⟨.borrow "as" "borrow" (.range (-1) 3) .mutable, {}⟩, ⟨.choose "_" [] true, {}⟩,
        ⟨.pop "λ1" (some (.keys [.bytes [0, 255], .bool true, .integer (-20)])), {}⟩] : List Node),
      node.operation.Writable) ∧
      ∃ again : List Node, parse (formatStream
          [⟨.push "take" (.transfer "key" .move) (some (.string "\x00é\"")) (some .auto), {}⟩,
            ⟨.spawn [], {}⟩, ⟨.spawn [⟨"take", true⟩, ⟨"take", false⟩], {}⟩,
            ⟨.borrow "as" "borrow" (.range (-1) 3) .mutable, {}⟩, ⟨.choose "_" [] true, {}⟩,
            ⟨.pop "λ1" (some (.keys [.bytes [0, 255], .bool true, .integer (-20)])), {}⟩]) 1 =
        .ok again := by
  have writable : ∀ node ∈ ([⟨.push "take" (.transfer "key" .move) (some (.string "\x00é\""))
        (some .auto), {}⟩,
      ⟨.spawn [], {}⟩, ⟨.spawn [⟨"take", true⟩, ⟨"take", false⟩], {}⟩,
      ⟨.borrow "as" "borrow" (.range (-1) 3) .mutable, {}⟩, ⟨.choose "_" [] true, {}⟩,
      ⟨.pop "λ1" (some (.keys [.bytes [0, 255], .bool true, .integer (-20)])), {}⟩] : List Node),
      node.operation.Writable := by decide +kernel
  obtain ⟨again, read, -⟩ := parse_formatStream _ writable 1
  exact ⟨writable, again, read⟩

end Custody
