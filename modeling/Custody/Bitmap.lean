import Custody.Word

/-!
# Bitmaps

A list of words in which position `p` is the place `p % 64` of word `p / 64`.  The list grows as
positions are added, and behind its last word all places are zero.  A walk lists the ones from the
lowest on: it clears the lowest one of the word it stands at, and goes on to the next word when
none is left.
-/

namespace Custody

namespace Bitmap

/-- Add zeros until there are as many words as asked for. -/
def resize (words : List Word) (count : Nat) : List Word :=
  words ++ List.replicate (count - words.length) 0#64

/-- Put a one at a position. -/
def set (words : List Word) (position : Nat) : List Word :=
  (resize words (position / 64 + 1)).modify (position / 64) (· ||| Word.mask (position % 64))

/-- Whether there is a one at a position. -/
def has (words : List Word) (position : Nat) : Bool :=
  match words[position / 64]? with
  | some word => word.has (position % 64)
  | none => false

/-- Put ones wherever another bitmap has them, word by word. -/
def merge (words others : List Word) : List Word :=
  let grown := resize words others.length
  List.zipWith (· ||| ·) grown others ++ grown.drop others.length

/-- Whether two bitmaps have a one at the same position, word by word. -/
def meets (words others : List Word) : Bool :=
  (words.zip others).any fun (left, right) => left &&& right ≠ 0#64

/-- The number of ones. -/
def countOnes : List Word → Nat
  | [] => 0
  | word :: rest => word.countOnes + countOnes rest

/-- The last word is not zero. -/
def Trimmed (words : List Word) : Prop :=
  words.getLast? ≠ some 0#64

/-- How far a walk over the ones has come: the index of a word, what is left of that word and the
words behind it. -/
structure Walk where
  index : Nat
  current : Word
  rest : List Word

namespace Walk

/-- At the first word. -/
def start (words : List Word) : Walk :=
  { index := 0, current := words.head?.getD 0#64, rest := words.tail }

/-- The first of some words in which a one is left, or the last of them. -/
def skip : Nat → Word → List Word → Walk
  | index, current, [] => { index, current, rest := [] }
  | index, current, word :: rest =>
    if current = 0#64 then skip (index + 1) word rest else { index, current, rest := word :: rest }

/-- The position of the next one, which is cleared. -/
def next? (walk : Walk) : Option (Nat × Walk) :=
  let found := skip walk.index walk.current walk.rest
  if found.current = 0#64 then none
  else some (found.index * 64 + found.current.trailingZeros,
    { found with current := found.current.clearLowest })

/-- The positions that follow.  The first argument bounds their number. -/
def collect : Nat → Walk → List Nat
  | 0, _ => []
  | bound + 1, walk =>
    match walk.next? with
    | some (position, walk) => position :: collect bound walk
    | none => []

end Walk

/-- The positions of all ones. -/
def ones (words : List Word) : List Nat :=
  (Walk.start words).collect (64 * words.length)

/-! ## Words at an index -/

/-- The word at an index; behind the last word all are zero. -/
def wordAt (words : List Word) (index : Nat) : Word :=
  words[index]?.getD 0#64

@[simp] theorem wordAt_nil (index : Nat) : wordAt [] index = 0#64 := rfl

@[simp] theorem wordAt_cons_zero (word : Word) (rest : List Word) :
    wordAt (word :: rest) 0 = word := rfl

@[simp] theorem wordAt_cons_succ (word : Word) (rest : List Word) (index : Nat) :
    wordAt (word :: rest) (index + 1) = wordAt rest index := rfl

theorem wordAt_of_le {words : List Word} {index : Nat} (past : words.length ≤ index) :
    wordAt words index = 0#64 := by
  rw [wordAt, List.getElem?_eq_none past]
  rfl

theorem has_eq_getLsbD (words : List Word) (position : Nat) :
    has words position = (wordAt words (position / 64)).getLsbD (position % 64) := by
  rw [has, wordAt]
  cases words[position / 64]? with
  | none => simp
  | some word => exact word.has_eq_getLsbD (Nat.mod_lt _ (by decide))

theorem lt_of_has {words : List Word} {position : Nat} (one : has words position = true) :
    position < 64 * words.length := by
  apply Nat.lt_of_not_le
  intro past
  rw [has_eq_getLsbD, wordAt_of_le (by omega), BitVec.getLsbD_zero] at one
  cases one

@[simp] theorem wordAt_resize (words : List Word) (count index : Nat) :
    wordAt (resize words count) index = wordAt words index := by
  rw [wordAt, wordAt, resize, List.getElem?_append]
  split
  · rfl
  · next past =>
    rw [List.getElem?_replicate, List.getElem?_eq_none (Nat.le_of_not_lt past)]
    split <;> rfl

theorem le_length_resize (words : List Word) (count : Nat) :
    count ≤ (resize words count).length := by
  rw [resize, List.length_append, List.length_replicate]
  omega

theorem wordAt_set (words : List Word) (position index : Nat) :
    wordAt (set words position) index =
      if index = position / 64 then wordAt words index ||| Word.mask (position % 64)
      else wordAt words index := by
  have reaches := le_length_resize words (position / 64 + 1)
  rw [← wordAt_resize words (position / 64 + 1), wordAt, wordAt, set, List.getElem?_modify]
  split
  · next same =>
    subst same
    rw [List.getElem?_eq_getElem (by omega)]
    simp
  · next apart => simp [Ne.symm apart]

theorem wordAt_merge (words others : List Word) (index : Nat) :
    wordAt (merge words others) index = wordAt words index ||| wordAt others index := by
  have reaches := le_length_resize words others.length
  rw [← wordAt_resize words others.length, merge]
  generalize resize words others.length = grown at reaches
  simp only [wordAt]
  rw [List.getElem?_append, List.length_zipWith, Nat.min_eq_right reaches]
  split
  · next inside =>
    rw [List.getElem?_zipWith, List.getElem?_eq_getElem (Nat.lt_of_lt_of_le inside reaches),
      List.getElem?_eq_getElem inside]
    rfl
  · next past =>
    rw [List.getElem?_drop, List.getElem?_eq_none (l := others) (Nat.le_of_not_lt past),
      Nat.add_sub_cancel' (Nat.le_of_not_lt past)]
    simp

theorem has_set (words : List Word) (position other : Nat) :
    has (set words position) other = (has words other || decide (position = other)) := by
  have inside : position % 64 < 64 := Nat.mod_lt _ (by decide)
  rw [has_eq_getLsbD, has_eq_getLsbD, wordAt_set]
  split
  · next same =>
    rw [BitVec.getLsbD_or, Word.getLsbD_mask inside]
    congr 1
    rw [decide_eq_decide]
    omega
  · next apart =>
    rw [decide_eq_false (by rintro rfl; exact apart rfl), Bool.or_false]

theorem has_merge (words others : List Word) (position : Nat) :
    has (merge words others) position = (has words position || has others position) := by
  simp only [has_eq_getLsbD, wordAt_merge, BitVec.getLsbD_or]

theorem meets_iff {words others : List Word} :
    meets words others = true ↔
      ∃ position, has words position = true ∧ has others position = true := by
  simp only [has_eq_getLsbD, meets]
  constructor
  · intro found
    obtain ⟨⟨left, right⟩, member, nonzero⟩ := List.any_eq_true.mp found
    obtain ⟨index, inside, here⟩ := List.getElem_of_mem member
    obtain ⟨place, low, one⟩ := Word.exists_getLsbD (of_decide_eq_true nonzero)
    rw [BitVec.getLsbD_and, Bool.and_eq_true] at one
    rw [List.length_zip] at inside
    rw [List.getElem_zip, Prod.mk.injEq] at here
    refine ⟨index * 64 + place, ?_⟩
    have whole : (index * 64 + place) / 64 = index := by omega
    have part : (index * 64 + place) % 64 = place := by omega
    rw [whole, part, wordAt, wordAt, List.getElem?_eq_getElem (by omega),
      List.getElem?_eq_getElem (by omega), here.1, here.2]
    exact one
  · rintro ⟨position, inWords, inOthers⟩
    have low : position < 64 * words.length := lt_of_has (by rwa [has_eq_getLsbD])
    have lowOther : position < 64 * others.length := lt_of_has (by rwa [has_eq_getLsbD])
    have inside : position / 64 < words.length := by omega
    have insideOther : position / 64 < others.length := by omega
    rw [wordAt, List.getElem?_eq_getElem inside] at inWords
    rw [wordAt, List.getElem?_eq_getElem insideOther] at inOthers
    refine List.any_eq_true.mpr ⟨(words[position / 64], others[position / 64]), ?_, ?_⟩
    · rw [← List.getElem_zip (h := by rw [List.length_zip]; omega)]
      exact List.getElem_mem _
    · apply decide_eq_true
      apply Word.ne_zero_of_getLsbD
      rw [BitVec.getLsbD_and, Bool.and_eq_true]
      exact ⟨inWords, inOthers⟩

/-! ## Counting -/

theorem has_cons_add (word : Word) (rest : List Word) (position : Nat) :
    has (word :: rest) (64 + position) = has rest position := by
  have whole : (64 + position) / 64 = position / 64 + 1 := by omega
  rw [has_eq_getLsbD, has_eq_getLsbD, whole, wordAt_cons_succ, Nat.add_mod_left]

/-- The ones of all words are the positions below the end that have one. -/
theorem countOnes_eq_countP (words : List Word) :
    countOnes words = (List.range (64 * words.length)).countP (has words) := by
  induction words with
  | nil => rfl
  | cons word rest ih =>
    have first : (List.range 64).countP (has (word :: rest)) = word.countOnes := by
      apply List.countP_congr
      intro place inside
      have inside := List.mem_range.mp inside
      have whole : place / 64 = 0 := by omega
      rw [has_eq_getLsbD, whole, wordAt_cons_zero, Nat.mod_eq_of_lt inside]
    have others : has (word :: rest) ∘ (64 + ·) = has rest :=
      funext (has_cons_add word rest)
    rw [List.length_cons, Nat.mul_succ, Nat.add_comm, List.range_add, List.countP_append, first,
      List.countP_map, others, ← ih, countOnes]

/-! ## Trimmed bitmaps -/

theorem trimmed_iff {words : List Word} :
    Trimmed words ↔ ∀ last, words.length = last + 1 → wordAt words last ≠ 0#64 := by
  rw [Trimmed, List.getLast?_eq_getElem?]
  cases words with
  | nil => simp
  | cons word rest => simp [wordAt]

theorem trimmed_nil : Trimmed [] := by
  simp [Trimmed]

/-- Adding a position leaves a one in the last word. -/
theorem Trimmed.set {words : List Word} (trimmed : Trimmed words) (position : Nat) :
    Trimmed (set words position) := by
  have length : (Bitmap.set words position).length = max words.length (position / 64 + 1) := by
    rw [Bitmap.set, List.length_modify, resize, List.length_append, List.length_replicate]
    omega
  rw [trimmed_iff] at trimmed ⊢
  intro last isLast
  rw [wordAt_set]
  split
  · have inside : position % 64 < 64 := Nat.mod_lt _ (by decide)
    have one :
        (wordAt words last ||| Word.mask (position % 64)).getLsbD (position % 64) = true := by
      rw [BitVec.getLsbD_or, Word.getLsbD_mask inside, decide_eq_true rfl, Bool.or_true]
    exact Word.ne_zero_of_getLsbD one
  · exact trimmed last (by omega)

theorem Trimmed.merge {words others : List Word} (left : Trimmed words) (right : Trimmed others) :
    Trimmed (merge words others) := by
  have length : (Bitmap.merge words others).length = max words.length others.length := by
    simp only [Bitmap.merge, resize, List.length_append, List.length_zipWith, List.length_drop,
      List.length_replicate]
    omega
  rw [trimmed_iff] at left right ⊢
  intro last isLast zero
  rw [wordAt_merge, BitVec.or_eq_zero_iff] at zero
  rcases Nat.le_total words.length others.length with shorter | longer
  · exact right last (by omega) zero.2
  · exact left last (by omega) zero.1

theorem wordAt_eq_of_has_eq {words others : List Word} (same : ∀ position,
    has words position = has others position) (index : Nat) :
    wordAt words index = wordAt others index := by
  apply BitVec.eq_of_getLsbD_eq
  intro place inside
  have here := same (index * 64 + place)
  have whole : (index * 64 + place) / 64 = index := by omega
  have part : (index * 64 + place) % 64 = place := by omega
  rwa [has_eq_getLsbD, has_eq_getLsbD, whole, part] at here

private theorem length_le_of_wordAt_eq {words others : List Word} (trimmed : Trimmed words)
    (same : ∀ index, wordAt words index = wordAt others index) :
    words.length ≤ others.length := by
  apply Nat.le_of_not_lt
  intro longer
  obtain ⟨last, isLast⟩ : ∃ last, words.length = last + 1 := ⟨words.length - 1, by omega⟩
  refine trimmed_iff.mp trimmed last isLast ?_
  rw [same, wordAt_of_le (by omega)]

/-- Where no zeros are kept behind the last one, the ones determine the words. -/
theorem eq_of_has_eq {words others : List Word} (left : Trimmed words) (right : Trimmed others)
    (same : ∀ position, has words position = has others position) : words = others := by
  have words_eq := wordAt_eq_of_has_eq same
  have length : words.length = others.length :=
    Nat.le_antisymm (length_le_of_wordAt_eq left words_eq)
      (length_le_of_wordAt_eq right fun index => (words_eq index).symm)
  apply List.ext_getElem length
  intro index inside insideOther
  have here := words_eq index
  rwa [wordAt, wordAt, List.getElem?_eq_getElem inside,
    List.getElem?_eq_getElem insideOther] at here

theorem all_zero_iff {words : List Word} :
    words.all (· = 0#64) = true ↔ ∀ position, has words position = false := by
  rw [List.all_eq_true]
  constructor
  · intro zero position
    rw [has]
    split
    · next word there =>
      have := zero word (List.mem_of_getElem? there)
      rw [of_decide_eq_true this]
      simp [Word.has]
    · rfl
  · intro no word member
    obtain ⟨index, inside, rfl⟩ := List.getElem_of_mem member
    apply decide_eq_true
    have same : wordAt words index = wordAt [] index := wordAt_eq_of_has_eq no index
    rwa [wordAt, List.getElem?_eq_getElem inside] at same

/-! ## Walks -/

namespace Walk

/-- The positions that a walk has yet to come to. -/
def Ahead (walk : Walk) (position : Nat) : Prop :=
  walk.index ≤ position / 64 ∧
    (wordAt (walk.current :: walk.rest) (position / 64 - walk.index)).getLsbD (position % 64) = true

theorem ahead_start {words : List Word} {position : Nat} :
    (start words).Ahead position ↔ has words position = true := by
  rw [has_eq_getLsbD]
  cases words with
  | nil =>
    have zero : wordAt [0#64] (position / 64) = 0#64 := by
      cases position / 64 <;> rfl
    simp [Ahead, start, zero]
  | cons word rest => simp [Ahead, start]

theorem ahead_skip {index : Nat} {current : Word} {rest : List Word} {position : Nat} :
    (skip index current rest).Ahead position ↔ Ahead ⟨index, current, rest⟩ position := by
  induction rest generalizing index current with
  | nil => rfl
  | cons word rest ih =>
    rw [skip]
    split
    · next zero =>
      subst zero
      rw [ih, Ahead, Ahead]
      dsimp only
      rcases Nat.lt_trichotomy (position / 64) index with before | here | behind
      · simp only [Nat.not_le.mpr before, Nat.not_le.mpr (Nat.lt_succ_of_lt before), false_and]
      · have past : ¬index + 1 ≤ index := Nat.not_succ_le_self index
        rw [here, Nat.sub_self, wordAt_cons_zero, BitVec.getLsbD_zero]
        simp only [past, false_and, Bool.false_eq_true, and_false]
      · have shifted : position / 64 - index = position / 64 - (index + 1) + 1 := by omega
        simp only [shifted, wordAt_cons_succ, Nat.succ_le_of_lt behind, Nat.le_of_lt behind]
    · rfl

/-- Words without a one are passed until none is left. -/
theorem rest_skip {index : Nat} {current : Word} {rest : List Word}
    (zero : (skip index current rest).current = 0#64) : (skip index current rest).rest = [] := by
  induction rest generalizing index current with
  | nil => rfl
  | cons word rest ih =>
    rw [skip] at zero ⊢
    split at zero
    · next empty =>
      rw [if_pos empty]
      exact ih zero
    · next one => exact absurd zero one

theorem not_ahead_of_next? {walk : Walk} (ended : walk.next? = none) (position : Nat) :
    ¬walk.Ahead position := by
  intro ahead
  rw [next?] at ended
  split at ended
  · next zero =>
    have left := (ahead_skip.mpr ahead).2
    rw [zero, rest_skip zero] at left
    generalize position / 64 - (skip walk.index walk.current walk.rest).index = gap at left
    cases gap <;> simp at left
  · cases ended

theorem ahead_lowest {index : Nat} {current : Word} (rest : List Word) (one : current ≠ 0#64) :
    Ahead ⟨index, current, rest⟩ (index * 64 + current.trailingZeros) := by
  have here := Word.getLsbD_trailingZeros one
  have inside := BitVec.lt_of_getLsbD here
  have whole : (index * 64 + current.trailingZeros) / 64 = index := by omega
  have part : (index * 64 + current.trailingZeros) % 64 = current.trailingZeros := by omega
  rw [Ahead, whole, part, Nat.sub_self]
  exact ⟨Nat.le_refl index, here⟩

theorem ahead_clearLowest {index : Nat} {current : Word} {rest : List Word} {position : Nat}
    (one : current ≠ 0#64) :
    Ahead ⟨index, current.clearLowest, rest⟩ position ↔
      Ahead ⟨index, current, rest⟩ position ∧ index * 64 + current.trailingZeros < position := by
  have inside := BitVec.lt_of_getLsbD (Word.getLsbD_trailingZeros one)
  rw [Ahead, Ahead]
  dsimp only
  rcases Nat.lt_trichotomy (position / 64) index with before | here | behind
  · simp only [Nat.not_le.mpr before, false_and]
  · have above : current.trailingZeros < position % 64 ↔
        index * 64 + current.trailingZeros < position := by omega
    simp only [here, Nat.sub_self, wordAt_cons_zero, Word.getLsbD_clearLowest_iff one, above,
      Nat.le_refl, true_and]
  · have above : index * 64 + current.trailingZeros < position := by omega
    have shifted : position / 64 - index = position / 64 - (index + 1) + 1 := by omega
    simp only [shifted, wordAt_cons_succ, above, and_true]

theorem lowest_le {index : Nat} {current : Word} {rest : List Word} {position : Nat}
    (one : current ≠ 0#64) (ahead : Ahead ⟨index, current, rest⟩ position) :
    index * 64 + current.trailingZeros ≤ position := by
  have inside := BitVec.lt_of_getLsbD (Word.getLsbD_trailingZeros one)
  obtain ⟨reached, there⟩ := ahead
  rcases Nat.eq_or_lt_of_le reached with here | behind
  · dsimp only at here there
    rw [← here, Nat.sub_self, wordAt_cons_zero] at there
    have := Word.trailingZeros_le there
    omega
  · dsimp only at behind
    omega

/-- The next position is the least ahead, and the rest of the walk is what lies above it. -/
theorem ahead_of_next? {walk after : Walk} {position : Nat}
    (found : walk.next? = some (position, after)) :
    walk.Ahead position ∧ (∀ other, walk.Ahead other → position ≤ other) ∧
      ∀ other, after.Ahead other ↔ walk.Ahead other ∧ position < other := by
  rw [next?] at found
  split at found
  · cases found
  · next one =>
    cases found
    refine ⟨ahead_skip.mp (ahead_lowest _ one), fun other ahead => ?_, fun other => ?_⟩
    · exact lowest_le one (ahead_skip.mpr ahead)
    · exact (ahead_clearLowest one).trans (and_congr_left' ahead_skip)

theorem ahead_of_mem_collect {bound position : Nat} {walk : Walk}
    (member : position ∈ walk.collect bound) : walk.Ahead position := by
  induction bound generalizing walk with
  | zero => cases member
  | succ bound ih =>
    rw [collect] at member
    split at member
    · next found =>
      obtain ⟨here, -, later⟩ := ahead_of_next? found
      rcases List.mem_cons.mp member with rfl | behind
      · exact here
      · exact ((later position).mp (ih behind)).1
    · cases member

/-- A walk comes to everything ahead where its bound is not below the range in which that lies. -/
theorem mem_collect_of_ahead {bound start position : Nat} {walk : Walk}
    (within : ∀ other, walk.Ahead other → start ≤ other ∧ other < start + bound)
    (ahead : walk.Ahead position) : position ∈ walk.collect bound := by
  induction bound generalizing start walk with
  | zero =>
    have := within position ahead
    omega
  | succ bound ih =>
    rw [collect]
    split
    · next first after found =>
      obtain ⟨here, least, later⟩ := ahead_of_next? found
      rcases Nat.eq_or_lt_of_le (least position ahead) with rfl | above
      · exact List.mem_cons_self ..
      · have fewer : ∀ other, after.Ahead other →
            start + 1 ≤ other ∧ other < start + 1 + bound := by
          intro other ahead
          obtain ⟨old, higher⟩ := (later other).mp ahead
          have low := within first here
          have high := within other old
          omega
        exact List.mem_cons_of_mem _ (ih fewer ((later position).mpr ⟨ahead, above⟩))
    · next ended => exact absurd ahead (not_ahead_of_next? ended position)

theorem collect_pairwise (bound : Nat) (walk : Walk) :
    (walk.collect bound).Pairwise (· < ·) := by
  induction bound generalizing walk with
  | zero => exact .nil
  | succ bound ih =>
    rw [collect]
    split
    · next found =>
      refine List.pairwise_cons.mpr ⟨?_, ih _⟩
      intro position member
      exact (((ahead_of_next? found).2.2 position).mp (ahead_of_mem_collect member)).2
    · exact .nil

end Walk

/-- All ones are listed, and nothing else. -/
@[simp] theorem mem_ones {words : List Word} {position : Nat} :
    position ∈ ones words ↔ has words position = true := by
  rw [← Walk.ahead_start]
  constructor
  · exact Walk.ahead_of_mem_collect
  · have within : ∀ other, (Walk.start words).Ahead other →
        0 ≤ other ∧ other < 0 + 64 * words.length := by
      intro other ahead
      have below := lt_of_has (Walk.ahead_start.mp ahead)
      omega
    exact Walk.mem_collect_of_ahead within

/-- The ones are listed in ascending order. -/
theorem ones_pairwise (words : List Word) : (ones words).Pairwise (· < ·) :=
  Walk.collect_pairwise ..

end Bitmap

end Custody
