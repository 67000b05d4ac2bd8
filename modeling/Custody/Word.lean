/-!
# Words

A word of 64 bits stands for the places of its ones.  The lowest one is found by the zeros below it
and cleared by taking one away.
-/

namespace Custody

/-- A word of 64 bits. -/
abbrev Word := BitVec 64

namespace Word

/-- The word whose only one is at a place. -/
def mask (place : Nat) : Word :=
  1#64 <<< place

/-- Whether a word has a one at a place. -/
def has (word : Word) (place : Nat) : Bool :=
  word &&& mask place ≠ 0#64

/-- The number of zeros below the lowest one. -/
def trailingZeros (word : Word) : Nat :=
  (List.range 64).findIdx word.getLsbD

/-- The number of ones. -/
def countOnes (word : Word) : Nat :=
  (List.range 64).countP word.getLsbD

/-- The word without its lowest one. -/
def clearLowest (word : Word) : Word :=
  word &&& (word - 1#64)

/-! ## Single ones -/

theorem getLsbD_mask {place : Nat} (inside : place < 64) (other : Nat) :
    (mask place).getLsbD other = decide (other = place) := by
  rw [mask, BitVec.getLsbD_shiftLeft, BitVec.getLsbD_one]
  by_cases same : other = place
  · subst same
    simp [inside]
  · have apart : ¬(¬other < place ∧ other - place = 0) := by omega
    simp only [same, decide_false]
    by_cases low : other < place <;> simp_all

theorem exists_getLsbD {word : Word} (nonzero : word ≠ 0#64) :
    ∃ place < 64, word.getLsbD place = true := by
  apply Classical.byContradiction
  intro none
  apply nonzero
  apply BitVec.eq_of_getLsbD_eq
  intro place inside
  rw [BitVec.getLsbD_zero, Bool.eq_false_iff]
  exact fun one => none ⟨place, inside, one⟩

theorem ne_zero_of_getLsbD {word : Word} {place : Nat} (one : word.getLsbD place = true) :
    word ≠ 0#64 := by
  rintro rfl
  simp at one

theorem has_eq_getLsbD (word : Word) {place : Nat} (inside : place < 64) :
    word.has place = word.getLsbD place := by
  rw [has]
  cases one : word.getLsbD place with
  | true =>
    have both : (word &&& mask place).getLsbD place = true := by
      rw [BitVec.getLsbD_and, one, getLsbD_mask inside, decide_eq_true rfl]
      rfl
    exact decide_eq_true (ne_zero_of_getLsbD both)
  | false =>
    apply decide_eq_false
    intro nonzero
    obtain ⟨other, -, both⟩ := exists_getLsbD nonzero
    rw [BitVec.getLsbD_and, getLsbD_mask inside, Bool.and_eq_true, decide_eq_true_eq] at both
    rw [both.2, one] at both
    simp at both

/-! ## The lowest one -/

/-- The trailing zeros end at a one. -/
theorem getLsbD_trailingZeros {word : Word} (nonzero : word ≠ 0#64) :
    word.getLsbD word.trailingZeros = true := by
  obtain ⟨place, inside, one⟩ := exists_getLsbD nonzero
  have found : word.trailingZeros < (List.range 64).length :=
    List.findIdx_lt_length_of_exists ⟨place, List.mem_range.mpr inside, one⟩
  have stops : word.getLsbD ((List.range 64)[word.trailingZeros]) = true :=
    List.findIdx_getElem (w := found)
  rwa [List.getElem_range] at stops

theorem getLsbD_of_lt_trailingZeros {word : Word} {place : Nat}
    (lower : place < word.trailingZeros) : word.getLsbD place = false := by
  have passed := List.not_of_lt_findIdx lower
  rwa [List.getElem_range] at passed

theorem trailingZeros_le {word : Word} {place : Nat} (one : word.getLsbD place = true) :
    word.trailingZeros ≤ place := by
  apply Nat.le_of_not_lt
  intro lower
  rw [getLsbD_of_lt_trailingZeros lower] at one
  cases one

/-- A word is an odd number in front of its trailing zeros. -/
theorem exists_toNat_eq {word : Word} (nonzero : word ≠ 0#64) :
    ∃ high, word.toNat = (2 * high + 1) <<< word.trailingZeros := by
  have one := getLsbD_trailingZeros nonzero
  have zeros : ∀ lower < word.trailingZeros, word.getLsbD lower = false :=
    fun _ lower => getLsbD_of_lt_trailingZeros lower
  generalize word.trailingZeros = lowest at one zeros ⊢
  have low : word.toNat % 2 ^ (lowest + 1) = 2 ^ lowest := by
    apply Nat.eq_of_testBit_eq
    intro other
    rw [Nat.testBit_mod_two_pow, Nat.testBit_two_pow]
    rcases Nat.lt_trichotomy other lowest with below | rfl | above
    · have zero : word.toNat.testBit other = false := zeros other below
      simp [zero, Nat.ne_of_gt below]
    · have here : word.toNat.testBit other = true := one
      simp [here]
    · have beyond : ¬other < lowest + 1 := by omega
      simp [beyond, Nat.ne_of_lt above]
  refine ⟨word.toNat / 2 ^ (lowest + 1), ?_⟩
  rw [Nat.shiftLeft_eq, Nat.add_mul, Nat.one_mul, Nat.mul_comm (2 * _), ← Nat.mul_assoc,
    ← Nat.pow_succ, ← low, Nat.div_add_mod]

/-- Clearing the lowest one leaves all others. -/
theorem getLsbD_clearLowest {word : Word} (nonzero : word ≠ 0#64) (place : Nat) :
    word.clearLowest.getLsbD place =
      (word.getLsbD place && decide (place ≠ word.trailingZeros)) := by
  obtain ⟨high, odd⟩ := exists_toNat_eq nonzero
  generalize word.trailingZeros = lowest at odd ⊢
  have split : word.toNat = 2 ^ (lowest + 1) * high + 2 ^ lowest := by
    rw [odd, Nat.shiftLeft_eq, Nat.add_mul, Nat.one_mul, Nat.mul_comm (2 * _), ← Nat.mul_assoc,
      ← Nat.pow_succ]
  have positive := Nat.two_pow_pos lowest
  -- One less turns the lowest one and what is below it, and nothing above.
  have less : (word - 1#64).toNat = 2 ^ (lowest + 1) * high + (2 ^ lowest - 1) := by
    have atLeast : 1#64 ≤ word := by
      rw [BitVec.le_def, split]
      exact Nat.le_trans positive (Nat.le_add_left ..)
    rw [BitVec.toNat_sub_of_le atLeast, split]
    exact Nat.add_sub_assoc positive _
  have small : 2 ^ lowest < 2 ^ (lowest + 1) := Nat.pow_lt_pow_succ (by decide)
  have whole : word.getLsbD place =
      if place < lowest + 1 then (2 ^ lowest).testBit place
      else high.testBit (place - (lowest + 1)) := by
    rw [BitVec.getLsbD, split]
    exact Nat.testBit_two_pow_mul_add high small place
  have fewer : (word - 1#64).getLsbD place =
      if place < lowest + 1 then (2 ^ lowest - 1).testBit place
      else high.testBit (place - (lowest + 1)) := by
    rw [BitVec.getLsbD, less]
    exact Nat.testBit_two_pow_mul_add high (by omega) place
  rw [clearLowest, BitVec.getLsbD_and, whole, fewer, Nat.testBit_two_pow,
    Nat.testBit_two_pow_sub_one]
  rcases Nat.lt_trichotomy place lowest with below | rfl | above
  · simp [Nat.ne_of_gt below, Nat.lt_succ_of_lt below]
  · simp
  · have beyond : ¬place < lowest + 1 := by omega
    simp [beyond, Nat.ne_of_gt above]

theorem getLsbD_clearLowest_iff {word : Word} (nonzero : word ≠ 0#64) {place : Nat} :
    word.clearLowest.getLsbD place = true ↔
      word.getLsbD place = true ∧ word.trailingZeros < place := by
  rw [getLsbD_clearLowest nonzero, Bool.and_eq_true, decide_eq_true_eq]
  constructor
  · rintro ⟨one, apart⟩
    exact ⟨one, Nat.lt_of_le_of_ne (trailingZeros_le one) (Ne.symm apart)⟩
  · rintro ⟨one, above⟩
    exact ⟨one, Nat.ne_of_gt above⟩

end Word

end Custody
