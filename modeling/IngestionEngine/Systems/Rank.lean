import Mathlib.Data.List.Sort
import Mathlib.Data.Rat.Floor

/-!
# Samples by rank

The value of a rank has at most so many samples below it, and more than so many that are not above
it. Each rank below the number of samples has one value, which is a sample, and a higher rank has no
lower value. Sorting finds it; the definition does not mention an order of the samples.
-/

namespace Systems

/-- The samples before an index and those from it on are counted apart. -/
theorem countP_split {α : Type} (holds : α → Bool) (samples : List α) (index : Nat) :
    samples.countP holds =
      (samples.take index).countP holds + (samples.drop index).countP holds := by
  rw [← List.countP_append, List.take_append_drop]

variable {α : Type} [LinearOrder α]

/-- The value has the rank among the samples, where the least rank is zero. -/
structure HasRank (samples : List α) (rank : Nat) (value : α) : Prop where
  /-- No more samples are below it. -/
  below : samples.countP (· < value) ≤ rank
  /-- More samples are not above it. -/
  within : rank < samples.countP (· ≤ value)

namespace HasRank

variable {samples : List α} {rank : Nat} {value : α}

/-- A value with a rank is a sample. -/
theorem mem (ranked : HasRank samples rank value) : value ∈ samples := by
  by_contra missing
  have same : samples.countP (· ≤ value) = samples.countP (· < value) := by
    apply List.countP_congr
    intro sample member
    have different : sample ≠ value := by
      rintro rfl
      exact missing member
    simp [lt_iff_le_and_ne, different]
  have below := ranked.below
  have within := ranked.within
  omega

/-- The rank does not depend on the order of the samples. -/
theorem perm {others : List α} (ranked : HasRank samples rank value)
    (same : samples.Perm others) : HasRank others rank value := by
  constructor
  · rw [← same.countP_eq]
    exact ranked.below
  · rw [← same.countP_eq]
    exact ranked.within

/-- A higher rank has no lower value. -/
theorem mono {high : Nat} {upper : α} (ranked : HasRank samples rank value)
    (above : HasRank samples high upper) (ordered : rank ≤ high) : value ≤ upper := by
  by_contra reversed
  have lower : upper < value := lt_of_not_ge reversed
  have fewer : samples.countP (· ≤ upper) ≤ samples.countP (· < value) := by
    apply List.countP_mono_left
    intro sample _ small
    have bounded : sample ≤ upper := of_decide_eq_true small
    exact decide_eq_true (lt_of_le_of_lt bounded lower)
  have below := ranked.below
  have within := above.within
  omega

/-- A rank has one value. -/
theorem unique {other : α} (ranked : HasRank samples rank value)
    (again : HasRank samples rank other) : value = other :=
  le_antisymm (ranked.mono again le_rfl) (again.mono ranked le_rfl)

/-- In a sorted list the samples before an index are not above the one at it, which is not above
those from it on. -/
theorem sorted_around (sorted : samples.Pairwise (· ≤ ·)) (inside : rank < samples.length) :
    (∀ sample ∈ samples.take rank, sample ≤ samples[rank]) ∧
      ∀ sample ∈ samples.drop rank, samples[rank] ≤ sample := by
  have first : samples.drop rank = samples[rank] :: samples.drop (rank + 1) :=
    List.drop_eq_getElem_cons inside
  rw [← List.take_append_drop rank samples, List.pairwise_append, first, List.pairwise_cons]
    at sorted
  obtain ⟨_, ⟨later, _⟩, across⟩ := sorted
  constructor
  · intro sample member
    exact across sample member _ List.mem_cons_self
  · intro sample member
    rw [first] at member
    rcases List.mem_cons.mp member with rfl | after
    · exact le_rfl
    · exact later sample after

/-- In a sorted list the value of a rank stands at its index. -/
theorem of_sorted (sorted : samples.Pairwise (· ≤ ·)) (inside : rank < samples.length) :
    HasRank samples rank samples[rank] := by
  obtain ⟨before, after⟩ := sorted_around sorted inside
  constructor
  · have none : (samples.drop rank).countP (· < samples[rank]) = 0 := by
      rw [List.countP_eq_zero]
      intro sample member
      rw [decide_eq_true_eq, not_lt]
      exact after sample member
    calc samples.countP (· < samples[rank])
        = (samples.take rank).countP (· < samples[rank]) +
          (samples.drop rank).countP (· < samples[rank]) := countP_split _ _ _
      _ = (samples.take rank).countP (· < samples[rank]) := by rw [none, Nat.add_zero]
      _ ≤ (samples.take rank).length := List.countP_le_length
      _ ≤ rank := List.length_take_le _ _
  · have all : (samples.take rank).countP (· ≤ samples[rank]) = (samples.take rank).length := by
      rw [List.countP_eq_length]
      intro sample member
      exact decide_eq_true (before sample member)
    have whole : (samples.take rank).length = rank := List.length_take_of_le inside.le
    have itself : 0 < (samples.drop rank).countP (· ≤ samples[rank]) := by
      rw [List.countP_pos_iff, List.drop_eq_getElem_cons inside]
      exact ⟨samples[rank], List.mem_cons_self, decide_eq_true le_rfl⟩
    have total := countP_split (· ≤ samples[rank]) samples rank
    omega

/-- Sorting puts the value of a rank at its index. -/
theorem mergeSort (samples : List α) (inside : rank < samples.mergeSort.length) :
    HasRank samples rank samples.mergeSort[rank] := by
  have sorted : samples.mergeSort.Pairwise (· ≤ ·) := List.pairwise_mergeSort' (· ≤ ·) samples
  exact (of_sorted sorted inside).perm (List.mergeSort_perm samples _)

/-- The value whose rank is a share of the samples, rounded down: at most this share is below it,
and more than it is not above it. -/
theorem share {amount : ℚ} (positive : 0 ≤ amount)
    (ranked : HasRank samples ⌊amount⌋.toNat value) :
    (samples.countP (· < value) : ℚ) ≤ amount ∧ amount < samples.countP (· ≤ value) := by
  have floor : ⌊amount⌋.toNat = ⌊amount⌋₊ := Int.floor_toNat amount
  constructor
  · calc (samples.countP (· < value) : ℚ)
        ≤ (⌊amount⌋.toNat : ℚ) := by exact_mod_cast ranked.below
      _ = (⌊amount⌋₊ : ℚ) := by rw [floor]
      _ ≤ amount := Nat.floor_le positive
  · have more : ⌊amount⌋₊ + 1 ≤ samples.countP (· ≤ value) := by
      rw [← floor]
      exact ranked.within
    calc amount < (⌊amount⌋₊ : ℚ) + 1 := Nat.lt_floor_add_one amount
      _ ≤ (samples.countP (· ≤ value) : ℚ) := by exact_mod_cast more

end HasRank

end Systems
