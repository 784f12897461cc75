import Mathlib.Algebra.BigOperators.Group.List.Basic
import IngestionEngine.Systems.Bucket

/-!
# Buckets whose rate changes

A rate that is set at certain times earns an amount over time, the integral of the rate in
force. A bucket that is refilled by no more than what was earned since it was last looked at
spends, over any window, no more than its capacity and what the window earns.
-/

namespace Systems.Bucket

variable {𝕜 : Type} [Field 𝕜] [LinearOrder 𝕜]

section Entries

/-- What some entries, each with its time, amount to in a window. -/
def spentWithin (start stop : 𝕜) (entries : List (𝕜 × 𝕜)) : 𝕜 :=
  (entries.map fun entry => if start ≤ entry.1 ∧ entry.1 ≤ stop then entry.2 else 0).sum

variable {start stop : 𝕜}

/-- Without entries nothing is spent. -/
@[simp]
theorem spentWithin_nil : spentWithin start stop ([] : List (𝕜 × 𝕜)) = 0 := rfl

/-- One entry counts if its time lies in the window. -/
theorem spentWithin_one (time amount : 𝕜) :
    spentWithin start stop [(time, amount)] =
      if start ≤ time ∧ time ≤ stop then amount else 0 := by
  simp [spentWithin]

/-- Later entries count on top. -/
theorem spentWithin_append (first second : List (𝕜 × 𝕜)) :
    spentWithin start stop (first ++ second) =
      spentWithin start stop first + spentWithin start stop second := by
  simp [spentWithin]

/-- Entries of one time count in the window or not, all together. -/
theorem spentWithin_replicate (count : ℕ) (time amount : 𝕜) :
    spentWithin start stop (List.replicate count (time, amount)) =
      if start ≤ time ∧ time ≤ stop then count * amount else 0 := by
  unfold spentWithin
  rw [List.map_replicate, List.sum_replicate, nsmul_eq_mul, mul_ite, mul_zero]

end Entries

section Earnings

/-- The integral up to a time of a rate that is set at given times, the last one first. A piece
holds the time from which its rate is in force, and the rate; before the first piece the rate is
zero. -/
def earned : List (𝕜 × 𝕜) → 𝕜 → 𝕜
  | [], _ => 0
  | (since, rate) :: older, time =>
    if since ≤ time then earned older since + rate * (time - since) else earned older time

variable {pieces : List (𝕜 × 𝕜)}

/-- From a new piece on, its rate is earned. -/
theorem earned_after {since time : 𝕜} (rate : 𝕜) (later : since ≤ time) :
    earned ((since, rate) :: pieces) time = earned pieces since + rate * (time - since) := by
  rw [earned, if_pos later]

/-- A new piece changes nothing up to its time. -/
theorem earned_before {since time : 𝕜} (rate : 𝕜) (earlier : time ≤ since) :
    earned ((since, rate) :: pieces) time = earned pieces time := by
  rw [earned]
  split
  · rename_i later
    rw [le_antisymm earlier later, sub_self, mul_zero, add_zero]
  · rfl

variable [IsStrictOrderedRing 𝕜]

/-- With rates that are not negative, the more time the more is earned. -/
theorem earned_mono (nonneg : ∀ piece ∈ pieces, 0 ≤ piece.2) : Monotone (earned pieces) := by
  induction pieces with
  | nil => exact monotone_const
  | cons piece older ih =>
    obtain ⟨own, others⟩ := List.forall_mem_cons.mp nonneg
    intro first second order
    by_cases before : piece.1 ≤ first
    · have gained := mul_nonneg own (sub_nonneg.mpr order)
      rw [earned_after _ before, earned_after _ (le_trans before order)]
      linarith only [gained]
    · have early := le_of_lt (not_le.mp before)
      rw [earned_before _ early]
      by_cases after : piece.1 ≤ second
      · have gained := mul_nonneg own (sub_nonneg.mpr after)
        have older := ih others early
        rw [earned_after _ after]
        linarith only [gained, older]
      · rw [earned_before _ (le_of_lt (not_le.mp after))]
        exact ih others order

end Earnings

section Budgets

variable [IsStrictOrderedRing 𝕜] {capacity start stop last level spent : 𝕜} {earns : 𝕜 → 𝕜}

/-- What was spent in a window by a bucket that earns over time, given when it was last looked
at and what it held then: nothing before the window, inside it no more than the capacity and
what the window has earned so far, less what is left. -/
structure Budget (capacity start stop : 𝕜) (earns : 𝕜 → 𝕜) (last level spent : 𝕜) : Prop where
  /-- Nothing is spent before the window. -/
  early : last < start → spent = 0
  /-- Inside the window the level is what has not been spent. -/
  inside : start ≤ last → last ≤ stop → spent + level ≤ capacity + (earns last - earns start)
  /-- The window bounds what has been spent in it so far. -/
  bounded : start ≤ last → spent ≤ capacity + (earns (min stop last) - earns start)

/-- A level within the capacity opens a budget. -/
theorem Budget.full (mono : Monotone earns) (within : level ≤ capacity) (positive : 0 ≤ capacity)
    (window : start ≤ stop) : Budget capacity start stop earns last level 0 where
  early := fun _ => rfl
  inside := by
    intro entered _
    have gained := mono entered
    linarith only [gained, within]
  bounded := by
    intro entered
    have gained := mono (le_min window entered)
    linarith only [gained, positive]

/-- A refill by no more than what was earned keeps the budget. -/
theorem Budget.look (mono : Monotone earns) (positive : 0 ≤ capacity) (window : start ≤ stop)
    (budget : Budget capacity start stop earns last level spent) {now raised : 𝕜}
    (later : last ≤ now) (within : raised ≤ capacity)
    (fair : raised ≤ level + (earns now - earns last)) :
    Budget capacity start stop earns now raised spent where
  early := fun before => budget.early (lt_of_le_of_lt later before)
  inside := by
    intro entered opened
    by_cases before : last < start
    · have gained := mono entered
      rw [budget.early before]
      linarith only [gained, within]
    · have kept := budget.inside (not_lt.mp before) (le_trans later opened)
      linarith only [kept, fair]
  bounded := by
    intro entered
    by_cases before : last < start
    · have gained := mono (le_min window entered)
      rw [budget.early before]
      linarith only [gained, positive]
    · have kept := budget.bounded (not_lt.mp before)
      have gained := mono (min_le_min_left stop later)
      linarith only [kept, gained]

/-- Spending no more than the level keeps the budget, whether it falls into the window or not. -/
theorem Budget.pay (budget : Budget capacity start stop earns last level spent) {amount : 𝕜}
    (fits : amount ≤ level) :
    Budget capacity start stop earns last (level - amount)
      (spent + if start ≤ last ∧ last ≤ stop then amount else 0) where
  early := by
    intro before
    have outside : ¬ (start ≤ last ∧ last ≤ stop) :=
      fun window => absurd before (not_lt.mpr window.1)
    rw [if_neg outside, add_zero]
    exact budget.early before
  inside := by
    intro entered opened
    have kept := budget.inside entered opened
    rw [if_pos ⟨entered, opened⟩]
    linarith only [kept]
  bounded := by
    intro entered
    by_cases opened : last ≤ stop
    · have kept := budget.inside entered opened
      rw [if_pos ⟨entered, opened⟩, min_eq_right opened]
      linarith only [kept, fits]
    · have outside : ¬ (start ≤ last ∧ last ≤ stop) := fun window => opened window.2
      rw [if_neg outside, add_zero]
      exact budget.bounded entered

omit [IsStrictOrderedRing 𝕜] in
/-- A budget depends only on what was earned up to the last look. -/
theorem Budget.agree (budget : Budget capacity start stop earns last level spent)
    {others : 𝕜 → 𝕜} (same : ∀ time ≤ last, others time = earns time) :
    Budget capacity start stop others last level spent where
  early := budget.early
  inside := by
    intro entered opened
    rw [same last le_rfl, same start entered]
    exact budget.inside entered opened
  bounded := by
    intro entered
    rw [same _ (min_le_right stop last), same start entered]
    exact budget.bounded entered

/-- The window bounds what was spent in it. -/
theorem Budget.total (mono : Monotone earns) (positive : 0 ≤ capacity) (window : start ≤ stop)
    (budget : Budget capacity start stop earns last level spent) :
    spent ≤ capacity + (earns stop - earns start) := by
  have whole := mono window
  by_cases before : last < start
  · rw [budget.early before]
    linarith only [whole, positive]
  · have kept := budget.bounded (not_lt.mp before)
    have gained := mono (min_le_left stop last)
    linarith only [kept, gained]

end Budgets

end Systems.Bucket
