import Mathlib.Algebra.BigOperators.Intervals
import Mathlib.Algebra.Order.Field.Basic
import Mathlib.Tactic.Linarith
import Mathlib.Tactic.Ring

/-!
# Leaky levels

A level rises at a constant rate up to a capacity and drops by what is spent. It is kept
lazily, by refilling it only when it is looked at. How often it is looked at does not
matter, and the level is the least allowance over all windows that end now.
-/

namespace Systems.Bucket

variable {𝕜 : Type} [Field 𝕜] [LinearOrder 𝕜]

section Refill

variable (capacity rate : 𝕜)

/-- The level after some time without spending. -/
def refill (elapsed level : 𝕜) : 𝕜 := min capacity (level + elapsed * rate)

variable {capacity rate}

/-- A refill never exceeds the capacity. -/
theorem refill_le_capacity (elapsed level : 𝕜) : refill capacity rate elapsed level ≤ capacity :=
  min_le_left _ _

/-- What fits the level after a refill fits the capacity, and fits the level before it up to
the gain. -/
theorem le_refill_iff {elapsed level amount : 𝕜} :
    amount ≤ refill capacity rate elapsed level ↔
      amount ≤ capacity ∧ amount ≤ level + elapsed * rate :=
  le_min_iff

variable [IsStrictOrderedRing 𝕜]

/-- A higher level stays higher. -/
theorem refill_mono {elapsed low high : 𝕜} (below : low ≤ high) :
    refill capacity rate elapsed low ≤ refill capacity rate elapsed high := by
  unfold refill
  have raised : low + elapsed * rate ≤ high + elapsed * rate := by linarith only [below]
  exact min_le_min le_rfl raised

/-- A level within the capacity does not fall. -/
theorem le_refill {elapsed level : 𝕜} (nonneg : 0 ≤ rate) (later : 0 ≤ elapsed)
    (within : level ≤ capacity) : level ≤ refill capacity rate elapsed level := by
  have gained : 0 ≤ elapsed * rate := mul_nonneg later nonneg
  apply le_min within
  linarith only [gained]

/-- A full bucket stays full. -/
theorem refill_full {elapsed : 𝕜} (nonneg : 0 ≤ rate) (later : 0 ≤ elapsed) :
    refill capacity rate elapsed capacity = capacity :=
  le_antisymm (refill_le_capacity _ _) (le_refill nonneg later le_rfl)

/-- Looking at the level in between changes nothing. -/
theorem refill_refill {first second : 𝕜} (level : 𝕜) (nonneg : 0 ≤ rate) (later : 0 ≤ second) :
    refill capacity rate second (refill capacity rate first level) =
      refill capacity rate (first + second) level := by
  have gained : 0 ≤ second * rate := mul_nonneg later nonneg
  unfold refill
  rw [min_add, ← min_assoc, min_eq_left (by linarith only [gained] : capacity ≤ _)]
  congr 1
  ring

end Refill

section Windows

open Finset

variable [IsStrictOrderedRing 𝕜] {capacity rate : 𝕜}

/-- Levels that are refilled at given times, each after something was spent at the previous
one, starting from a full bucket. -/
structure Levels (capacity rate : 𝕜) (time spent level : ℕ → 𝕜) : Prop where
  /-- The bucket is full at the first time. -/
  full : level 0 = capacity
  /-- What is left at one time is refilled until the next. -/
  refilled : ∀ i, level (i + 1) =
    refill capacity rate (time (i + 1) - time i) (level i - spent i)

/-- The level is the least allowance over all windows that end now: the capacity, and what
the window adds, less what was spent in it. -/
theorem Levels.le_iff {time spent level : ℕ → 𝕜} (levels : Levels capacity rate time spent level)
    (i : ℕ) (amount : 𝕜) :
    amount ≤ level i ↔
      ∀ j ≤ i, amount + ∑ k ∈ Ico j i, spent k ≤ capacity + rate * (time i - time j) := by
  induction i generalizing amount with
  | zero =>
    rw [levels.full]
    constructor
    · intro fits j first
      obtain rfl := Nat.le_zero.mp first
      simpa using fits
    · intro windows
      simpa using windows 0 le_rfl
  | succ i ih =>
    have before : amount ≤ level i - spent i + (time (i + 1) - time i) * rate ↔
        amount + spent i - (time (i + 1) - time i) * rate ≤ level i := by
      constructor
      · intro fits
        linarith only [fits]
      · intro fits
        linarith only [fits]
    have shift (j : ℕ) (inside : j ≤ i) :
        amount + spent i - (time (i + 1) - time i) * rate + ∑ k ∈ Ico j i, spent k ≤
            capacity + rate * (time i - time j) ↔
          amount + ∑ k ∈ Ico j (i + 1), spent k ≤ capacity + rate * (time (i + 1) - time j) := by
      rw [sum_Ico_succ_top inside]
      constructor
      · intro fits
        linarith only [fits]
      · intro fits
        linarith only [fits]
    rw [levels.refilled, le_refill_iff, before, ih]
    constructor
    · rintro ⟨within, windows⟩ j bound
      rcases Nat.le_succ_iff.mp bound with inside | rfl
      · exact (shift j inside).mp (windows j inside)
      · simpa using within
    · intro windows
      constructor
      · simpa using windows (i + 1) le_rfl
      · intro j inside
        exact (shift j inside).mpr (windows j (Nat.le_succ_of_le inside))

/-- What was spent between two times, given when the level was last looked at and what it
was: nothing before the window, no more than the capacity and what the window has added so
far, and at the end no more than the capacity and what the whole window adds. -/
structure Account (capacity rate start stop last level spent : 𝕜) : Prop where
  /-- Nothing is spent before the window. -/
  early : last < start → spent = 0
  /-- Inside the window the level is what has not been spent. -/
  inside : start ≤ last → last ≤ stop → spent + level ≤ capacity + rate * (last - start)
  /-- The window bounds what is spent in it. -/
  bounded : spent ≤ capacity + rate * (stop - start)

/-- A full bucket opens an account. -/
theorem Account.full {start stop last : 𝕜} (nonneg : 0 ≤ rate) (positive : 0 ≤ capacity)
    (window : start ≤ stop) : Account capacity rate start stop last capacity 0 where
  early := fun _ => rfl
  inside := by
    intro entered _
    have gained := mul_nonneg nonneg (sub_nonneg.mpr entered)
    linarith only [gained]
  bounded := by
    have gained := mul_nonneg nonneg (sub_nonneg.mpr window)
    linarith only [gained, positive]

/-- Looking at the level keeps the account. -/
theorem Account.look {start stop last now level spent : 𝕜} (nonneg : 0 ≤ rate)
    (account : Account capacity rate start stop last level spent) (later : last ≤ now) :
    Account capacity rate start stop now (refill capacity rate (now - last) level) spent where
  early := fun before => account.early (lt_of_le_of_lt later before)
  inside := by
    intro entered open_
    by_cases before : last < start
    · have within : refill capacity rate (now - last) level ≤ capacity := refill_le_capacity _ _
      have added := mul_nonneg nonneg (sub_nonneg.mpr entered)
      rw [account.early before]
      linarith only [within, added]
    · have kept := account.inside (not_lt.mp before) (le_trans later open_)
      have gained := (le_refill_iff.mp (le_refl (refill capacity rate (now - last) level))).2
      linarith only [kept, gained]
  bounded := account.bounded

/-- Spending no more than the level keeps the account, whether it falls into the window or
not. -/
theorem Account.pay {start stop last level spent amount : 𝕜} (nonneg : 0 ≤ rate)
    (account : Account capacity rate start stop last level spent) (fits : amount ≤ level) :
    Account capacity rate start stop last (level - amount)
      (spent + if start ≤ last ∧ last ≤ stop then amount else 0) where
  early := by
    intro before
    have outside : ¬ (start ≤ last ∧ last ≤ stop) :=
      fun window => absurd before (not_lt.mpr window.1)
    rw [if_neg outside, add_zero]
    exact account.early before
  inside := by
    intro entered open_
    have kept := account.inside entered open_
    rw [if_pos ⟨entered, open_⟩]
    linarith only [kept]
  bounded := by
    by_cases window : start ≤ last ∧ last ≤ stop
    · have kept := account.inside window.1 window.2
      have rest := mul_nonneg nonneg (sub_nonneg.mpr window.2)
      rw [if_pos window]
      linarith only [kept, rest, fits]
    · rw [if_neg window, add_zero]
      exact account.bounded

/-- The level is the least allowance over all windows that end when it was last looked at, given
what was spent since each time. -/
structure Least (capacity rate last level : 𝕜) (spent : 𝕜 → 𝕜) : Prop where
  /-- What is spent counts. -/
  nonneg : ∀ start, 0 ≤ spent start
  /-- Nothing was spent later. -/
  early : ∀ start, last < start → spent start = 0
  /-- No window allows less. -/
  within : ∀ start ≤ last, spent start + level ≤ capacity + rate * (last - start)
  /-- Some window allows no more. -/
  attained : ∃ start ≤ last, spent start + level = capacity + rate * (last - start)

namespace Least

variable {last now level amount : 𝕜} {spent : 𝕜 → 𝕜}

/-- A full bucket of which nothing was spent. -/
theorem full (nonneg : 0 ≤ rate) : Least capacity rate last capacity fun _ => 0 where
  nonneg := fun _ => le_rfl
  early := fun _ _ => rfl
  within := by
    intro start before
    have gained := mul_nonneg nonneg (sub_nonneg.mpr before)
    linarith only [gained]
  attained := ⟨last, le_rfl, by ring⟩

/-- Looking at the level keeps it the least allowance. -/
theorem look (nonneg : 0 ≤ rate) (least : Least capacity rate last level spent)
    (later : last ≤ now) :
    Least capacity rate now (refill capacity rate (now - last) level) spent where
  nonneg := least.nonneg
  early := fun start after => least.early start (lt_of_le_of_lt later after)
  within := by
    intro start before
    obtain ⟨limit, gain⟩ := le_refill_iff.mp (le_refl (refill capacity rate (now - last) level))
    by_cases inside : start ≤ last
    · have kept := least.within start inside
      linarith only [kept, gain]
    · have added := mul_nonneg nonneg (sub_nonneg.mpr before)
      rw [least.early start (not_le.mp inside)]
      linarith only [limit, added]
  attained := by
    obtain ⟨start, before, same⟩ := least.attained
    by_cases room : level + (now - last) * rate ≤ capacity
    · refine ⟨start, before.trans later, ?_⟩
      rw [refill, min_eq_right room]
      linarith only [same]
    · have nothing : spent now = 0 := by
        rcases later.lt_or_eq with after | rfl
        · exact least.early now after
        · have limit := least.within last le_rfl
          have spends := least.nonneg last
          linarith only [limit, spends, room]
      refine ⟨now, le_rfl, ?_⟩
      rw [refill, min_eq_left (le_of_not_ge room), nothing]
      ring

/-- Spending keeps the level the least allowance. -/
theorem pay (least : Least capacity rate last level spent) (positive : 0 ≤ amount) :
    Least capacity rate last (level - amount)
      fun start => spent start + if start ≤ last then amount else 0 where
  nonneg := by
    intro start
    have kept := least.nonneg start
    split <;> linarith only [kept, positive]
  early := by
    intro start after
    rw [least.early start after, if_neg (not_le.mpr after), add_zero]
  within := by
    intro start before
    have kept := least.within start before
    rw [if_pos before]
    linarith only [kept]
  attained := by
    obtain ⟨start, before, same⟩ := least.attained
    refine ⟨start, before, ?_⟩
    rw [if_pos before]
    linarith only [same]

/-- What fits the level is what fits every window. -/
theorem fits_iff (least : Least capacity rate last level spent) :
    amount ≤ level ↔ ∀ start ≤ last, spent start + amount ≤ capacity + rate * (last - start) := by
  constructor
  · intro fits start before
    have kept := least.within start before
    linarith only [kept, fits]
  · intro windows
    obtain ⟨start, before, same⟩ := least.attained
    have kept := windows start before
    linarith only [kept, same]

end Least

end Windows

end Systems.Bucket
