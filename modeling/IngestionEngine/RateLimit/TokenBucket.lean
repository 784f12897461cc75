import Mathlib.Data.Rat.Defs
import Mathlib.Algebra.Order.Ring.Unbundled.Rat
import IngestionEngine.Systems.Bucket

/-!
# The token bucket

`ratelimit.TokenBucket` with `float64` as exact rationals and clock readings in seconds.
`AllowN` holds the mutex throughout, so a call is one step; its reading of the clock is an
argument.
-/

namespace IngestionEngine.RateLimit

open Systems Bucket

/-- `TokenBucket` -/
structure TokenBucket where
  /-- Max token burst capacity. -/
  capacity : ℚ
  /-- Tokens replenished per second. -/
  refillRate : ℚ
  /-- Current available tokens. -/
  tokens : ℚ
  /-- Timestamp of previous token replenishment. -/
  lastRefill : ℚ
  deriving DecidableEq, Repr

/-- `NewTokenBucket` -/
def newTokenBucket (ratePerSec capacity now : ℚ) : TokenBucket where
  capacity := capacity
  refillRate := ratePerSec
  tokens := capacity
  lastRefill := now

namespace TokenBucket

/-- `AllowN` -/
def allowN (tb : TokenBucket) (n now : ℚ) : TokenBucket × Bool :=
  let elapsed := now - tb.lastRefill
  let replenished := tb.tokens + elapsed * tb.refillRate
  let tokens := if tb.capacity < replenished then tb.capacity else replenished
  if n ≤ tokens then ({ tb with tokens := tokens - n, lastRefill := now }, true)
  else ({ tb with tokens, lastRefill := now }, false)

/-- `Allow` -/
def allow (tb : TokenBucket) (now : ℚ) : TokenBucket × Bool := tb.allowN 1 now

/-- `Available` -/
def available (tb : TokenBucket) : ℚ × ℚ := (tb.tokens, tb.capacity)

/-- The tokens that a call finds. -/
def level (tb : TokenBucket) (now : ℚ) : ℚ :=
  refill tb.capacity tb.refillRate (now - tb.lastRefill) tb.tokens

/-- The clamp of the source is the smaller of the two values. -/
theorem clamp_eq (tb : TokenBucket) (now : ℚ) :
    (if tb.capacity < tb.tokens + (now - tb.lastRefill) * tb.refillRate then tb.capacity
      else tb.tokens + (now - tb.lastRefill) * tb.refillRate) = tb.level now := by
  unfold level refill
  by_cases above : tb.capacity < tb.tokens + (now - tb.lastRefill) * tb.refillRate
  · rw [if_pos above, min_eq_left (le_of_lt above)]
  · rw [if_neg above, min_eq_right (not_lt.mp above)]

/-- A call is admitted exactly when the tokens it finds are enough. -/
theorem allowN_admits (tb : TokenBucket) (n now : ℚ) :
    (tb.allowN n now).2 = true ↔ n ≤ tb.level now := by
  unfold allowN
  simp only [clamp_eq]
  by_cases enough : n ≤ tb.level now
  · simp [enough]
  · simp [enough]

/-- A call leaves the tokens it found, less what it was admitted for. -/
theorem allowN_after (tb : TokenBucket) (n now : ℚ) :
    (tb.allowN n now).1 =
      { tb with tokens := tb.level now - if (tb.allowN n now).2 then n else 0,
                lastRefill := now } := by
  unfold allowN
  simp only [clamp_eq]
  by_cases enough : n ≤ tb.level now
  · simp [enough]
  · simp [enough]

/-- The bucket before call `i` of a sequence of calls. -/
def before (tb : TokenBucket) (n now : ℕ → ℚ) : ℕ → TokenBucket
  | 0 => tb
  | i + 1 => ((before tb n now i).allowN (n i) (now i)).1

/-- The result of call `i` of a sequence of calls. -/
def admits (tb : TokenBucket) (n now : ℕ → ℚ) (i : ℕ) : Bool :=
  ((tb.before n now i).allowN (n i) (now i)).2

/-- No call changes the capacity or the rate. -/
theorem before_limits (tb : TokenBucket) (n now : ℕ → ℚ) (i : ℕ) :
    (tb.before n now i).capacity = tb.capacity ∧
      (tb.before n now i).refillRate = tb.refillRate := by
  induction i with
  | zero => exact ⟨rfl, rfl⟩
  | succ i ih =>
    rw [before, allowN_after]
    exact ih

/-- The tokens that the calls find are levels of a bucket that starts full. -/
theorem levels_of_calls {ratePerSec capacity created : ℚ} {n now : ℕ → ℚ}
    (nonneg : 0 ≤ ratePerSec) (later : created ≤ now 0) :
    Levels capacity ratePerSec now
      (fun i => if (newTokenBucket ratePerSec capacity created).admits n now i then n i else 0)
      (fun i => ((newTokenBucket ratePerSec capacity created).before n now i).level (now i)) where
  full := refill_full nonneg (sub_nonneg.mpr later)
  refilled := by
    intro i
    have limits := before_limits (newTokenBucket ratePerSec capacity created) n now i
    simp only [before, level, allowN_after, limits, admits]
    rfl

end TokenBucket

/-- Call `i` on a new bucket is admitted exactly when, for every window that starts at an
earlier call or at its own, what the window admits with it is within the burst and what the
rate adds over the window. -/
theorem allowN_iff_windows {ratePerSec capacity created : ℚ} {n now : ℕ → ℚ}
    (nonneg : 0 ≤ ratePerSec) (later : created ≤ now 0) (i : ℕ) :
    (newTokenBucket ratePerSec capacity created).admits n now i = true ↔
      ∀ j ≤ i, n i + ∑ k ∈ Finset.Ico j i,
          (if (newTokenBucket ratePerSec capacity created).admits n now k then n k else 0) ≤
        capacity + ratePerSec * (now i - now j) := by
  have levels : Levels capacity ratePerSec now _
      (fun i => ((newTokenBucket ratePerSec capacity created).before n now i).level (now i)) :=
    TokenBucket.levels_of_calls nonneg later
  rw [← levels.le_iff i (n i)]
  exact TokenBucket.allowN_admits _ _ _

/-- Of three calls at one time on a bucket of two tokens the last is refused, since the
window from the first one is full. -/
theorem allowN_iff_windows_burst :
    (newTokenBucket 1 2 0).admits (fun _ => 1) (fun _ => 0) 2 = false ∧
      ¬ ∀ j ≤ 2, 1 + ∑ k ∈ Finset.Ico j 2,
          (if (newTokenBucket 1 2 0).admits (fun _ => 1) (fun _ => 0) k then 1 else 0) ≤
        (2 : ℚ) + 1 * (0 - 0) := by
  have refused : (newTokenBucket 1 2 0).admits (fun _ => 1) (fun _ => 0) 2 = false := by
    decide +kernel
  have characterised := @allowN_iff_windows 1 2 0 (fun _ => 1) (fun _ => 0) zero_le_one le_rfl 2
  rw [refused] at characterised
  exact ⟨refused, fun windows => absurd (characterised.mpr windows) nofun⟩

end IngestionEngine.RateLimit
