import IngestionEngine.RateLimit.Concurrent

/-!
# What the limiter refuses

However the critical sections of concurrent calls interleave, each bucket is asked in some order at
times that do not go back, and nothing but its own history decides what it answers. So a bucket
refuses a call exactly when, over some time up to the call, the calls that it has let pass and this
one are more than its capacity and what its rate has added.
-/

namespace IngestionEngine.RateLimit

open Systems Bucket

/-! ### One bucket -/

/-- Something that holds of new buckets and is kept by time and by calls, given when calls have
passed. -/
structure Kept (ratePerSec capacity : ℚ) (holds : List ℚ → ℚ → TokenBucket → Prop) : Prop where
  /-- A new bucket has let nothing pass. -/
  fresh : ∀ created, holds [] created (newTokenBucket ratePerSec capacity created)
  /-- Time passes. -/
  later : ∀ {passes now clock bucket}, holds passes now bucket → now ≤ clock →
    holds passes clock bucket
  /-- A call is answered. -/
  allow : ∀ {passes now clock bucket}, holds passes now bucket → now ≤ clock →
    holds (passes ++ if (bucket.allow clock).2 then [clock] else []) clock (bucket.allow clock).1

/-- How many of some times are not before a start. -/
def since (start : ℚ) (clocks : List ℚ) : Nat := clocks.countP fun clock => start ≤ clock

/-- For every time up to a call, the calls that have passed since then and this one are no more than
the capacity and what the rate has added. -/
def Fits (capacity rate : ℚ) (passes : List ℚ) (clock : ℚ) : Prop :=
  ∀ start ≤ clock, (since start passes + 1 : ℚ) ≤ capacity + rate * (clock - start)

/-- The limits of a bucket, whose level is the least allowance over all windows, and a time since
which nobody has looked at it. -/
def Levelled (capacity rate : ℚ) (passes : List ℚ) (now : ℚ) (bucket : TokenBucket) : Prop :=
  bucket.capacity = capacity ∧ bucket.refillRate = rate ∧ bucket.lastRefill ≤ now ∧
    Least capacity rate bucket.lastRefill bucket.tokens fun start => since start passes

section Level

variable {capacity rate now clock : ℚ} {passes : List ℚ} {bucket : TokenBucket}

/-- At a later time the level is the least allowance over the windows up to then. -/
theorem Levelled.look (nonneg : 0 ≤ rate) (levelled : Levelled capacity rate passes now bucket)
    (later : now ≤ clock) :
    Least capacity rate clock (bucket.level clock) fun start => since start passes := by
  obtain ⟨limit, speed, looked, least⟩ := levelled
  have refilled := least.look nonneg (looked.trans later)
  unfold TokenBucket.level
  rw [limit, speed]
  exact refilled

/-- A call passes when it fits every window that ends with it. -/
theorem Levelled.allow_iff (nonneg : 0 ≤ rate)
    (levelled : Levelled capacity rate passes now bucket) (later : now ≤ clock) :
    (bucket.allow clock).2 = true ↔ Fits capacity rate passes clock :=
  (TokenBucket.allowN_admits _ _ _).trans (levelled.look nonneg later).fits_iff

/-- The level is the least allowance of new buckets, and stays it. -/
theorem levelled_kept (nonneg : 0 ≤ rate) : Kept rate capacity (Levelled capacity rate) where
  fresh := fun created => ⟨rfl, rfl, le_rfl, Least.full nonneg⟩
  later := by
    rintro passes now clock bucket ⟨limit, speed, looked, least⟩ later
    exact ⟨limit, speed, looked.trans later, least⟩
  allow := by
    intro passes now clock bucket levelled later
    have level := levelled.look nonneg later
    obtain ⟨limit, speed, _, _⟩ := levelled
    unfold Levelled TokenBucket.allow
    rw [TokenBucket.allowN_after]
    refine ⟨limit, speed, le_rfl, ?_⟩
    cases answer : (bucket.allowN 1 clock).2 with
    | true =>
      have paid := level.pay zero_le_one
      have counted (start : ℚ) : (since start (passes ++ [clock]) : ℚ) =
          since start passes + if start ≤ clock then 1 else 0 := by
        unfold since
        rw [List.countP_append, List.countP_singleton]
        push_cast
        simp
      simp only [if_true, counted]
      exact paid
    | false =>
      simp only [Bool.false_eq_true, if_false, List.append_nil, sub_zero]
      exact level

end Level

/-! ### All buckets -/

namespace Concurrent

/-- Each bucket has its own history: the global bucket the calls that it has let pass, and the
bucket of a key those of that key. -/
structure Buckets (ratePerSec capacity : ℚ) (overall own : List ℚ → ℚ → TokenBucket → Prop)
    (seen : List Obs) (s : State) : Prop where
  /-- The limits of new buckets. -/
  limits : s.limiter.ratePerSec = ratePerSec ∧ s.limiter.capacity = capacity
  /-- The global bucket. -/
  shared : overall (seen.flatMap Obs.globalPass) s.now s.limiter.globalLimit
  /-- A key without a bucket has let nothing pass. -/
  missing : ∀ key, s.limiter.buckets.lookup key = none → seen.flatMap (Obs.keyPass key) = []
  /-- The bucket of a key. -/
  keyed : ∀ key bucket, s.limiter.buckets.lookup key = some bucket →
    own (seen.flatMap (Obs.keyPass key)) s.now bucket

section Steps

variable {ratePerSec capacity globalRate globalCap : ℚ}
  {overall own : List ℚ → ℚ → TokenBucket → Prop} {seen out : List Obs} {s after : State}
  {action : Act}

/-- A bucket that answers one of its own calls lets that call pass, or nothing. -/
theorem keyPass_own (key : String) (clock : ℚ) (passed : Bool) :
    [Obs.keyChecked key clock passed].flatMap (Obs.keyPass key) =
      if passed then [clock] else [] := by
  cases passed <;> simp [Obs.keyPass]

/-- A call of another key does not pass it. -/
theorem keyPass_other {key other : String} (different : other ≠ key) (clock : ℚ) (passed : Bool) :
    [Obs.keyChecked key clock passed].flatMap (Obs.keyPass other) = [] := by
  cases passed <;> simp [Obs.keyPass, different.symm]

/-- Every step keeps what holds of the buckets. -/
theorem step_buckets (global : Kept globalRate globalCap overall)
    (client : Kept ratePerSec capacity own) (bindings : Bindings seen s)
    (buckets : Buckets ratePerSec capacity overall own seen s)
    (stepped : s.step action = some (after, out)) :
    Buckets ratePerSec capacity overall own (seen ++ out) after := by
  obtain ⟨limits, shared, missing, keyed⟩ := buckets
  cases step_cases stepped with
  | call =>
    rw [List.append_nil]
    exact ⟨limits, shared, missing, keyed⟩
  | @globalCheck index g clock running later pc next =>
    have answered : [Obs.globalChecked clock (s.limiter.checkGlobal clock).2].flatMap
        Obs.globalPass = if (s.limiter.globalLimit.allow clock).2 then [clock] else [] := by
      unfold KeyedRateLimiter.checkGlobal
      cases (s.limiter.globalLimit.allow clock).2 <;> rfl
    refine ⟨limits, ?_, ?_, ?_⟩
    · rw [List.flatMap_append, answered]
      exact global.allow shared later
    · intro key unbound
      rw [List.flatMap_append, missing key unbound]
      rfl
    · intro key bucket held
      rw [List.flatMap_append]
      exact client.later (List.append_nil _ ▸ keyed key bucket held) later
  | @lookup index g clock running later place found =>
    have silent (read : Obs → List ℚ) (quiet : read (.bound g.key place) = []) :
        (seen ++ [Obs.bound g.key place]).flatMap read = seen.flatMap read := by
      rw [List.flatMap_append, List.flatMap_singleton, quiet, List.append_nil]
    have created := Table.lookup_ensure_same s.limiter.buckets g.key
      (newTokenBucket s.limiter.ratePerSec s.limiter.capacity clock)
    refine ⟨limits, ?_, ?_, ?_⟩
    · rw [silent _ rfl]
      exact global.later shared later
    · intro key unbound
      rw [silent _ rfl]
      by_cases same : key = g.key
      · rw [same, KeyedRateLimiter.lookupOrCreate, created] at unbound
        contradiction
      · rw [KeyedRateLimiter.lookupOrCreate, Table.lookup_ensure_other _ same] at unbound
        exact missing key unbound
    · intro key bucket held
      rw [silent _ rfl]
      by_cases same : key = g.key
      · subst same
        rw [KeyedRateLimiter.lookupOrCreate, created] at held
        cases before : s.limiter.buckets.lookup g.key with
        | none =>
          rw [before, Option.getD_none, limits.1, limits.2] at held
          rw [missing g.key before, ← Option.some.inj held]
          exact client.fresh clock
        | some old =>
          rw [before, Option.getD_some] at held
          rw [← Option.some.inj held]
          exact client.later (keyed g.key old before) later
      · rw [KeyedRateLimiter.lookupOrCreate, Table.lookup_ensure_other _ same] at held
        exact client.later (keyed key bucket held) later
  | @keyCheck index g clock running later place holds =>
    have bound := bindings.held g (List.mem_of_getElem? running) place holds
    obtain ⟨bucket, held, checked⟩ := checkKey_bound bound clock
    rw [checked]
    refine ⟨limits, ?_, ?_, ?_⟩
    · have quiet : [Obs.keyChecked g.key clock (bucket.allow clock).2].flatMap
          Obs.globalPass = [] := rfl
      rw [List.flatMap_append, quiet, List.append_nil]
      exact global.later shared later
    · intro key unbound
      by_cases same : key = g.key
      · rw [same, Table.lookup_set_same bound] at unbound
        contradiction
      · rw [Table.lookup_set_other bound same] at unbound
        rw [List.flatMap_append, keyPass_other same, List.append_nil]
        exact missing key unbound
    · intro key other here
      by_cases same : key = g.key
      · subst same
        rw [Table.lookup_set_same bound] at here
        rw [List.flatMap_append, keyPass_own, ← Option.some.inj here]
        exact client.allow (keyed g.key bucket held) later
      · rw [Table.lookup_set_other bound same] at here
        rw [List.flatMap_append, keyPass_other same, List.append_nil]
        exact client.later (keyed key other here) later

/-- What holds of new buckets, and is kept by time and calls, holds of every bucket in every
run. -/
theorem run_buckets (global : Kept globalRate globalCap overall)
    (client : Kept ratePerSec capacity own) {created : ℚ}
    (run : system.AnyRun (.start ratePerSec capacity globalRate globalCap created) seen s) :
    Buckets ratePerSec capacity overall own seen s := by
  induction run with
  | start =>
    refine ⟨⟨rfl, rfl⟩, global.fresh created, fun _ _ => rfl, ?_⟩
    intro key bucket held
    contradiction
  | next before _ stepped ih => exact step_buckets global client (run_bindings before) ih stepped

/-- A bucket has refused a call, and it may be one of the key. -/
def Obs.refuses (key : String) : Obs → Bool
  | .globalChecked _ passed => !passed
  | .bound _ _ => false
  | .keyChecked other _ passed => decide (other = key) && !passed

/-- What was observed before decides the answer. -/
def Obs.Explained (ratePerSec capacity globalRate globalCap : ℚ) (before : List Obs) : Obs → Prop
  | .globalChecked clock passed =>
    passed = true ↔ Fits globalCap globalRate (before.flatMap Obs.globalPass) clock
  | .bound _ _ => True
  | .keyChecked key clock passed =>
    passed = true ↔ Fits capacity ratePerSec (before.flatMap (Obs.keyPass key)) clock

/-- A step shows nothing, or one answer that is decided by what was observed before. -/
theorem step_explained (rates : 0 ≤ ratePerSec ∧ 0 ≤ globalRate) (bindings : Bindings seen s)
    (buckets : Buckets ratePerSec capacity (Levelled globalCap globalRate)
      (Levelled capacity ratePerSec) seen s)
    (stepped : s.step action = some (after, out)) :
    out = [] ∨ ∃ obs, out = [obs] ∧
      obs.Explained ratePerSec capacity globalRate globalCap seen := by
  cases step_cases stepped with
  | call => exact .inl rfl
  | globalCheck running later next =>
    exact .inr ⟨_, rfl, buckets.shared.allow_iff rates.2 later⟩
  | lookup => exact .inr ⟨_, rfl, trivial⟩
  | @keyCheck index g clock running later place holds =>
    have bound := bindings.held g (List.mem_of_getElem? running) place holds
    obtain ⟨bucket, held, checked⟩ := checkKey_bound bound clock
    rw [checked]
    exact .inr ⟨_, rfl, (buckets.keyed g.key bucket held).allow_iff rates.1 later⟩

/-- In every run what was observed before an answer decides it. -/
theorem run_explained (rates : 0 ≤ ratePerSec ∧ 0 ≤ globalRate) {created : ℚ}
    (run : system.AnyRun (.start ratePerSec capacity globalRate globalCap created) seen s)
    {before rest : List Obs} {obs : Obs} (split : seen = before ++ obs :: rest) :
    obs.Explained ratePerSec capacity globalRate globalCap before := by
  induction run generalizing rest with
  | start => simp at split
  | next ran _ stepped ih =>
    have buckets := run_buckets (levelled_kept rates.2) (levelled_kept rates.1) ran
    rcases step_explained rates (run_bindings ran) buckets stepped with rfl | ⟨last, rfl, explained⟩
    · exact ih (List.append_nil _ ▸ split)
    · rcases List.eq_nil_or_concat rest with rfl | ⟨others, final, rfl⟩
      · obtain ⟨rfl, same⟩ := List.append_inj' split rfl
        obtain rfl : last = obs := List.singleton_inj.mp same
        exact explained
      · rw [List.concat_eq_append, ← List.cons_append, ← List.append_assoc] at split
        exact ih (List.append_inj' split rfl).1

end Steps

end Concurrent

open Concurrent

/-- However the critical sections of concurrent calls interleave, the global bucket lets a call pass
exactly when, for every time up to it, the calls that it has let pass since then and this one are no
more than its capacity and what its rate has added; and the bucket of a key decides likewise from
the calls of that key alone. -/
theorem limiter_exact {ratePerSec capacity globalRate globalCap created : ℚ}
    (rates : 0 ≤ ratePerSec ∧ 0 ≤ globalRate) {seen : List Obs} {s : State}
    (run : Concurrent.system.AnyRun (.start ratePerSec capacity globalRate globalCap created)
      seen s) :
    (∀ before clock passed rest, seen = before ++ .globalChecked clock passed :: rest →
      (passed = true ↔ Fits globalCap globalRate (before.flatMap Obs.globalPass) clock)) ∧
      ∀ key before clock passed rest, seen = before ++ .keyChecked key clock passed :: rest →
        (passed = true ↔ Fits capacity ratePerSec (before.flatMap (Obs.keyPass key)) clock) :=
  ⟨fun _ _ _ _ split => run_explained rates run split,
    fun _ _ _ _ _ split => run_explained rates run split⟩

/-- Of two calls of one key the second finds the only token of its bucket spent. -/
theorem limiter_exact_refused :
    ∃ seen s, Concurrent.system.AnyRun (.start 1 1 1 3 0) seen s ∧
      seen.countP (Obs.refuses "a") = 1 ∧
      ∀ before rest, seen = before ++ .keyChecked "a" 0 false :: rest →
        ¬ Fits 1 1 (before.flatMap (Obs.keyPass "a")) 0 := by
  obtain ⟨seen, s, run, passed⟩ := System.exec_witness Concurrent.system System.unguarded
    (.start 1 1 1 3 0)
    [.call "a", .call "a", .enter 0 0, .enter 1 0, .enter 1 0, .enter 0 0, .enter 0 0, .enter 1 0]
    (fun (_, seen) => seen.countP (Obs.refuses "a") = 1) (by decide +kernel)
  refine ⟨seen, s, run, of_decide_eq_true passed, ?_⟩
  intro before rest split fits
  have answered := (limiter_exact (by decide +kernel) run).2 "a" before 0 false rest split
  exact absurd (answered.mpr fits) (by decide)

end IngestionEngine.RateLimit
