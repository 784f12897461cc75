import IngestionEngine.RateLimit.Keyed

/-!
# What one client's refused calls cost the others

The global bucket is charged before a key's bucket is asked, and is not given back what a
refused call took. So the refused calls of one client can exhaust it. They do nothing else: they
could be left out as long as the global bucket refuses nobody until it is full again.
-/

namespace IngestionEngine.RateLimit

open Systems Bucket

namespace KeyedRateLimiter

/-- One limiter is as full as the other or fuller, and agrees with it on every key but one. -/
structure Ahead (key : String) (behind ahead : KeyedRateLimiter) : Prop where
  /-- The global limits are the same. -/
  ceiling : ahead.globalLimit.capacity = behind.globalLimit.capacity ∧
    ahead.globalLimit.refillRate = behind.globalLimit.refillRate
  /-- The fuller global bucket was not looked at later. -/
  later : ahead.globalLimit.lastRefill ≤ behind.globalLimit.lastRefill
  /-- The other bucket holds no more than the fuller one would at that time. -/
  more : behind.globalLimit.tokens ≤ ahead.globalLimit.level behind.globalLimit.lastRefill
  /-- The limits of a key are the same. -/
  limits : ahead.ratePerSec = behind.ratePerSec ∧ ahead.capacity = behind.capacity
  /-- The buckets of the other keys are the same. -/
  same : ∀ other, other ≠ key → ahead.buckets.lookup other = behind.buckets.lookup other

/-- A limiter is as full as itself. -/
theorem Ahead.refl (key : String) (k : KeyedRateLimiter)
    (within : k.globalLimit.tokens ≤ k.globalLimit.capacity) : Ahead key k k where
  ceiling := ⟨rfl, rfl⟩
  later := le_rfl
  more := by
    apply le_refill_iff.mpr
    rw [sub_self, zero_mul, add_zero]
    exact ⟨within, le_rfl⟩
  limits := ⟨rfl, rfl⟩
  same := fun _ _ => rfl

/-- The fuller global bucket stays fuller. -/
theorem Ahead.level {key : String} {behind ahead : KeyedRateLimiter} (rel : Ahead key behind ahead)
    (nonneg : 0 ≤ behind.globalLimit.refillRate) {now : ℚ}
    (after : behind.globalLimit.lastRefill ≤ now) :
    behind.globalLimit.level now ≤ ahead.globalLimit.level now := by
  have elapsed : 0 ≤ now - behind.globalLimit.lastRefill := sub_nonneg.mpr after
  have through : ahead.globalLimit.level now =
      refill behind.globalLimit.capacity behind.globalLimit.refillRate
        (now - behind.globalLimit.lastRefill)
        (ahead.globalLimit.level behind.globalLimit.lastRefill) := by
    unfold TokenBucket.level
    rw [rel.ceiling.1, rel.ceiling.2, refill_refill _ nonneg elapsed]
    congr 1
    ring
  rw [through]
  exact refill_mono rel.more

/-- The global bucket admits the call exactly when it has a token. -/
theorem passesGlobal_iff (k : KeyedRateLimiter) (at_ : Readings) :
    k.passesGlobal at_ = true ↔ 1 ≤ k.globalLimit.level at_.globalAt :=
  TokenBucket.allowN_admits _ _ _

/-- What the global bucket is left with after a call. -/
theorem globalLimit_after {k after : KeyedRateLimiter} {key : String} {at_ : Readings}
    {verdict : Verdict} (allowed : k.Allowed key at_ after verdict) :
    after.globalLimit = ⟨k.globalLimit.capacity, k.globalLimit.refillRate,
      k.globalLimit.level at_.globalAt - if k.passesGlobal at_ then 1 else 0, at_.globalAt⟩ := by
  rw [allowed.globalLimit, TokenBucket.allow, TokenBucket.allowN_after]
  rfl

/-- The global bucket is full at a time. -/
def full (k : KeyedRateLimiter) (now : ℚ) : Bool :=
  decide (k.globalLimit.capacity ≤ k.globalLimit.level now)

/-- After a call of the key that its own bucket refused, the global bucket refuses no call until one
finds it full again. Such a call may already have been made, which is owed. -/
def Repays (key : String) (owed : Bool) (k : KeyedRateLimiter) : List Call → Prop
  | [] => True
  | call :: rest =>
    ((owed && !k.full call.at_.globalAt) = true →
        (k.allow call.key call.at_).2 ≠ .globalRefused) ∧
      (k.allow call.key call.at_).1.Repays key ((owed && !k.full call.at_.globalAt) ||
        decide (call.key = key ∧ (k.allow call.key call.at_).2 = .keyRefused)) rest

instance decidableRepays (key : String) (owed : Bool) (k : KeyedRateLimiter) :
    (calls : List Call) → Decidable (k.Repays key owed calls)
  | [] => inferInstanceAs (Decidable True)
  | call :: rest =>
    have := decidableRepays key ((owed && !k.full call.at_.globalAt) ||
        decide (call.key = key ∧ (k.allow call.key call.at_).2 = .keyRefused))
      (k.allow call.key call.at_).1 rest
    instDecidableAnd

/-- One limiter is ahead of the other, and level with it when nothing is owed. -/
structure Tracks (key : String) (owed : Bool) (behind ahead : KeyedRateLimiter) : Prop where
  /-- It is ahead. -/
  leads : Ahead key behind ahead
  /-- It is level. -/
  even : owed = false → ahead.globalLimit = behind.globalLimit

/-- The global buckets are as full as each other for a call that finds the one behind full. -/
theorem Tracks.level_eq {key : String} {owed : Bool} {behind ahead : KeyedRateLimiter}
    (rel : Tracks key owed behind ahead) (nonneg : 0 ≤ behind.globalLimit.refillRate) {now : ℚ}
    (after : behind.globalLimit.lastRefill ≤ now) (settled : (owed && !behind.full now) = false) :
    ahead.globalLimit.level now = behind.globalLimit.level now := by
  cases owed with
  | false => rw [rel.even rfl]
  | true =>
    have filled : behind.globalLimit.capacity ≤ behind.globalLimit.level now := by
      simpa [full] using settled
    have most : ahead.globalLimit.level now ≤ behind.globalLimit.capacity := by
      rw [← rel.leads.ceiling.1]
      exact refill_le_capacity _ _
    exact le_antisymm (le_trans most filled) (rel.leads.level nonneg after)

/-- Both limiters take the same call, and their global buckets decide alike on it. -/
theorem Ahead.both {key : String} {behind ahead : KeyedRateLimiter} (rel : Ahead key behind ahead)
    (nonneg : 0 ≤ behind.globalLimit.refillRate) (call : Call)
    (after : behind.globalLimit.lastRefill ≤ call.at_.globalAt)
    (passes : ahead.passesGlobal call.at_ = behind.passesGlobal call.at_) :
    Ahead key (behind.allow call.key call.at_).1 (ahead.allow call.key call.at_).1 ∧
      (call.key ≠ key → (ahead.allow call.key call.at_).2.result =
        (behind.allow call.key call.at_).2.result) := by
  have level := rel.level nonneg after
  have first := behind.allow_spec call.key call.at_
  have second := ahead.allow_spec call.key call.at_
  have first_global := globalLimit_after first
  have second_global := globalLimit_after second
  rw [passes] at second_global
  have bucket (other : call.key ≠ key) :
      ahead.bucketOf call.key call.at_.createdAt = behind.bucketOf call.key call.at_.createdAt := by
    unfold bucketOf
    rw [rel.same call.key other, rel.limits.1, rel.limits.2]
  have charge : (0 : ℚ) ≤ if behind.passesGlobal call.at_ then 1 else 0 := by
    split <;> norm_num
  refine ⟨⟨?_, ?_, ?_, ?_, ?_⟩, ?_⟩
  · rw [first_global, second_global]
    exact rel.ceiling
  · rw [first_global, second_global]
  · rw [first_global, second_global]
    have within : ahead.globalLimit.level call.at_.globalAt ≤ ahead.globalLimit.capacity :=
      refill_le_capacity _ _
    apply le_refill_iff.mpr
    constructor
    · simp only
      linarith only [level, within, charge]
    · simp only [sub_self, zero_mul, add_zero]
      linarith only [level]
  · rw [first.limits.1, first.limits.2, second.limits.1, second.limits.2]
    exact rel.limits
  · intro other different
    by_cases own : other = call.key
    · subst own
      rw [first.own, second.own, passes, bucket different, rel.same _ different]
    · rw [first.others other own, second.others other own]
      exact rel.same other different
  · intro other
    rw [first.result, second.result, passes, bucket other]

/-- Both limiters take the same call, which the global bucket refuses only when nothing is owed. -/
theorem Tracks.both {key : String} {owed : Bool} {behind ahead : KeyedRateLimiter}
    (rel : Tracks key owed behind ahead) (nonneg : 0 ≤ behind.globalLimit.refillRate) (call : Call)
    (after : behind.globalLimit.lastRefill ≤ call.at_.globalAt)
    (repays : (owed && !behind.full call.at_.globalAt) = true →
      behind.passesGlobal call.at_ = true) :
    Tracks key (owed && !behind.full call.at_.globalAt)
        (behind.allow call.key call.at_).1 (ahead.allow call.key call.at_).1 ∧
      (call.key ≠ key → (ahead.allow call.key call.at_).2.result =
        (behind.allow call.key call.at_).2.result) := by
  have passes : ahead.passesGlobal call.at_ = behind.passesGlobal call.at_ := by
    cases owes : owed && !behind.full call.at_.globalAt with
    | true =>
      have token := (behind.passesGlobal_iff call.at_).mp (repays owes)
      rw [repays owes]
      exact (ahead.passesGlobal_iff call.at_).mpr (le_trans token (rel.leads.level nonneg after))
    | false =>
      rw [Bool.eq_iff_iff, passesGlobal_iff, passesGlobal_iff, rel.level_eq nonneg after owes]
  obtain ⟨still, answers⟩ := rel.leads.both nonneg call after passes
  refine ⟨⟨still, fun settled => ?_⟩, answers⟩
  rw [globalLimit_after (behind.allow_spec call.key call.at_),
    globalLimit_after (ahead.allow_spec call.key call.at_), passes,
    rel.level_eq nonneg after settled, rel.leads.ceiling.1, rel.leads.ceiling.2]

/-- Only the limiter that is behind takes a call of the one key. -/
theorem Ahead.skip {key : String} {behind ahead : KeyedRateLimiter} (rel : Ahead key behind ahead)
    (nonneg : 0 ≤ behind.globalLimit.refillRate) {call : Call} (own : call.key = key)
    (after : behind.globalLimit.lastRefill ≤ call.at_.globalAt) :
    Ahead key (behind.allow call.key call.at_).1 ahead := by
  have level := rel.level nonneg after
  have first := behind.allow_spec call.key call.at_
  have first_global := globalLimit_after first
  have charge : (0 : ℚ) ≤ if behind.passesGlobal call.at_ then 1 else 0 := by
    split <;> norm_num
  refine ⟨?_, ?_, ?_, ?_, ?_⟩
  · rw [first_global]
    exact rel.ceiling
  · rw [first_global]
    exact le_trans rel.later after
  · rw [first_global]
    simp only
    linarith only [level, charge]
  · rw [first.limits.1, first.limits.2]
    exact rel.limits
  · intro other different
    rw [first.others other (by rw [own]; exact different)]
    exact rel.same other different

/-- A call that the global bucket does not refuse passes it. -/
theorem passes_of_verdict {k : KeyedRateLimiter} {call : Call}
    (admitted : (k.allow call.key call.at_).2 ≠ .globalRefused) :
    k.passesGlobal call.at_ = true := by
  rw [← Bool.not_eq_false, ← (k.allow_spec call.key call.at_).refused]
  exact admitted

/-- As long as what is owed is repaid, leaving out calls of one key that its own bucket refused
keeps the limiter ahead, and answers the last call of another key alike. -/
theorem Tracks.run {key : String} {calls : List Call} {call : Call} (other : call.key ≠ key)
    {owed : Bool} {behind ahead : KeyedRateLimiter} (rel : Tracks key owed behind ahead)
    (nonneg : 0 ≤ behind.globalLimit.refillRate)
    (timed : Timed behind.globalLimit.lastRefill (calls ++ [call]))
    (repays : behind.Repays key owed (calls ++ [call])) :
    ((ahead.run (behind.withoutOwnRefusals key calls)).allow call.key call.at_).2.result =
      ((behind.run calls).allow call.key call.at_).2.result := by
  induction calls generalizing owed behind ahead with
  | nil =>
    exact (rel.both nonneg call timed.1 fun owes => passes_of_verdict (repays.1 owes)).2 other
  | cons first rest ih =>
    obtain ⟨admits, later⟩ := repays
    have global := globalLimit_after (behind.allow_spec first.key first.at_)
    have same_rate : 0 ≤ (behind.allow first.key first.at_).1.globalLimit.refillRate := by
      rw [global]
      exact nonneg
    have next_timed : Timed (behind.allow first.key first.at_).1.globalLimit.lastRefill
        (rest ++ [call]) := by
      rw [global]
      have order := le_trans first.at_.ordered.1 first.at_.ordered.2
      exact timed.2.earlier order
    simp only [withoutOwnRefusals]
    by_cases dropped : first.key = key ∧ (behind.allow first.key first.at_).2 = .keyRefused
    · rw [if_pos dropped]
      rw [decide_eq_true dropped, Bool.or_true] at later
      have skipped := rel.leads.skip nonneg dropped.1 timed.1
      exact ih ⟨skipped, fun settled => by contradiction⟩ same_rate next_timed later
    · rw [if_neg dropped]
      rw [decide_eq_false dropped, Bool.or_false] at later
      have tracked := (rel.both nonneg first timed.1 fun owes => passes_of_verdict (admits owes)).1
      exact ih tracked same_rate next_timed later

end KeyedRateLimiter

open KeyedRateLimiter

/-- Leaving out the calls of one key that its own bucket refused does not change the answer to any
call of another key, provided that after each of them the global bucket refuses no call up to that
one until a call finds it full again. -/
theorem allow_isolated {ratePerSec capacity globalRate globalCap created : ℚ} {key : String}
    {calls : List Call} {call : Call} (nonneg : 0 ≤ globalRate) (other : call.key ≠ key)
    (timed : Timed created (calls ++ [call]))
    (repays : (newKeyedRateLimiter ratePerSec capacity globalRate globalCap created).Repays key
      false (calls ++ [call])) :
    (((newKeyedRateLimiter ratePerSec capacity globalRate globalCap created).run
        ((newKeyedRateLimiter ratePerSec capacity globalRate globalCap
          created).withoutOwnRefusals key calls)).allow call.key call.at_).2.result =
      (((newKeyedRateLimiter ratePerSec capacity globalRate globalCap created).run
        calls).allow call.key call.at_).2.result :=
  Tracks.run other ⟨.refl key _ le_rfl, fun _ => rfl⟩ nonneg timed repays

/-- With a quota of one for each client, the third client finds the global bucket empty, and so does
the last one. In between, another client's second call is refused by its own bucket, and the global
bucket fills up again. -/
def crowded : List Call :=
  [⟨"b", .sharp 0⟩, ⟨"c", .sharp 0⟩, ⟨"d", .sharp 0⟩, ⟨"a", .sharp 10⟩, ⟨"a", .sharp 10⟩,
    ⟨"b", .sharp 20⟩, ⟨"c", .sharp 20⟩, ⟨"d", .sharp 20⟩]

/-- A client who calls a second later is admitted, whether the refused call is left out or not. -/
theorem allow_isolated_crowded :
    (newKeyedRateLimiter 1 1 1 2 0).verdicts crowded =
        [.allowed, .allowed, .globalRefused, .allowed, .keyRefused, .allowed, .allowed,
          .globalRefused] ∧
      (((newKeyedRateLimiter 1 1 1 2 0).run
          ((newKeyedRateLimiter 1 1 1 2 0).withoutOwnRefusals "a" crowded)).allow "b"
            (.sharp 21)).2.result =
        (((newKeyedRateLimiter 1 1 1 2 0).run crowded).allow "b" (.sharp 21)).2.result := by
  have timed : Timed 0 (crowded ++ [⟨"b", .sharp 21⟩]) := by
    norm_num [crowded, Timed, Readings.sharp]
  have repays : (newKeyedRateLimiter 1 1 1 2 0).Repays "a" false
      (crowded ++ [⟨"b", .sharp 21⟩]) := by
    decide +kernel
  have same := @allow_isolated 1 1 1 2 0 "a" crowded ⟨"b", .sharp 21⟩ (by norm_num)
    (by decide) timed repays
  exact ⟨by decide +kernel, same⟩

/-- The calls of a client with a quota of one, the second of which its own bucket refuses. -/
def greedy : List Call := [⟨"a", .sharp 0⟩, ⟨"a", .sharp 0⟩]

/-- A global bucket of two tokens does not: the refused call takes the last one. -/
theorem allow_not_isolated :
    ¬ ∀ (ratePerSec capacity globalRate globalCap created : ℚ) (key : String)
        (calls : List Call) (call : Call),
      0 ≤ ratePerSec → 0 ≤ capacity → 0 ≤ globalRate → 0 ≤ globalCap → call.key ≠ key →
      Timed created (calls ++ [call]) →
      (((newKeyedRateLimiter ratePerSec capacity globalRate globalCap created).run
          ((newKeyedRateLimiter ratePerSec capacity globalRate globalCap
            created).withoutOwnRefusals key calls)).allow call.key call.at_).2.result =
        (((newKeyedRateLimiter ratePerSec capacity globalRate globalCap created).run
          calls).allow call.key call.at_).2.result := by
  intro isolated
  have same := isolated 0 1 0 2 0 "a" greedy ⟨"b", .sharp 0⟩ le_rfl zero_le_one le_rfl zero_le_two
    (by decide) ⟨le_rfl, le_rfl, le_rfl, trivial⟩
  have refused : (((newKeyedRateLimiter 0 1 0 2 0).run greedy).allow "b"
      (.sharp 0)).2.result = false := by
    decide +kernel
  have admitted : (((newKeyedRateLimiter 0 1 0 2 0).run
      ((newKeyedRateLimiter 0 1 0 2 0).withoutOwnRefusals "a" greedy)).allow "b"
        (.sharp 0)).2.result = true := by
    decide +kernel
  have both := admitted.symm.trans (same.trans refused)
  contradiction

end IngestionEngine.RateLimit
