import IngestionEngine.RateLimit.Keyed

/-!
# What a key's bucket lets through

In any window the calls of one key that are allowed are at most the capacity of a key's
bucket and what its rate adds over the window, whatever the other keys and the global bucket
do.
-/

namespace IngestionEngine.RateLimit

open Systems Bucket

/-- The limits of a bucket, its account over a window, and a time since which nobody has looked
at it. -/
def Funded (capacity rate start stop now spent : ℚ) (bucket : TokenBucket) : Prop :=
  bucket.capacity = capacity ∧ bucket.refillRate = rate ∧ bucket.lastRefill ≤ now ∧
    Account capacity rate start stop bucket.lastRefill bucket.tokens spent

section Funds

variable {capacity rate start stop now spent : ℚ} {bucket : TokenBucket}

/-- A new bucket has an account. -/
theorem Funded.fresh (nonneg : 0 ≤ rate) (positive : 0 ≤ capacity) (window : start ≤ stop)
    (created : ℚ) :
    Funded capacity rate start stop created 0 (newTokenBucket rate capacity created) :=
  ⟨rfl, rfl, le_rfl, Account.full nonneg positive window⟩

/-- Time passes. -/
theorem Funded.later (funded : Funded capacity rate start stop now spent bucket) {clock : ℚ}
    (later : now ≤ clock) : Funded capacity rate start stop clock spent bucket :=
  ⟨funded.1, funded.2.1, le_trans funded.2.2.1 later, funded.2.2.2⟩

/-- The account is charged for a call that is admitted in the window. -/
theorem Funded.allow (nonneg : 0 ≤ rate) (funded : Funded capacity rate start stop now spent bucket)
    {clock : ℚ} (later : now ≤ clock) :
    Funded capacity rate start stop clock
      (spent + if (bucket.allow clock).2 = true ∧ start ≤ clock ∧ clock ≤ stop then 1 else 0)
      (bucket.allow clock).1 := by
  obtain ⟨limit, speed, seen, account⟩ := funded
  have looked : Account capacity rate start stop clock (bucket.level clock) spent := by
    have refilled := account.look nonneg (le_trans seen later)
    unfold TokenBucket.level
    rw [limit, speed]
    exact refilled
  unfold Funded TokenBucket.allow
  rw [TokenBucket.allowN_after]
  refine ⟨limit, speed, le_rfl, ?_⟩
  cases answer : (bucket.allowN 1 clock).2 with
  | true =>
    have paid := looked.pay nonneg ((TokenBucket.allowN_admits _ _ _).mp answer)
    simp only [true_and, if_true]
    exact paid
  | false =>
    simp only [Bool.false_eq_true, false_and, if_false, add_zero, sub_zero]
    exact looked

end Funds

namespace KeyedRateLimiter

/-- The calls that are allowed. -/
def passes (k : KeyedRateLimiter) : List Call → List Call
  | [] => []
  | call :: rest =>
    let (after, verdict) := k.allow call.key call.at_
    if verdict.result then call :: after.passes rest else after.passes rest

/-- The call is one of the key, and reads the key's bucket in the window. -/
def Call.InWindow (key : String) (start stop : ℚ) (call : Call) : Prop :=
  call.key = key ∧ start ≤ call.at_.keyAt ∧ call.at_.keyAt ≤ stop

instance (key : String) (start stop : ℚ) (call : Call) : Decidable (call.InWindow key start stop) :=
  inferInstanceAs (Decidable (_ ∧ _ ∧ _))

/-- The account of a key over a window: nothing is spent before its bucket exists. -/
def KeyAccount (k : KeyedRateLimiter) (key : String) (start stop now spent : ℚ) : Prop :=
  match k.buckets.lookup key with
  | none => spent = 0
  | some bucket =>
    bucket.capacity = k.capacity ∧ bucket.refillRate = k.ratePerSec ∧ bucket.lastRefill ≤ now ∧
      Account k.capacity k.ratePerSec start stop bucket.lastRefill bucket.tokens spent

/-- The bucket that a call of the key finds has an account. -/
theorem KeyAccount.found {k : KeyedRateLimiter} {key : String} {start stop now spent : ℚ}
    (nonneg : 0 ≤ k.ratePerSec) (positive : 0 ≤ k.capacity) (window : start ≤ stop)
    (account : k.KeyAccount key start stop now spent) {created : ℚ} (later : now ≤ created) :
    (k.bucketOf key created).capacity = k.capacity ∧
      (k.bucketOf key created).refillRate = k.ratePerSec ∧
      (k.bucketOf key created).lastRefill ≤ created ∧
      Account k.capacity k.ratePerSec start stop (k.bucketOf key created).lastRefill
        (k.bucketOf key created).tokens spent := by
  unfold KeyAccount at account
  unfold bucketOf
  cases held : k.buckets.lookup key with
  | none =>
    rw [held] at account
    simp only at account
    rw [account]
    exact ⟨rfl, rfl, le_rfl, Account.full nonneg positive window⟩
  | some bucket =>
    rw [held] at account
    exact ⟨account.1, account.2.1, le_trans account.2.2.1 later, account.2.2.2⟩

/-- One more call keeps the account of the key. -/
theorem KeyAccount.allow {k : KeyedRateLimiter} {key : String} {start stop now spent : ℚ}
    (nonneg : 0 ≤ k.ratePerSec) (positive : 0 ≤ k.capacity) (window : start ≤ stop)
    (account : k.KeyAccount key start stop now spent) {call : Call}
    (later : now ≤ call.at_.globalAt) :
    (k.allow call.key call.at_).1.KeyAccount key start stop call.at_.keyAt
      (spent + if (k.allow call.key call.at_).2.result = true ∧ call.InWindow key start stop
        then 1 else 0) := by
  have spec := k.allow_spec call.key call.at_
  have order := le_trans call.at_.ordered.1 call.at_.ordered.2
  have kept (same : (k.allow call.key call.at_).1.buckets.lookup key = k.buckets.lookup key) :
      (k.allow call.key call.at_).1.KeyAccount key start stop call.at_.keyAt spent := by
    unfold KeyAccount at account ⊢
    rw [same, spec.limits.1, spec.limits.2]
    cases held : k.buckets.lookup key with
    | none =>
      rw [held] at account
      exact account
    | some bucket =>
      rw [held] at account
      exact ⟨account.1, account.2.1, le_trans account.2.2.1 (le_trans later order),
        account.2.2.2⟩
  by_cases own : call.key = key
  · by_cases admitted : k.passesGlobal call.at_ = true
    · subst own
      have found : Funded k.capacity k.ratePerSec start stop call.at_.createdAt spent
          (k.bucketOf call.key call.at_.createdAt) :=
        account.found nonneg positive window (le_trans later call.at_.ordered.1)
      have result : (k.allow call.key call.at_).2.result =
          ((k.bucketOf call.key call.at_.createdAt).allow call.at_.keyAt).2 := by
        rw [spec.result, admitted, Bool.true_and]
      have charged := found.allow nonneg call.at_.ordered.2
      have same : (((k.bucketOf call.key call.at_.createdAt).allow call.at_.keyAt).2 = true ∧
            call.InWindow call.key start stop) ↔
          (((k.bucketOf call.key call.at_.createdAt).allow call.at_.keyAt).2 = true ∧
            start ≤ call.at_.keyAt ∧ call.at_.keyAt ≤ stop) :=
        and_congr_right fun _ => ⟨And.right, fun inside => ⟨rfl, inside⟩⟩
      unfold KeyAccount
      rw [spec.own, if_pos admitted, spec.limits.1, spec.limits.2, result, if_congr same rfl rfl]
      exact charged
    · have refused : (k.allow call.key call.at_).2.result = false := by
        rw [spec.result, Bool.not_eq_true _ |>.mp admitted, Bool.false_and]
      rw [refused]
      simp only [Bool.false_eq_true, false_and, if_false, add_zero]
      apply kept
      rw [← own, spec.own, if_neg admitted]
  · have outside : ¬ call.InWindow key start stop := fun inside => own inside.1
    rw [if_neg (fun both => outside both.2), add_zero]
    exact kept (spec.others key (fun same => own same.symm))

/-- The account of a key after some calls. -/
theorem KeyAccount.run {k : KeyedRateLimiter} {key : String} {start stop now spent : ℚ}
    (nonneg : 0 ≤ k.ratePerSec) (positive : 0 ≤ k.capacity) (window : start ≤ stop)
    (account : k.KeyAccount key start stop now spent) {calls : List Call}
    (timed : Timed now calls) :
    ∃ last, (k.run calls).KeyAccount key start stop last
        (spent + (k.passes calls).countP (fun call => call.InWindow key start stop)) ∧
      (k.run calls).ratePerSec = k.ratePerSec ∧ (k.run calls).capacity = k.capacity := by
  induction calls generalizing k now spent with
  | nil =>
    refine ⟨now, ?_, rfl, rfl⟩
    rw [passes, List.countP_nil, Nat.cast_zero, add_zero]
    exact account
  | cons call rest ih =>
    have limits := (k.allow_spec call.key call.at_).limits
    have next := account.allow nonneg positive window timed.1
    obtain ⟨last, kept, rate, capacity⟩ := ih (by rw [limits.1]; exact nonneg)
      (by rw [limits.2]; exact positive) next timed.2
    refine ⟨last, ?_, rate.trans limits.1, capacity.trans limits.2⟩
    have counted : ((k.passes (call :: rest)).countP
          (fun call => call.InWindow key start stop) : ℚ) =
        (if (k.allow call.key call.at_).2.result = true ∧ call.InWindow key start stop
          then 1 else 0) +
        ((k.allow call.key call.at_).1.passes rest).countP
          (fun call => call.InWindow key start stop) := by
      simp only [passes]
      cases (k.allow call.key call.at_).2.result with
      | true =>
        rw [if_pos rfl, List.countP_cons]
        by_cases inside : call.InWindow key start stop
        · simp [inside, add_comm]
        · simp [inside]
      | false => simp
    rw [counted, ← add_assoc]
    exact kept

end KeyedRateLimiter

open KeyedRateLimiter

/-- A key's bucket bounds what passes it in any window. -/
theorem passes_window {ratePerSec capacity globalRate globalCap created start stop : ℚ}
    {calls : List Call} (key : String) (nonneg : 0 ≤ ratePerSec) (positive : 0 ≤ capacity)
    (window : start ≤ stop) (timed : Timed created calls) :
    (((newKeyedRateLimiter ratePerSec capacity globalRate globalCap created).passes
        calls).countP (fun call => call.InWindow key start stop) : ℚ) ≤
      capacity + ratePerSec * (stop - start) := by
  have opened : (newKeyedRateLimiter ratePerSec capacity globalRate globalCap created).KeyAccount
      key start stop created 0 := rfl
  obtain ⟨last, account, rate, limit⟩ := opened.run nonneg positive window timed
  rw [zero_add] at account
  unfold KeyAccount at account
  split at account
  · rw [account]
    have gained := mul_nonneg nonneg (sub_nonneg.mpr window)
    linarith only [gained, positive]
  · rw [rate, limit] at account
    exact account.2.2.2.bounded

end IngestionEngine.RateLimit
