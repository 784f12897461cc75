import IngestionEngine.RateLimit.TokenBucket
import IngestionEngine.Systems.Table

/-!
# The keyed rate limiter

`ratelimit.KeyedRateLimiter`: a global bucket and one bucket per key, created when the key
is first seen. `Allow` has three atomic sections, each under its own mutex: the global
check, the lookup or creation under `k.mu`, and the check of the key's bucket. The map holds
pointers; a key's pointer never changes.
-/

namespace IngestionEngine.RateLimit

open Systems Bucket

/-- `KeyedRateLimiter` -/
structure KeyedRateLimiter where
  /-- The buckets and the map that points to them. -/
  buckets : Table String TokenBucket
  /-- The rate of a key's bucket. -/
  ratePerSec : ℚ
  /-- The capacity of a key's bucket. -/
  capacity : ℚ
  /-- The bucket that all keys share. -/
  globalLimit : TokenBucket

/-- `NewKeyedRateLimiter` -/
def newKeyedRateLimiter (ratePerSec capacity globalRate globalCap now : ℚ) : KeyedRateLimiter where
  buckets := Table.empty
  ratePerSec := ratePerSec
  capacity := capacity
  globalLimit := newTokenBucket globalRate globalCap now

/-- The clock readings of one `Allow`, in the order in which it takes them. -/
structure Readings where
  /-- In `globalLimit.Allow`. -/
  globalAt : ℚ
  /-- In `NewTokenBucket`, if the key is new. -/
  createdAt : ℚ
  /-- In `bucket.Allow`. -/
  keyAt : ℚ
  /-- The clock does not go back. -/
  ordered : globalAt ≤ createdAt ∧ createdAt ≤ keyAt

/-- Readings that are all the same. -/
def Readings.sharp (now : ℚ) : Readings := ⟨now, now, now, le_rfl, le_rfl⟩

namespace KeyedRateLimiter

/-- `k.globalLimit.Allow()` -/
def checkGlobal (k : KeyedRateLimiter) (now : ℚ) : KeyedRateLimiter × Bool :=
  let (globalLimit, admitted) := k.globalLimit.allow now
  ({ k with globalLimit }, admitted)

/-- The critical section of `k.mu`. -/
def lookupOrCreate (k : KeyedRateLimiter) (key : String) (now : ℚ) : KeyedRateLimiter :=
  { k with buckets := k.buckets.ensure key (newTokenBucket k.ratePerSec k.capacity now) }

/-- `bucket.Allow()`, where `place` is the bucket that was looked up. -/
def checkKey (k : KeyedRateLimiter) (place : Nat) (now : ℚ) : KeyedRateLimiter × Bool :=
  match k.buckets.cells[place]? with
  | some bucket =>
    let (after, admitted) := bucket.allow now
    ({ k with buckets := k.buckets.set place after }, admitted)
  | none => (k, false)

/-- Why `Allow` returned what it did. -/
inductive Verdict where
  /-- The global bucket refused. -/
  | globalRefused
  /-- The key's bucket refused. -/
  | keyRefused
  /-- Both admitted. -/
  | allowed
  deriving DecidableEq, Repr

/-- What `Allow` returns. -/
def Verdict.result : Verdict → Bool
  | .allowed => true
  | .globalRefused | .keyRefused => false

/-- `Allow`, with the reason of its result. -/
def allow (k : KeyedRateLimiter) (key : String) (at_ : Readings) : KeyedRateLimiter × Verdict :=
  match k.checkGlobal at_.globalAt with
  | (k, false) => (k, .globalRefused)
  | (k, true) =>
    let k := k.lookupOrCreate key at_.createdAt
    match k.buckets.index key with
    | none => (k, .keyRefused)
    | some place =>
      match k.checkKey place at_.keyAt with
      | (k, false) => (k, .keyRefused)
      | (k, true) => (k, .allowed)

/-- The bucket that a key's check finds: its own, or a new one. -/
def bucketOf (k : KeyedRateLimiter) (key : String) (now : ℚ) : TokenBucket :=
  (k.buckets.lookup key).getD (newTokenBucket k.ratePerSec k.capacity now)

/-- The global bucket admits the call. -/
def passesGlobal (k : KeyedRateLimiter) (at_ : Readings) : Bool :=
  (k.globalLimit.allow at_.globalAt).2

/-- Everything an `Allow` does. -/
structure Allowed (k : KeyedRateLimiter) (key : String) (at_ : Readings)
    (after : KeyedRateLimiter) (verdict : Verdict) : Prop where
  /-- The global bucket is charged, whatever the key's bucket answers. -/
  globalLimit : after.globalLimit = (k.globalLimit.allow at_.globalAt).1
  /-- The limits stay. -/
  limits : after.ratePerSec = k.ratePerSec ∧ after.capacity = k.capacity
  /-- The global bucket is asked first. -/
  refused : verdict = .globalRefused ↔ k.passesGlobal at_ = false
  /-- Both buckets must admit the call. -/
  result : verdict.result =
    (k.passesGlobal at_ && ((k.bucketOf key at_.createdAt).allow at_.keyAt).2)
  /-- The key's bucket is charged only when the global bucket admits the call. -/
  own : after.buckets.lookup key =
    if k.passesGlobal at_ then some ((k.bucketOf key at_.createdAt).allow at_.keyAt).1
    else k.buckets.lookup key
  /-- No other bucket is touched. -/
  others : ∀ other, other ≠ key → after.buckets.lookup other = k.buckets.lookup other

/-- `allow` does this and nothing else. -/
theorem allow_spec (k : KeyedRateLimiter) (key : String) (at_ : Readings) :
    k.Allowed key at_ (k.allow key at_).1 (k.allow key at_).2 := by
  unfold allow checkGlobal
  cases passed : (k.globalLimit.allow at_.globalAt).2 with
  | false =>
    have refused : k.passesGlobal at_ = false := passed
    constructor <;> simp [refused, passed, Verdict.result]
  | true =>
    have admitted : k.passesGlobal at_ = true := passed
    simp only [passed, lookupOrCreate]
    obtain ⟨place, bound⟩ := Table.index_ensure k.buckets key
      (newTokenBucket k.ratePerSec k.capacity at_.createdAt)
    have held := Table.lookup_ensure_same k.buckets key
      (newTokenBucket k.ratePerSec k.capacity at_.createdAt)
    have found := held
    rw [Table.lookup, bound] at found
    have bucket : (k.buckets.ensure key (newTokenBucket k.ratePerSec k.capacity
        at_.createdAt)).cells[place]? = some (k.bucketOf key at_.createdAt) := found
    have kept (other : String) (different : other ≠ key) (value : TokenBucket) :
        ((k.buckets.ensure key (newTokenBucket k.ratePerSec k.capacity at_.createdAt)).set place
          value).lookup other = k.buckets.lookup other := by
      rw [Table.lookup_set_other bound different, Table.lookup_ensure_other _ different]
    simp only [bound, checkKey, bucket]
    cases answer : ((k.bucketOf key at_.createdAt).allow at_.keyAt).2 with
    | false =>
      constructor
      · rfl
      · exact ⟨rfl, rfl⟩
      · simp [admitted]
      · simp [admitted, answer, Verdict.result]
      · rw [if_pos admitted]
        exact Table.lookup_set_same bound _
      · exact fun other different => kept other different _
    | true =>
      constructor
      · rfl
      · exact ⟨rfl, rfl⟩
      · simp [admitted]
      · simp [admitted, answer, Verdict.result]
      · rw [if_pos admitted]
        exact Table.lookup_set_same bound _
      · exact fun other different => kept other different _

/-- One call of `Allow`. -/
structure Call where
  /-- The client. -/
  key : String
  /-- Its clock readings. -/
  at_ : Readings

/-- The limiter after some calls. -/
def run (k : KeyedRateLimiter) : List Call → KeyedRateLimiter
  | [] => k
  | call :: rest => (k.allow call.key call.at_).1.run rest

/-- The verdicts on some calls. -/
def verdicts (k : KeyedRateLimiter) : List Call → List Verdict
  | [] => []
  | call :: rest => (k.allow call.key call.at_).2 :: (k.allow call.key call.at_).1.verdicts rest

/-- The clock does not go back from one call to the next. -/
def Timed (now : ℚ) : List Call → Prop
  | [] => True
  | call :: rest => now ≤ call.at_.globalAt ∧ Timed call.at_.keyAt rest

/-- A clock that has not passed a time has not passed an earlier one. -/
theorem Timed.earlier {now before : ℚ} {calls : List Call} (timed : Timed now calls)
    (order : before ≤ now) : Timed before calls := by
  cases calls with
  | nil => trivial
  | cons call rest => exact ⟨le_trans order timed.1, timed.2⟩

/-- The calls, without those of one key that its own bucket refused. -/
def withoutOwnRefusals (key : String) (k : KeyedRateLimiter) : List Call → List Call
  | [] => []
  | call :: rest =>
    let (after, verdict) := k.allow call.key call.at_
    if call.key = key ∧ verdict = .keyRefused then after.withoutOwnRefusals key rest
    else call :: after.withoutOwnRefusals key rest

end KeyedRateLimiter

end IngestionEngine.RateLimit
