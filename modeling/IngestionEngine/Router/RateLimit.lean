import Mathlib
import IngestionEngine.RateLimit.Envelope
import IngestionEngine.Router.Http

/-!
# Rate limiting per client

`rateLimitMiddleware` looks a client up by `r.RemoteAddr`, which `net/http` sets to the
address and the source port of the connection, unless the request names the client in
`X-Forwarded-For`. So each connection of a client has a bucket of its own.
-/

namespace IngestionEngine.Router

open Systems Bucket RateLimit KeyedRateLimiter

/-- The parts of a request that the middleware reads. -/
structure Request where
  /-- `r.RemoteAddr` -/
  remoteAddr : String
  /-- `r.Header.Get("X-Forwarded-For")`, empty if there is none. -/
  forwardedFor : String
  deriving DecidableEq, Repr

/-- The key of the client. -/
def Request.clientIP (r : Request) : String :=
  if r.forwardedFor = "" then r.remoteAddr else r.forwardedFor

/-- The response to a request that is rate limited. -/
def tooManyRequests : Response :=
  .json 429 (.obj [("error", .str "rate_limit_exceeded"),
    ("message", .str "Token bucket quota exhausted. Please back off.")]) [("Retry-After", "1")]

/-- `rateLimitMiddleware`: a response, or the request goes on to the handler. -/
def rateLimitMiddleware (limiter : KeyedRateLimiter) (r : Request) (at_ : Readings) :
    KeyedRateLimiter × Option Response :=
  let (after, verdict) := limiter.allow r.clientIP at_
  if verdict.result then (after, none) else (after, some tooManyRequests)

/-- A POST request without `X-Forwarded-For`, on a connection from an address and a port. -/
structure Arrival where
  /-- The address of the client. -/
  ip : String
  /-- The source port of the connection. -/
  port : Nat
  /-- The clock readings of the middleware. -/
  at_ : Readings

/-- The request as `net/http` hands it to the router. -/
def Arrival.request (a : Arrival) : Request where
  remoteAddr := a.ip ++ ":" ++ toString a.port
  forwardedFor := ""

/-- The call of the limiter that the middleware makes for the request. -/
def Arrival.call (a : Arrival) : Call := ⟨a.request.clientIP, a.at_⟩

/-- The requests that the middleware passes to the handler. -/
def passed (limiter : KeyedRateLimiter) : List Arrival → List Arrival
  | [] => []
  | a :: rest =>
    let answer := rateLimitMiddleware limiter a.request a.at_
    if answer.2.isNone then a :: passed answer.1 rest else passed answer.1 rest

/-- The request comes from the address, and reads its bucket in the window. -/
def Arrival.InWindow (ip : String) (start stop : ℚ) (a : Arrival) : Prop :=
  a.ip = ip ∧ start ≤ a.at_.keyAt ∧ a.at_.keyAt ≤ stop

instance (ip : String) (start stop : ℚ) (a : Arrival) : Decidable (a.InWindow ip start stop) :=
  inferInstanceAs (Decidable (_ ∧ _ ∧ _))

/-- One request passes or is answered. -/
theorem passed_cons (limiter : KeyedRateLimiter) (a : Arrival) (rest : List Arrival) :
    passed limiter (a :: rest) =
      if (limiter.allow a.call.key a.call.at_).2.result
      then a :: passed (limiter.allow a.call.key a.call.at_).1 rest
      else passed (limiter.allow a.call.key a.call.at_).1 rest := by
  have key : a.call.key = a.request.clientIP := by rw [Arrival.call]
  have readings : a.call.at_ = a.at_ := rfl
  rw [passed, rateLimitMiddleware, ← key, ← readings]
  generalize limiter.allow a.call.key a.call.at_ = answer
  obtain ⟨after, verdict⟩ := answer
  cases verdict <;> rfl

/-- What passes the middleware is what the limiter allows. -/
theorem passed_calls (limiter : KeyedRateLimiter) (arrivals : List Arrival) :
    (passed limiter arrivals).map Arrival.call = limiter.passes (arrivals.map Arrival.call) := by
  induction arrivals generalizing limiter with
  | nil => rfl
  | cons a rest ih =>
    rw [passed_cons, List.map_cons, passes]
    generalize limiter.allow a.call.key a.call.at_ = answer
    obtain ⟨after, verdict⟩ := answer
    cases verdict with
    | allowed => exact congrArg (a.call :: ·) (ih after)
    | globalRefused | keyRefused => exact ih after

/-- What passes came in. -/
theorem passed_subset (limiter : KeyedRateLimiter) (arrivals : List Arrival) :
    ∀ a ∈ passed limiter arrivals, a ∈ arrivals := by
  induction arrivals generalizing limiter with
  | nil => exact fun a member => member
  | cons first rest ih =>
    intro a member
    rw [passed_cons] at member
    split at member
    · rcases List.mem_cons.mp member with rfl | later
      · exact List.mem_cons_self
      · exact List.mem_cons_of_mem _ (ih _ a later)
    · exact List.mem_cons_of_mem _ (ih _ a member)

/-- The key under which the limiter sees a connection. -/
theorem call_key (a : Arrival) : a.call.key = a.ip ++ ":" ++ toString a.port := by
  simp [Arrival.call, Request.clientIP, Arrival.request]

/-- Two connections of one address have different keys when their ports differ. -/
theorem call_key_ne {a b : Arrival} (same : a.ip = b.ip) (different : a.port ≠ b.port) :
    a.call.key ≠ b.call.key := by
  rw [call_key, call_key, same]
  intro keys
  have ports : Nat.repr a.port = Nat.repr b.port := (String.append_right_inj _).mp keys
  exact different (Nat.repr_injective ports)

/-- How many requests of an address pass in a window. -/
def passedInWindow (limiter : KeyedRateLimiter) (arrivals : List Arrival) (ip : String)
    (start stop : ℚ) : Nat :=
  (passed limiter arrivals).countP (fun a => a.InWindow ip start stop)

/-- The requests of an address that all come from one port are the calls of one key. -/
theorem passedInWindow_le {limiter : KeyedRateLimiter} {arrivals : List Arrival} {ip : String}
    {port : Nat} {start stop : ℚ}
    (onePort : ∀ a ∈ arrivals, a.InWindow ip start stop → a.port = port) :
    passedInWindow limiter arrivals ip start stop ≤
      (limiter.passes (arrivals.map Arrival.call)).countP
        (fun call => call.InWindow (ip ++ ":" ++ toString port) start stop) := by
  unfold passedInWindow
  rw [← passed_calls, List.countP_map]
  apply List.countP_mono_left
  intro a member inside
  have window : a.InWindow ip start stop := of_decide_eq_true inside
  have here := onePort a (passed_subset limiter arrivals a member) window
  have key : a.call.key = ip ++ ":" ++ toString port := by
    rw [call_key, window.1, here]
  exact decide_eq_true ⟨key, window.2⟩

/-! ### Two ports, two buckets -/

/-- At one time, the tokens that a key and all keys together still have. -/
structure Stocked (k : KeyedRateLimiter) (key : String) (now own shared : ℚ) : Prop where
  /-- The global bucket was last looked at now, and is within its capacity. -/
  ceiling : k.globalLimit.lastRefill = now ∧ k.globalLimit.tokens ≤ k.globalLimit.capacity
  /-- The tokens of the global bucket. -/
  shared : shared ≤ k.globalLimit.tokens
  /-- So was the key's bucket. -/
  bucket : (k.bucketOf key now).lastRefill = now ∧
    (k.bucketOf key now).tokens ≤ (k.bucketOf key now).capacity
  /-- The tokens of the key's bucket. -/
  own : own ≤ (k.bucketOf key now).tokens

/-- At the time of the last look the level is what the bucket holds. -/
theorem level_now {tb : TokenBucket} {now : ℚ} (here : tb.lastRefill = now)
    (within : tb.tokens ≤ tb.capacity) : tb.level now = tb.tokens := by
  unfold TokenBucket.level refill
  rw [here, sub_self, zero_mul, add_zero, min_eq_right within]

/-- A call at the same time takes one token of its key and one of all keys. -/
theorem Stocked.allow {k : KeyedRateLimiter} {key : String} {now own shared : ℚ}
    (stock : Stocked k key now own shared) (enough : 1 ≤ own) (enoughShared : 1 ≤ shared) :
    (k.allow key (.sharp now)).2.result = true ∧
      Stocked (k.allow key (.sharp now)).1 key now (own - 1) (shared - 1) ∧
      ∀ other rest, other ≠ key → Stocked k other now rest shared →
        Stocked (k.allow key (.sharp now)).1 other now rest (shared - 1) := by
  have spec := k.allow_spec key (.sharp now)
  have global := level_now stock.ceiling.1 stock.ceiling.2
  have local_ := level_now stock.bucket.1 stock.bucket.2
  have admitted : k.passesGlobal (.sharp now) = true := by
    apply (TokenBucket.allowN_admits _ _ _).mpr
    change 1 ≤ k.globalLimit.level now
    rw [global]
    exact le_trans enoughShared stock.shared
  have answered : ((k.bucketOf key now).allowN 1 now).2 = true := by
    apply (TokenBucket.allowN_admits _ _ _).mpr
    rw [local_]
    exact le_trans enough stock.own
  have shared_after : (k.allow key (.sharp now)).1.globalLimit = { k.globalLimit with
      tokens := k.globalLimit.tokens - 1, lastRefill := now } := by
    have passed : (k.globalLimit.allowN 1 now).2 = true := admitted
    rw [spec.globalLimit, TokenBucket.allow]
    change (k.globalLimit.allowN 1 now).1 = _
    rw [TokenBucket.allowN_after, passed, if_pos rfl, global]
  have own_after : (k.allow key (.sharp now)).1.bucketOf key now = { k.bucketOf key now with
      tokens := (k.bucketOf key now).tokens - 1, lastRefill := now } := by
    unfold bucketOf
    rw [spec.own, if_pos admitted, Option.getD_some]
    change ((k.bucketOf key now).allowN 1 now).1 = _
    rw [TokenBucket.allowN_after, answered, if_pos rfl, local_]
    rfl
  have other_after (other : String) (different : other ≠ key) :
      (k.allow key (.sharp now)).1.bucketOf other now = k.bucketOf other now := by
    unfold bucketOf
    rw [spec.others other different, spec.limits.1, spec.limits.2]
  have ceiling : (k.allow key (.sharp now)).1.globalLimit.lastRefill = now ∧
      (k.allow key (.sharp now)).1.globalLimit.tokens ≤
        (k.allow key (.sharp now)).1.globalLimit.capacity := by
    rw [shared_after]
    have within := stock.ceiling.2
    exact ⟨rfl, by simp only; linarith only [within]⟩
  have left : shared - 1 ≤ (k.allow key (.sharp now)).1.globalLimit.tokens := by
    rw [shared_after]
    have had := stock.shared
    simp only
    linarith only [had]
  refine ⟨?_, ⟨ceiling, left, ?_, ?_⟩, fun other rest different apart => ⟨ceiling, left, ?_, ?_⟩⟩
  · rw [spec.result, admitted, Bool.true_and]
    exact answered
  · rw [own_after]
    have within := stock.bucket.2
    exact ⟨rfl, by simp only; linarith only [within]⟩
  · rw [own_after]
    have had := stock.own
    simp only
    linarith only [had]
  · rw [other_after other different]
    exact apart.bucket
  · rw [other_after other different]
    exact apart.own

/-- A burst of requests on one connection at one time. -/
def burst (ip : String) (port count : Nat) (now : ℚ) : List Arrival :=
  List.replicate count ⟨ip, port, .sharp now⟩

/-- A burst passes while its key and all keys together have tokens for it. -/
theorem burst_passes {k : KeyedRateLimiter} {ip : String} {port count : Nat}
    {now own shared : ℚ} (later : List Arrival)
    (stock : Stocked k (ip ++ ":" ++ toString port) now own shared) (enough : count ≤ own)
    (room : count ≤ shared) :
    ∃ after, passed k (burst ip port count now ++ later) =
        burst ip port count now ++ passed after later ∧
      ∀ other rest, other ≠ ip ++ ":" ++ toString port → Stocked k other now rest shared →
        Stocked after other now rest (shared - count) := by
  induction count generalizing k own shared with
  | zero =>
    rw [Nat.cast_zero, sub_zero]
    exact ⟨k, rfl, fun _ _ _ apart => apart⟩
  | succ count ih =>
    rw [Nat.cast_succ] at enough room
    have counted : (0 : ℚ) ≤ count := Nat.cast_nonneg count
    have step := stock.allow (by linarith only [enough, counted])
      (by linarith only [room, counted])
    obtain ⟨after, passes, others⟩ := ih step.2.1 (by linarith only [enough])
      (by linarith only [room])
    have left : shared - 1 - count = shared - (count + 1 : ℕ) := by
      rw [Nat.cast_succ]
      ring
    rw [left] at others
    refine ⟨after, ?_, fun other rest different apart =>
      others other rest different (step.2.2 other rest different apart)⟩
    have key : (Arrival.mk ip port (.sharp now)).call.key = ip ++ ":" ++ toString port :=
      call_key _
    have readings : (Arrival.mk ip port (.sharp now)).call.at_ = .sharp now := rfl
    rw [burst, List.replicate_succ, List.cons_append, passed_cons, key, readings, step.1,
      if_pos rfl, List.cons_append]
    exact congrArg (_ :: ·) passes

/-- A burst at one time is timed. -/
theorem burst_timed {ip : String} {port count : Nat} {now : ℚ} {later : List Arrival}
    (timed : Timed now (later.map Arrival.call)) :
    Timed now ((burst ip port count now ++ later).map Arrival.call) := by
  induction count with
  | zero => exact timed
  | succ count ih => exact ⟨le_rfl, ih⟩

/-- Bursts from two ports, each as large as the capacity, pass together when the global
bucket has room for them. -/
theorem two_ports_exceed {ratePerSec capacity globalRate globalCap created : ℚ} {ip : String}
    {first second : Nat} (different : first ≠ second) (large : 1 ≤ capacity)
    (room : 2 * capacity ≤ globalCap) :
    ∃ arrivals : List Arrival, Timed created (arrivals.map Arrival.call) ∧
      (∀ a ∈ arrivals, a.ip = ip ∧ (a.port = first ∨ a.port = second)) ∧
      capacity + ratePerSec * (created - created) <
        passedInWindow (newKeyedRateLimiter ratePerSec capacity globalRate globalCap created)
          arrivals ip created created := by
  have floor : (⌊capacity⌋₊ : ℚ) ≤ capacity := Nat.floor_le (le_trans zero_le_one large)
  have above : capacity < ⌊capacity⌋₊ + 1 := Nat.lt_floor_add_one capacity
  have counted : (1 : ℚ) ≤ ⌊capacity⌋₊ := by
    exact_mod_cast Nat.le_floor (by exact_mod_cast large)
  have apart : ip ++ ":" ++ toString second ≠ ip ++ ":" ++ toString first := by
    have keys := @call_key_ne ⟨ip, second, .sharp 0⟩ ⟨ip, first, .sharp 0⟩ rfl different.symm
    rw [call_key, call_key] at keys
    exact keys
  have opened (key : String) : Stocked
      (newKeyedRateLimiter ratePerSec capacity globalRate globalCap created) key created
      capacity globalCap :=
    ⟨⟨rfl, le_rfl⟩, le_rfl, ⟨rfl, le_rfl⟩, le_rfl⟩
  obtain ⟨middle, passes, fresh⟩ := burst_passes (burst ip second ⌊capacity⌋₊ created ++ [])
    (opened (ip ++ ":" ++ toString first)) floor (by linarith only [floor, room, large])
  obtain ⟨last, passesToo, _⟩ := burst_passes [] (fresh _ _ apart (opened _)) floor
    (by linarith only [floor, room])
  refine ⟨burst ip first ⌊capacity⌋₊ created ++ (burst ip second ⌊capacity⌋₊ created ++ []),
    burst_timed (burst_timed trivial), ?_, ?_⟩
  · intro a member
    simp only [burst, List.mem_append, List.mem_replicate, List.not_mem_nil, or_false] at member
    rcases member with ⟨_, rfl⟩ | ⟨_, rfl⟩
    · exact ⟨rfl, .inl rfl⟩
    · exact ⟨rfl, .inr rfl⟩
  · have inside (port : Nat) :
        (Arrival.mk ip port (.sharp created)).InWindow ip created created :=
      ⟨rfl, le_rfl, le_rfl⟩
    have both : passedInWindow (newKeyedRateLimiter ratePerSec capacity globalRate globalCap
        created) (burst ip first ⌊capacity⌋₊ created ++
          (burst ip second ⌊capacity⌋₊ created ++ [])) ip created created =
        ⌊capacity⌋₊ + ⌊capacity⌋₊ := by
      unfold passedInWindow
      rw [passes, passesToo]
      simp [burst, passed, List.countP_replicate, inside]
    rw [both, Nat.cast_add, sub_self, mul_zero, add_zero]
    linarith only [above, counted]

/-- Whatever else arrives, the requests of an address that pass in a window are within the
capacity and what the rate adds over the window, provided those of the window all come from
one port. With two ports they need not be: each has a bucket of its own. -/
theorem per_ip_envelope (ratePerSec capacity globalRate globalCap created : ℚ) (ip : String)
    (nonneg : 0 ≤ ratePerSec) (positive : 0 ≤ capacity) :
    (∀ (arrivals : List Arrival) (port : Nat) (start stop : ℚ), start ≤ stop →
        Timed created (arrivals.map Arrival.call) →
        (∀ a ∈ arrivals, a.InWindow ip start stop → a.port = port) →
        (passedInWindow (newKeyedRateLimiter ratePerSec capacity globalRate globalCap created)
          arrivals ip start stop : ℚ) ≤ capacity + ratePerSec * (stop - start)) ∧
      ∀ first second : Nat, first ≠ second → 1 ≤ capacity → 2 * capacity ≤ globalCap →
        ∃ arrivals : List Arrival, Timed created (arrivals.map Arrival.call) ∧
          (∀ a ∈ arrivals, a.ip = ip ∧ (a.port = first ∨ a.port = second)) ∧
          capacity + ratePerSec * (created - created) <
            passedInWindow (newKeyedRateLimiter ratePerSec capacity globalRate globalCap created)
              arrivals ip created created := by
  constructor
  · intro arrivals port start stop window timed onePort
    have bound := @passes_window ratePerSec capacity globalRate globalCap created start stop _
      (ip ++ ":" ++ toString port) nonneg positive window timed
    exact le_trans (Nat.cast_le.mpr (passedInWindow_le onePort)) bound
  · intro first second different large room
    exact two_ports_exceed different large room

/-- Two requests of one address at one time, from given ports. -/
def twoRequests (first second : Nat) : List Arrival :=
  [⟨"10.0.0.1", first, .sharp 0⟩, ⟨"10.0.0.1", second, .sharp 0⟩]

/-- On one connection a capacity of one bounds the two requests. -/
theorem per_ip_envelope_connection :
    (passedInWindow (newKeyedRateLimiter 1 1 2 2 0) (twoRequests 40000 40000) "10.0.0.1" 0 0 : ℚ)
      ≤ 1 + 1 * (0 - 0) := by
  have onePort : ∀ a ∈ twoRequests 40000 40000, a.InWindow "10.0.0.1" 0 0 → a.port = 40000 := by
    intro a member _
    simp only [twoRequests, List.mem_cons, List.not_mem_nil, or_false] at member
    rcases member with rfl | rfl <;> rfl
  exact (per_ip_envelope 1 1 2 2 0 "10.0.0.1" zero_le_one zero_le_one).1 (twoRequests 40000 40000)
    40000 0 0 le_rfl ⟨le_rfl, le_rfl, trivial⟩ onePort

/-- On two connections both pass. -/
theorem per_ip_envelope_fails :
    ¬ ∀ (ratePerSec capacity globalRate globalCap created : ℚ) (arrivals : List Arrival)
        (ip : String) (start stop : ℚ),
      0 ≤ ratePerSec → 0 ≤ capacity → start ≤ stop →
      Timed created (arrivals.map Arrival.call) →
      (passedInWindow (newKeyedRateLimiter ratePerSec capacity globalRate globalCap created)
        arrivals ip start stop : ℚ) ≤ capacity + ratePerSec * (stop - start) := by
  intro envelope
  have bound := envelope 1 1 2 2 0 (twoRequests 40000 40001) "10.0.0.1" 0 0 zero_le_one
    zero_le_one le_rfl ⟨le_rfl, le_rfl, trivial⟩
  have both : passedInWindow (newKeyedRateLimiter 1 1 2 2 0) (twoRequests 40000 40001)
      "10.0.0.1" 0 0 = 2 := by
    decide +kernel
  rw [both] at bound
  norm_num at bound

end IngestionEngine.Router
