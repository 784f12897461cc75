import IngestionEngine.Router.Responses

/-!
# Which requests get past the middleware

Every request for one of the routes that take events is a goroutine of the limiter of its own, under
the key of its client, and gets past the middleware only when that goroutine has returned true. So
the buckets bound the requests that are let in, for each client and for all together, and with them
the goroutines that ever call the pool.
-/

namespace IngestionEngine.RateLimit.Concurrent

open Systems Bucket

/-- The call has returned true, for one of some keys. -/
def Goroutine.passed (keys : String → Bool) (g : Goroutine) : Nat :=
  if g.pc = .returned true ∧ keys g.key = true then 1 else 0

/-- The global bucket has admitted the call, and no bucket has refused it. -/
def Goroutine.beyond (g : Goroutine) : Nat :=
  match g.pc with
  | .lookup | .keyCheck _ | .returned true => 1
  | .globalCheck | .returned false => 0

/-- What the next critical section of a goroutine shows, and where it goes. -/
inductive Section (g : Goroutine) (clock : ℚ) : AllowPc → List Obs → Prop where
  /-- The global bucket admits it. -/
  | admitted (here : g.pc = .globalCheck) : Section g clock .lookup [.globalChecked clock true]
  /-- The global bucket refuses it. -/
  | refused (here : g.pc = .globalCheck) :
      Section g clock (.returned false) [.globalChecked clock false]
  /-- It has a bucket. -/
  | lookup {place : Nat} (here : g.pc = .lookup) :
      Section g clock (.keyCheck place) [.bound g.key place]
  /-- The bucket answers. -/
  | keyCheck {place : Nat} {allowed : Bool} (here : g.pc = .keyCheck place) :
      Section g clock (.returned allowed) [.keyChecked g.key clock allowed]

variable {s after : State} {out : List Obs} {index : Nat} {clock : ℚ} {keys : String → Bool}

/-- A critical section moves its goroutine, and the clock. -/
theorem enter_section (stepped : s.step (.enter index clock) = some (after, out)) :
    ∃ g pc, s.goroutines[index]? = some g ∧ s.now ≤ clock ∧ after.now = clock ∧
      after.goroutines = s.goroutines.set index { g with pc } ∧ Section g clock pc out := by
  rw [State.step] at stepped
  split at stepped
  · contradiction
  rename_i early
  split at stepped
  · contradiction
  rename_i g running
  have later : s.now ≤ clock := not_lt.mp early
  unfold State.enter at stepped
  split at stepped
  · rename_i here
    cases asked : s.limiter.checkGlobal clock with
    | mk limiter passed =>
      rw [asked] at stepped
      obtain ⟨rfl, rfl⟩ := Prod.mk.inj (Option.some.inj stepped)
      cases passed with
      | true => exact ⟨g, .lookup, running, later, rfl, rfl, .admitted here⟩
      | false => exact ⟨g, .returned false, running, later, rfl, rfl, .refused here⟩
  · rename_i here
    dsimp only at stepped
    split at stepped
    · contradiction
    · rename_i place found
      obtain ⟨rfl, rfl⟩ := Prod.mk.inj (Option.some.inj stepped)
      exact ⟨g, .keyCheck place, running, later, rfl, rfl, .lookup here⟩
  · rename_i here
    obtain ⟨rfl, rfl⟩ := Prod.mk.inj (Option.some.inj stepped)
    exact ⟨g, .returned _, running, later, rfl, rfl, .keyCheck here⟩
  · contradiction

/-- What the calls that have returned true show, and when they read the clock. -/
structure Passes (created : ℚ) (seen : List Obs) (s : State) : Prop where
  /-- The clock does not go back. -/
  later : created ≤ s.now
  /-- The bucket of a key has let pass the calls that have returned true. -/
  own : ∀ key, total (Goroutine.passed fun other => decide (other = key)) s.goroutines =
    countWithin created s.now (Obs.keyPass key) seen
  /-- The global bucket has let them pass too. -/
  overall : total Goroutine.beyond s.goroutines ≤ countWithin created s.now Obs.globalPass seen
  /-- No reading is later than the last. -/
  readings : ∀ clock ∈ seen.flatMap Obs.globalPass, clock ≤ s.now
  /-- Nor is one of a key. -/
  keyReadings : ∀ key, ∀ clock ∈ seen.flatMap (Obs.keyPass key), clock ≤ s.now

/-- A wider window counts the same when all readings lie in the smaller one. -/
theorem countWithin_later {start stop later : ℚ} {read : Obs → List ℚ} {seen : List Obs}
    (inside : ∀ clock ∈ seen.flatMap read, clock ≤ stop) (wider : stop ≤ later) :
    countWithin start later read seen = countWithin start stop read seen := by
  unfold countWithin
  apply List.countP_congr
  intro clock member
  have before := inside clock member
  rw [decide_eq_true_eq, decide_eq_true_eq]
  constructor
  · exact fun within => ⟨within.1, before⟩
  · exact fun within => ⟨within.1, before.trans wider⟩

/-- Every step keeps what the passes show. -/
theorem step_passes {created : ℚ} {seen : List Obs} {action : Act} (passes : Passes created seen s)
    (stepped : s.step action = some (after, out)) : Passes created (seen ++ out) after := by
  obtain ⟨later, own, overall, readings, keyReadings⟩ := passes
  cases action with
  | call key =>
    obtain ⟨rfl, rfl⟩ := Prod.mk.inj (Option.some.inj stepped)
    rw [List.append_nil]
    refine ⟨later, fun other => ?_, ?_, readings, keyReadings⟩
    · rw [total_append, ← own other]
      rfl
    · rw [total_append]
      exact overall
  | enter index clock =>
    obtain ⟨g, pc, running, passing, here, goroutines, part⟩ := enter_section stepped
    have opened : created ≤ clock := later.trans passing
    have keyed (key : String) := total_set
      (Goroutine.passed fun other => decide (other = key)) running { g with pc }
    have all := total_set Goroutine.beyond running { g with pc }
    have keyShown (key : String) : ∀ reading ∈ out.flatMap (Obs.keyPass key), reading = clock := by
      cases part with
      | admitted | refused | lookup => simp [Obs.keyPass]
      | @keyCheck place allowed =>
        cases allowed with
        | true =>
          simp only [List.flatMap_singleton, Obs.keyPass]
          split <;> simp
        | false => simp [Obs.keyPass]
    have shown : ∀ reading ∈ out.flatMap Obs.globalPass, reading = clock := by
      cases part with
      | admitted | refused | lookup => simp [Obs.globalPass]
      | keyCheck => simp [Obs.globalPass]
    refine ⟨here ▸ opened, fun key => ?_, ?_, ?_, fun key => ?_⟩
    · rw [here, goroutines, countWithin_append, countWithin_later (keyReadings key) passing,
        ← own key]
      have traded := keyed key
      cases part with
      | admitted before | refused before | lookup before =>
        simp only [Goroutine.passed, before] at traded
        simpa [countWithin, Obs.keyPass] using traded
      | @keyCheck place allowed before =>
        have within : Within created clock clock := ⟨opened, le_refl _⟩
        cases allowed with
        | false =>
          simp only [Goroutine.passed, before] at traded
          simpa [countWithin, Obs.keyPass] using traded
        | true =>
          simp only [Goroutine.passed, before] at traded
          by_cases same : g.key = key
          · simpa [countWithin, Obs.keyPass, same, within] using traded
          · simpa [countWithin, Obs.keyPass, same] using traded
    · rw [here, goroutines, countWithin_append, countWithin_later readings passing]
      cases part with
      | admitted before =>
        have within : Within created clock clock := ⟨opened, le_refl _⟩
        have one : countWithin created clock Obs.globalPass [.globalChecked clock true] = 1 := by
          simp [countWithin, Obs.globalPass, within]
        simp only [Goroutine.beyond, before] at all
        omega
      | refused before | lookup before =>
        simp only [Goroutine.beyond, before] at all
        omega
      | @keyCheck place allowed before =>
        cases allowed <;> simp only [Goroutine.beyond, before] at all <;> omega
    · rw [here, List.flatMap_append]
      intro reading member
      rcases List.mem_append.mp member with old | new
      · exact (readings reading old).trans passing
      · exact (shown reading new).le
    · rw [here, List.flatMap_append]
      intro reading member
      rcases List.mem_append.mp member with old | new
      · exact (keyReadings key reading old).trans passing
      · exact (keyShown key reading new).le

/-- So does every run. -/
theorem run_passes {ratePerSec capacity globalRate globalCap created : ℚ} {seen : List Obs}
    (run : system.AnyRun (.start ratePerSec capacity globalRate globalCap created) seen s) :
    Passes created seen s := by
  apply run.invariant (Passes created)
  · exact ⟨le_refl _, fun _ => rfl, Nat.le_refl _, by simp, by simp⟩
  · intro seen s action after out passes _ stepped
    exact step_passes passes stepped

/-- The account of a key bounds what passes its bucket in the window. -/
theorem Accounts.key_bounded {ratePerSec capacity globalRate globalCap start stop : ℚ}
    {seen : List Obs}
    (accounts : Accounts ratePerSec capacity globalRate globalCap start stop seen s)
    (nonneg : 0 ≤ ratePerSec) (positive : 0 ≤ capacity) (window : start ≤ stop) (key : String) :
    (countWithin start stop (Obs.keyPass key) seen : ℚ) ≤
      capacity + ratePerSec * (stop - start) := by
  cases held : s.limiter.buckets.lookup key with
  | none =>
    have gained := mul_nonneg nonneg (sub_nonneg.mpr window)
    rw [accounts.missing key held, Nat.cast_zero]
    linarith only [gained, positive]
  | some bucket => exact (accounts.own key bucket held).2.2.2.bounded

end IngestionEngine.RateLimit.Concurrent

namespace IngestionEngine.Router

open Systems Event Worker RateLimit

/-- The goroutine of the limiter that the goroutine of a request is. -/
def HandlerPc.call : HandlerPc → Option Nat
  | .allowing call => some call
  | .reading | .enqueueing _ _ | .stats _ | .metrics _ _ | .responded _ => none

/-- The middleware has let the request pass. -/
def HandlerPc.admitted : HandlerPc → Bool
  | .reading | .enqueueing _ _ | .responded (.rejected _) | .responded (.single _ _)
  | .responded (.batch _ _ _) => true
  | .allowing _ | .stats _ | .metrics _ _ | .responded .limited | .responded (.healthz _ _)
  | .responded (.metrics _ _ _) => false

/-- The handler has called the pool. -/
def HandlerPc.calls : HandlerPc → Bool
  | .enqueueing _ _ | .responded (.single _ _) | .responded (.batch _ _ _) => true
  | .allowing _ | .reading | .stats _ | .metrics _ _ | .responded .limited
  | .responded (.rejected _) | .responded (.healthz _ _) | .responded (.metrics _ _ _) => false

/-- The goroutine of the limiter that the goroutine of a request is. -/
def Handler.call (h : Handler) : Option Nat := h.pc.call

/-- The middleware has let the request of one of some clients pass. -/
def Handler.admitted (keys : String → Bool) (h : Handler) : Bool :=
  h.pc.admitted && keys h.request.client.clientIP

/-- It has, or the goroutine of the limiter has returned true. -/
def Handler.passes (keys : String → Bool) (h : Handler) : Option Concurrent.Goroutine → Nat
  | some g => g.passed keys
  | none => (h.admitted keys).toNat

namespace Server

/-- How many requests of some clients the middleware has let pass. -/
def admitted (keys : String → Bool) (s : Server) : Nat :=
  total (fun h => (h.admitted keys).toNat) s.handlers

/-- How many requests have called the pool. -/
def called (s : Server) : Nat := total (fun h : Handler => h.pc.calls.toNat) s.handlers

/-- Who is let pass rests on the goroutines of the limiter. -/
structure Admissions (keys : String → Bool) (s : Server) : Prop where
  /-- Each goroutine of the limiter is a handler, or was one that has gone on. -/
  ledger : Ledger Handler.call (Handler.passes keys) (Concurrent.Goroutine.passed keys)
    s.limiter.goroutines s.handlers
  /-- Its key is the client's. -/
  keyed : ∀ h ∈ s.handlers, ∀ call g, h.pc = .allowing call →
    s.limiter.goroutines[call]? = some g → g.key = h.request.client.clientIP

variable {describe : DecodeError → String} {s after : Server} {index : Nat} {h : Handler}
  {next : Move} {keys : String → Bool}

/-- A goroutine outside the limiter takes a step. -/
theorem Admissions.idle (admissions : s.Admissions keys) (running : s.handlers[index]? = some h)
    (limiter : next.limiter = s.limiter) (outside : h.pc.call = none ∧ next.pc.call = none)
    (same : next.pc.admitted = h.pc.admitted) : (s.moved index h next).Admissions keys := by
  have free : Handler.call { h with pc := next.pc } = none := outside.2
  have idle : h.call = none := outside.1
  constructor
  · show Ledger _ _ _ next.limiter.goroutines (s.handlers.set index { h with pc := next.pc })
    rw [limiter]
    apply admissions.ledger.move running
    · intro cell holds
      rw [free] at holds
      contradiction
    · rw [owned, owned, free, idle]
      show (next.pc.admitted && keys h.request.client.clientIP).toNat =
        (h.pc.admitted && keys h.request.client.clientIP).toNat
      rw [same]
  · show ∀ other ∈ s.handlers.set index { h with pc := next.pc }, ∀ call g,
      other.pc = .allowing call → next.limiter.goroutines[call]? = some g →
        g.key = other.request.client.clientIP
    rw [limiter]
    apply forall_mem_set admissions.keyed
    intro call g there
    have here : next.pc = .allowing call := there
    rw [here] at outside
    exact absurd outside.2 (by simp [HandlerPc.call])

/-- The limiter has answered, and the goroutine goes on. -/
theorem Admissions.leaves (admissions : s.Admissions keys) (running : s.handlers[index]? = some h)
    {call : Nat} {g : Concurrent.Goroutine} (here : h.pc = .allowing call)
    (calling : s.limiter.goroutines[call]? = some g) {allowed : Bool}
    (returned : g.pc = .returned allowed) (limiter : next.limiter = s.limiter)
    (outside : next.pc.call = none) (same : next.pc.admitted = allowed) :
    (s.moved index h next).Admissions keys := by
  have free : Handler.call { h with pc := next.pc } = none := outside
  have holds : h.call = some call := by rw [Handler.call, here]; rfl
  have key := admissions.keyed h (List.mem_of_getElem? running) call g here calling
  constructor
  · show Ledger _ _ _ next.limiter.goroutines (s.handlers.set index { h with pc := next.pc })
    rw [limiter]
    apply admissions.ledger.move running
    · intro cell again
      rw [free] at again
      contradiction
    · rw [owned, owned, free, holds, Option.bind_some, calling]
      show (next.pc.admitted && keys h.request.client.clientIP).toNat = g.passed keys
      rw [same, Concurrent.Goroutine.passed, returned, key]
      cases allowed <;> cases keys h.request.client.clientIP <;> rfl
  · show ∀ other ∈ s.handlers.set index { h with pc := next.pc }, ∀ call g,
      other.pc = .allowing call → next.limiter.goroutines[call]? = some g →
        g.key = other.request.client.clientIP
    rw [limiter]
    apply forall_mem_set admissions.keyed
    intro other g there
    have standing : next.pc = .allowing other := there
    rw [standing] at outside
    exact absurd outside (by simp [HandlerPc.call])

/-- The goroutine takes a step in the limiter. -/
theorem Admissions.asks (admissions : s.Admissions keys) (running : s.handlers[index]? = some h)
    {call : Nat} {clock : ℚ} {limiter : Concurrent.State} {out : List Concurrent.Obs}
    {shown : List Obs} (here : h.pc = .allowing call)
    (moved : s.limiter.step (.enter call clock) = some (limiter, out)) :
    (s.moved index h ⟨limiter, s.engine, .allowing call, shown⟩).Admissions keys := by
  obtain ⟨g, pc, calling, _, _, goroutines, _⟩ := Concurrent.enter_section moved
  have holds : h.call = some call := by rw [Handler.call, here]; rfl
  have stays : s.handlers.set index { h with pc := .allowing call } = s.handlers := by
    obtain ⟨inside, found⟩ := List.getElem?_eq_some_iff.mp running
    rw [← here, ← found]
    exact List.set_getElem_self inside
  constructor
  · show Ledger _ _ _ limiter.goroutines (s.handlers.set index { h with pc := .allowing call })
    rw [goroutines, stays]
    exact admissions.ledger.change running holds calling rfl rfl
  · show ∀ other ∈ s.handlers.set index { h with pc := .allowing call }, ∀ call g,
      other.pc = .allowing call → limiter.goroutines[call]? = some g →
        g.key = other.request.client.clientIP
    rw [goroutines, stays]
    intro other member place g' there found
    rcases getElem?_set_cases found with ⟨rfl, rfl⟩ | ⟨_, found⟩
    · exact admissions.keyed other member place g there calling
    · exact admissions.keyed other member place g' there found

/-- Every step keeps the admissions. -/
theorem step_admissions {action : Act} {out : List Obs} (admissions : s.Admissions keys)
    (stepped : s.step describe action = some (after, out)) : after.Admissions keys := by
  cases step_cases stepped with
  | @post request =>
    constructor
    · exact admissions.ledger.start rfl rfl
    · intro other member call g there found
      rcases List.mem_append.mp member with old | new
      · have inside := admissions.ledger.own.inside other old call (by
          rw [Handler.call, there]
          rfl)
        have before : s.limiter.goroutines[call]? = some g :=
          (List.getElem?_append_left inside).symm.trans found
        exact admissions.keyed other old call g there before
      · obtain rfl := List.mem_singleton.mp new
        obtain rfl := HandlerPc.allowing.inj there
        have last : g = ⟨request.client.clientIP, .globalCheck⟩ := by
          simpa using found.symm
        rw [last]
  | @get request =>
    constructor
    · exact admissions.ledger.join rfl rfl
    · intro other member call g there found
      rcases List.mem_append.mp member with old | new
      · exact admissions.keyed other old call g there found
      · obtain rfl := List.mem_singleton.mp new
        contradiction
  | handle running moves =>
    cases moves with
    | asks here calling moved => exact admissions.asks running here moved
    | admitted here calling allowed =>
      exact admissions.leaves running here calling allowed rfl rfl rfl
    | limited here calling refused =>
      exact admissions.leaves running here calling refused rfl rfl rfl
    | @answered posted _ _ here =>
      apply admissions.idle running rfl
      · rw [here]
        exact ⟨rfl, rfl⟩
      · rw [here]
        cases posted <;> rfl
    | rejected here | posted here | enqueues here | loads here | healthz here | measured here
    | locks here | unlocks here | flushed here | batches here | metrics here =>
      apply admissions.idle running rfl
      · rw [here]
        exact ⟨rfl, rfl⟩
      · have same := congrArg HandlerPc.admitted here
        exact same.symm
  | engine permitted moved => exact ⟨admissions.ledger, admissions.keyed⟩

/-- A handler that calls the pool is one more caller. -/
theorem moves_calls (moves : Moves describe s index h next) :
    next.engine.pool.callers.length + h.pc.calls.toNat =
      s.engine.pool.callers.length + next.pc.calls.toNat := by
  cases moves with
  | posted here decoded opened =>
    rw [here]
    exact List.length_append
  | enqueues here moved =>
    obtain ⟨c, new, _, callers, _⟩ := Pool.enqueue_caller (Pool.enqueue_cases moved)
    rw [here, callers, List.length_set]
  | @answered posted _ _ here =>
    rw [here]
    cases posted <;> rfl
  | asks here => rw [here]
  | admitted here | limited here | rejected here | loads here | healthz here | measured here
  | locks here | unlocks here | flushed here | batches here | metrics here =>
    rw [here]
    rfl

/-- Every caller of the pool is a request that has called it. -/
theorem step_calls {action : Act} {out : List Obs}
    (calls : s.engine.pool.callers.length = s.called)
    (stepped : s.step describe action = some (after, out)) :
    after.engine.pool.callers.length = after.called := by
  cases step_cases stepped with
  | post | get =>
    show s.engine.pool.callers.length = total _ (s.handlers ++ [_])
    rw [total_append, calls]
    rfl
  | engine permitted moved =>
    rw [← engine_callers permitted moved] at calls
    exact calls
  | @handle index _ _ _ h next running moves =>
    have callers := moves_calls moves
    have traded := total_set (fun h : Handler => h.pc.calls.toNat) running
      { h with pc := next.pc }
    show next.engine.pool.callers.length =
      total (fun h : Handler => h.pc.calls.toNat) (s.handlers.set index { h with pc := next.pc })
    unfold called at calls
    dsimp only at traded
    omega

section Runs

variable {workerCount queueCap batchThreshold : Nat}
  {ratePerSec capacity globalRate globalCap now : ℚ} {seen : List Obs}

/-- In every run the admissions rest on the goroutines of the limiter. -/
theorem run_admissions (keys : String → Bool) (run : (system describe).AnyRun
      (.start workerCount queueCap batchThreshold ratePerSec capacity globalRate globalCap now)
      seen s) : s.Admissions keys := by
  apply run.state_invariant (Server.Admissions keys)
  · exact ⟨.nil, List.forall_mem_nil _⟩
  · intro s action after out admissions _ stepped
    exact step_admissions admissions stepped

/-- In every run the callers of the pool are requests. -/
theorem run_calls (run : (system describe).AnyRun
      (.start workerCount queueCap batchThreshold ratePerSec capacity globalRate globalCap now)
      seen s) : s.engine.pool.callers.length = s.called := by
  apply run.state_invariant fun s => s.engine.pool.callers.length = s.called
  · rfl
  · intro s action after out calls _ stepped
    exact step_calls calls stepped

end Runs

/-- A request that has called the pool has got past the middleware. -/
theorem called_le (s : Server) : s.called ≤ s.admitted fun _ => true := by
  apply total_le
  intro h
  rw [Handler.admitted, Bool.and_true]
  cases h.pc with
  | responded answer =>
    cases answer with
    | limited | rejected | healthz | metrics => exact Nat.zero_le _
    | single | batch => exact Nat.le_refl _
  | enqueueing => exact Nat.le_refl _
  | allowing | reading | stats | metrics => exact Nat.zero_le _

/-- A request has got past the middleware when its goroutine of the limiter has returned true. -/
theorem Admissions.bounded (admissions : s.Admissions keys) :
    s.admitted keys ≤ total (Concurrent.Goroutine.passed keys) s.limiter.goroutines := by
  rw [admissions.ledger.balanced]
  apply total_le
  intro h
  cases here : owned Handler.call s.limiter.goroutines h with
  | none => exact Nat.le_refl _
  | some g =>
    have outside : h.pc.admitted = false := by
      cases there : h.pc with
      | allowing call => rfl
      | reading | enqueueing | stats | metrics | responded =>
        rw [owned, Handler.call, there] at here
        contradiction
    rw [Handler.admitted, outside]
    exact Nat.zero_le _

end Server

/-- Over exact arithmetic, the requests of a client that the middleware has let pass are at most the
capacity of its bucket and what the rate has added since the start, and all together at most those
of the global bucket; and the pool has not been called more often than requests have passed. -/
theorem admitted_requests_bounded {describe : DecodeError → String}
    {workerCount queueCap batchThreshold : Nat}
    {ratePerSec capacity globalRate globalCap now : ℚ}
    (rates : 0 ≤ ratePerSec ∧ 0 ≤ globalRate) (capacities : 0 ≤ capacity ∧ 0 ≤ globalCap)
    {seen : List Server.Obs} {s : Server}
    (run : (Server.system describe).AnyRun
      (.start workerCount queueCap batchThreshold ratePerSec capacity globalRate globalCap now)
      seen s) :
    (∀ key, (s.admitted (fun other => decide (other = key)) : ℚ) ≤
      capacity + ratePerSec * (s.limiter.now - now)) ∧
      (s.admitted (fun _ => true) : ℚ) ≤ globalCap + globalRate * (s.limiter.now - now) ∧
      s.engine.pool.callers.length ≤ s.admitted fun _ => true := by
  have limiter := Server.run_limiter run
  have passes := Concurrent.run_passes limiter
  have accounts := Concurrent.run_accounts rates capacities passes.later limiter
  refine ⟨fun key => ?_, ?_, ?_⟩
  · have bounded := (Server.run_admissions (fun other => decide (other = key)) run).bounded
    rw [passes.own key] at bounded
    exact (Nat.cast_le.mpr bounded).trans
      (accounts.key_bounded rates.1 capacities.1 passes.later key)
  · have bounded := (Server.run_admissions (fun _ => true) run).bounded
    have beyond : total (Concurrent.Goroutine.passed fun _ => true) s.limiter.goroutines ≤
        total Concurrent.Goroutine.beyond s.limiter.goroutines := by
      apply total_le
      intro g
      unfold Concurrent.Goroutine.passed Concurrent.Goroutine.beyond
      split
      · rename_i returned
        rw [returned.1]
      · exact Nat.zero_le _
    have within := (bounded.trans beyond).trans passes.overall
    exact (Nat.cast_le.mpr within).trans accounts.overall.2.2.2.bounded
  · rw [Server.run_calls run]
    exact s.called_le

/-- A request of a client for an event that has no service. -/
def emptyEvent (remoteAddr : String) : Server.Act :=
  .arrive ⟨.single, ⟨remoteAddr, ""⟩, .text 2 (some (.obj []))⟩

/-- Two requests of one client and one of another, with one token for each client: the second
request of the first client is refused. -/
def threeRequests : List Server.Act :=
  [emptyEvent "a", emptyEvent "a", emptyEvent "b"] ++
    List.replicate 5 (.handle 0 0 newYear none) ++ List.replicate 4 (.handle 1 0 newYear none) ++
    List.replicate 5 (.handle 2 0 newYear none)

/-- Two of the three requests are let pass. -/
theorem admitted_requests_bounded_three :
    ∃ seen s, (Server.system fun _ => "").AnyRun (.start 1 1 1 0 1 0 3 0) seen s ∧
      s.admitted (fun key => decide (key = "a")) = 1 ∧ s.admitted (fun _ => true) = 2 ∧
      (s.admitted (fun key => decide (key = "a")) : ℚ) ≤ 1 + 0 * (s.limiter.now - 0) := by
  obtain ⟨seen, s, run, passed⟩ := System.exec_witness (Server.system fun _ => "")
    System.unguarded (.start 1 1 1 0 1 0 3 0) threeRequests
    (fun (s, _) => s.admitted (fun key => decide (key = "a")) = 1 &&
      s.admitted (fun _ => true) = 2) (by decide +kernel)
  simp only [Bool.and_eq_true, decide_eq_true_eq] at passed
  have bounded := admitted_requests_bounded (by decide +kernel) (by decide +kernel) run
  exact ⟨seen, s, run, passed.1, passed.2, bounded.1 "a"⟩

end IngestionEngine.Router
