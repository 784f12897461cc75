import IngestionEngine.Batch.Lock
import IngestionEngine.Router.Admission

/-!
# How the handlers get on

The steps that a handler still takes are bounded by what it has read, each of its own steps lowers
that bound, and no step of anyone else raises it. A handler that has not answered can take its next
step in every state, except where it has panicked in a send on the closed channel, or where it waits
in `Metrics` for the mutex of the processor. So a request with events is answered without waiting
for another request, a worker or the batch loop.
-/

namespace IngestionEngine

/-- An upper bound on the steps of a call in the limiter, up to what follows its answer. -/
def RateLimit.Concurrent.AllowPc.rank : RateLimit.Concurrent.AllowPc → Nat
  | .globalCheck => 4
  | .lookup => 3
  | .keyCheck _ => 2
  | .returned _ => 1

/-- The number of loads left in `QueueStats`. -/
def Worker.Reader.rank : Worker.Reader → Nat
  | .length => 4
  | .accepted _ => 3
  | .dropped _ _ => 2
  | .processed _ _ _ => 1
  | .returned => 0

namespace Batch.Processor

/-- No other step takes the mutex for a `Metrics` call, or releases it. -/
theorem step_metrics {Ev : Type} {p after : Processor Ev} {action : Act Ev} {out : List (Obs Ev)}
    (inv : p.LockInv) (other : action ≠ .metricsLock ∧ action ≠ .metricsUnlock)
    (stepped : p.step action = some (after, out)) :
    after.mu = some .metrics ↔ p.mu = some .metrics := by
  have released (inside : p.pc.holdsMu = true) :
      none = some Holder.metrics ↔ p.mu = some .metrics := by
    rw [inv.owner.mpr inside]
    decide
  cases step_cases stepped with
  | submit moved => cases moved <;> exact Iff.rfl
  | tickWakes | tickWaits | cancelWakes | cancelWaits | flushStored | flushFailed =>
    exact Iff.rfl
  | metricsLock => exact absurd rfl other.1
  | metricsUnlock => exact absurd rfl other.2
  | select here moved => cases moved <;> exact Iff.rfl
  | advance moved =>
    cases moved with
    | lock free =>
      rw [free]
      show some Holder.loop = some Holder.metrics ↔ none = some Holder.metrics
      decide
    | fill here | append here | expire here | expireIdle here | stamp here | finish here =>
      exact released (by rw [here]; rfl)
    | drain | drainStop | last | lastIdle | skip | call | count => exact Iff.rfl

end Batch.Processor

namespace RateLimit.Concurrent

/-- A goroutine that has not returned can enter its next critical section. -/
theorem enter_enabled {s : State} {index : Nat} {g : Goroutine} {clock : ℚ}
    (running : s.goroutines[index]? = some g) (unfinished : ∀ allowed, g.pc ≠ .returned allowed)
    (later : s.now ≤ clock) : (s.step (.enter index clock)).isSome = true := by
  rw [State.step, if_neg (not_lt.mpr later)]
  simp only [running]
  unfold State.enter
  cases here : g.pc with
  | globalCheck | keyCheck => rfl
  | lookup =>
    obtain ⟨place, bound⟩ : ∃ place,
        (s.limiter.lookupOrCreate g.key clock).buckets.index g.key = some place :=
      Systems.Table.index_ensure _ _ _
    simp only [bound, Option.isSome_some]
  | returned allowed => exact absurd here (unfinished allowed)

end RateLimit.Concurrent

namespace Router

open Systems Event Worker RateLimit

/-- The number of steps left in `Metrics`. -/
def MetricsPc.rank : MetricsPc → Nat
  | .lock => 5
  | .locked => 4
  | .flushed _ => 3
  | .batches _ _ => 2
  | .errors _ _ _ => 1

/-- The number of events that a request passes to the pool, if its body is accepted. -/
def Incoming.size (r : Incoming) : Nat :=
  match r.route with
  | .single => 1
  | .batch => (decodedEvents r.upload).length
  | .healthz | .metrics => 0

/-- The number of steps that a request takes at most. -/
def Incoming.bound (r : Incoming) : Nat :=
  match r.route with
  | .single | .batch => 3 * r.size + 6
  | .healthz => 4
  | .metrics => 9

/-- What follows `QueueStats`. -/
def Route.afterStats : Route → Nat
  | .healthz => 0
  | .single | .batch | .metrics => 5

/-- The handler is in the critical section of `Metrics`. -/
def HandlerPc.locks : HandlerPc → Nat
  | .metrics _ .locked => 1
  | _ => 0

/-- Where the handler of a route may stand. -/
def Handler.Placed (h : Handler) : Prop :=
  match h.pc with
  | .allowing _ | .reading => h.request.route.posts = true
  | .stats reader => h.request.route.posts = false ∧ reader ≠ .returned
  | .metrics _ _ => h.request.route = .metrics
  | .enqueueing _ _ | .responded _ => True

namespace Server

/-- An upper bound on the steps that a handler still takes. -/
def rank (s : Server) (h : Handler) : Nat :=
  match h.pc with
  | .allowing call =>
    (s.limiter.goroutines[call]?.map fun g => g.pc.rank).getD 0 + 3 * h.request.size + 2
  | .reading => 3 * h.request.size + 2
  | .enqueueing _ caller => (s.engine.pool.callers[caller]?.map Caller.rank).getD 0 + 1
  | .stats reader => reader.rank + h.request.route.afterStats
  | .metrics _ pc => pc.rank
  | .responded _ => 0

/-- The handler has panicked, or waits for the mutex of the processor. -/
def Blocked (s : Server) (h : Handler) : Prop :=
  match h.pc with
  | .enqueueing _ caller => ∃ c, s.engine.pool.callers[caller]? = some c ∧ c.pc = .panicked
  | .metrics _ .lock => s.engine.proc.mu ≠ none
  | _ => False

/-- Where the handlers are, and who holds the mutex of the processor. -/
structure Running (s : Server) : Prop where
  /-- Each is where its route leads. -/
  placed : ∀ h ∈ s.handlers, h.Placed
  /-- A shutdown in time has waited for all of them. -/
  closed : s.engine.drained = true → ∀ h ∈ s.handlers, h.pc.done = true
  /-- One of them is in the critical section of `Metrics` when a `Metrics` call holds the mutex. -/
  mutex : total (fun h : Handler => h.pc.locks) s.handlers =
    if s.engine.proc.mu = some .metrics then 1 else 0

variable {describe : DecodeError → String} {s after : Server} {index : Nat} {h : Handler}
  {next : Move}

/-! ### The rank -/

/-- The rank of a handler depends on its goroutine of the limiter and its caller of the pool. -/
theorem rank_congr
    (calls : ∀ call, h.call = some call → after.limiter.goroutines[call]? =
      s.limiter.goroutines[call]?)
    (callers : ∀ caller, h.caller = some caller → after.engine.pool.callers[caller]? =
      s.engine.pool.callers[caller]?) : after.rank h = s.rank h := by
  unfold rank
  cases here : h.pc with
  | allowing call =>
    have same := calls call (by rw [Handler.call, here]; rfl)
    simp only [same]
  | enqueueing posted caller =>
    have same := callers caller (by rw [Handler.caller, here]; rfl)
    simp only [same]
  | reading | stats | metrics | responded => rfl

/-- A section of the limiter brings its goroutine closer to its answer. -/
theorem section_rank {g : Concurrent.Goroutine} {clock : ℚ} {pc : Concurrent.AllowPc}
    {out : List Concurrent.Obs} (part : Concurrent.Section g clock pc out) :
    pc.rank < g.pc.rank := by
  cases part with
  | admitted here | lookup here | keyCheck here =>
    rw [here]
    exact Nat.lt_succ_self _
  | refused here =>
    rw [here]
    decide

/-- A load is one less left. -/
theorem load_cases {reader after : Reader} {pool : Pool TelemetryEvent} {stats : Option QueueStats}
    (loaded : load pool reader = some (after, stats)) :
    after.rank + 1 = reader.rank ∧ (stats = none → after ≠ .returned) := by
  cases reader with
  | length | accepted | dropped | processed =>
    obtain ⟨rfl, rfl⟩ := Prod.mk.inj (Option.some.inj loaded)
    exact ⟨rfl, by simp [statsOf]⟩
  | returned => contradiction

/-- A request posts as many events as its body has. -/
theorem decode_events {r : Incoming} {now : Now} {events : List TelemetryEvent} {posted : Posted}
    (decoded : r.decode describe now = some (.ok (events, posted))) : events.length = r.size := by
  unfold Incoming.decode at decoded
  split at decoded
  · rename_i route
    cases parsed : singleEvent describe r.upload now with
    | error response => simp [parsed, Except.map] at decoded
    | ok ev =>
      simp only [parsed, Except.map, Option.some.injEq, Except.ok.injEq, Prod.mk.injEq] at decoded
      simp only [← decoded.1, Incoming.size, route, List.length_singleton]
  · rename_i route
    cases parsed : batchEvents r.upload with
    | error response => simp [parsed, Except.map] at decoded
    | ok all =>
      simp only [parsed, Except.map, Option.some.injEq, Except.ok.injEq, Prod.mk.injEq] at decoded
      simp only [← decoded.1, Incoming.size, route, decodedEvents, parsed]
  · contradiction
  · contradiction

/-- Each step of a handler lowers its rank. -/
theorem moves_rank (moves : Moves describe s index h next) :
    (s.moved index h next).rank { h with pc := next.pc } < s.rank h := by
  unfold rank
  cases moves with
  | @asks call clock limiter out g here calling moved =>
    obtain ⟨g', pc, found, _, _, goroutines, part⟩ := Concurrent.enter_section moved
    obtain rfl := Option.some.inj (calling.symm.trans found)
    have inside := (List.getElem?_eq_some_iff.mp calling).1
    have lower := section_rank part
    simp only [here, Server.moved, goroutines, List.getElem?_set_self inside, calling,
      Option.map_some, Option.getD_some]
    omega
  | @admitted call g here calling allowed =>
    simp only [here, goes, calling, allowed, Option.map_some, Option.getD_some,
      Concurrent.AllowPc.rank]
    omega
  | @limited call g here calling refused =>
    simp only [here, answers]
    omega
  | rejected here decoded =>
    simp only [here, answers]
    omega
  | @posted now events posted here decoded opened =>
    have size := decode_events decoded
    simp only [here, Server.moved, List.getElem?_concat_length, Option.map_some, Option.getD_some,
      Caller.rank, size]
    omega
  | @enqueues posted caller waiter pool out here moved =>
    obtain ⟨c, new, calling, callers, _, _, lower⟩ :=
      Pool.enqueue_caller (Pool.enqueue_cases moved)
    have inside := (List.getElem?_eq_some_iff.mp calling).1
    simp only [here, Server.moved, callers, List.getElem?_set_self inside, calling,
      Option.map_some, Option.getD_some]
    omega
  | answered here =>
    simp only [here, answers]
    omega
  | loads here loaded =>
    have fewer := (load_cases loaded).1
    simp only [here, goes]
    omega
  | healthz here loaded =>
    have fewer := (load_cases loaded).1
    simp only [here, answers]
    omega
  | measured here loaded route =>
    have fewer := (load_cases loaded).1
    have more : h.request.route.afterStats = 5 := by
      cases found : h.request.route with
      | healthz => exact absurd found route
      | single | batch | metrics => rfl
    simp only [here, goes, MetricsPc.rank, more]
    omega
  | locks here | unlocks here =>
    simp only [here, MetricsPc.rank]
    omega
  | flushed here | batches here =>
    simp only [here, goes, MetricsPc.rank]
    omega
  | metrics here =>
    simp only [here, answers, MetricsPc.rank]
    omega

/-- No step of anyone else changes the rank of a handler. -/
theorem step_rank {action : Act} {out : List Obs} (running : s.handlers[index]? = some h)
    (calls : Owned Handler.call s.limiter.goroutines.length s.handlers)
    (callers : Owned Handler.caller s.engine.pool.callers.length s.handlers)
    (other : ∀ clock now waiter, action ≠ .handle index clock now waiter)
    (stepped : s.step describe action = some (after, out)) :
    after.handlers[index]? = some h ∧ after.rank h = s.rank h := by
  have member := List.mem_of_getElem? running
  have inside := (List.getElem?_eq_some_iff.mp running).1
  cases step_cases stepped with
  | post =>
    refine ⟨(List.getElem?_append_left inside).trans running, rank_congr ?_ fun _ _ => rfl⟩
    intro call holds
    exact List.getElem?_append_left (calls.inside h member call holds)
  | get =>
    exact ⟨(List.getElem?_append_left inside).trans running,
      rank_congr (fun _ _ => rfl) fun _ _ => rfl⟩
  | @handle place clock now waiter h' next there moves =>
    have different : place ≠ index := by
      rintro rfl
      exact other clock now waiter rfl
    refine ⟨(List.getElem?_set_ne different).trans running, ?_⟩
    cases moves with
    | @asks call clock limiter out g here calling moved =>
      obtain ⟨_, pc, _, _, _, goroutines, _⟩ := Concurrent.enter_section moved
      apply rank_congr
      · intro mine holds
        have apart : call ≠ mine := by
          rintro rfl
          have theirs : h'.call = some call := by rw [Handler.call, here]; rfl
          exact different (calls.apart place index h' h call there running theirs holds)
        show limiter.goroutines[mine]? = _
        rw [goroutines, List.getElem?_set_ne apart]
      · exact fun _ _ => rfl
    | posted here decoded opened =>
      apply rank_congr
      · exact fun _ _ => rfl
      · intro caller holds
        exact List.getElem?_append_left (callers.inside h member caller holds)
    | @enqueues posted caller waiter pool out here moved =>
      obtain ⟨_, new, _, changed, _⟩ := Pool.enqueue_caller (Pool.enqueue_cases moved)
      apply rank_congr
      · exact fun _ _ => rfl
      · intro mine holds
        have apart : caller ≠ mine := by
          rintro rfl
          have theirs : h'.caller = some caller := by rw [Handler.caller, here]; rfl
          exact different (callers.apart place index h' h caller there running theirs holds)
        show pool.callers[mine]? = _
        rw [changed, List.getElem?_set_ne apart]
    | admitted | limited | rejected | answered | loads | healthz | measured | locks | unlocks
    | flushed | batches | metrics => exact rank_congr (fun _ _ => rfl) fun _ _ => rfl
  | engine permitted moved =>
    refine ⟨running, rank_congr (fun _ _ => rfl) ?_⟩
    intro caller _
    exact congrArg (·[caller]?) (engine_callers permitted moved)

/-! ### Where the handlers are -/

/-- A handler that takes a step has not answered. -/
theorem moves_undone (moves : Moves describe s index h next) : h.pc.done = false := by
  cases moves with
  | asks here | admitted here | limited here | rejected here | posted here | enqueues here
  | answered here | loads here | healthz here | measured here | locks here | unlocks here
  | flushed here | batches here | metrics here =>
    rw [here]
    rfl

/-- No step of a handler tells whether the server has shut down. -/
theorem moves_drained (moves : Moves describe s index h next) :
    next.engine.drained = s.engine.drained := by
  cases moves <;> rfl

/-- A step leads where the route does. -/
theorem moves_placed (placed : h.Placed) (moves : Moves describe s index h next) :
    ({ h with pc := next.pc } : Handler).Placed := by
  unfold Handler.Placed at placed
  cases moves with
  | asks here | admitted here =>
    rw [here] at placed
    exact placed
  | limited | rejected | posted | enqueues | answered | healthz | metrics => trivial
  | loads here loaded =>
    rw [here] at placed
    exact ⟨placed.1, (load_cases loaded).2 rfl⟩
  | measured here loaded route =>
    rw [here] at placed
    show h.request.route = .metrics
    cases found : h.request.route with
    | metrics => rfl
    | healthz => exact absurd found route
    | single | batch =>
      rw [found] at placed
      exact absurd placed.1 (by decide)
  | locks here | unlocks here | flushed here | batches here =>
    rw [here] at placed
    exact placed

/-- A handler in the critical section of `Metrics` holds the mutex. -/
theorem moves_mutex (moves : Moves describe s index h next) :
    (if next.engine.proc.mu = some .metrics then 1 else 0) + h.pc.locks =
      (if s.engine.proc.mu = some .metrics then 1 else 0) + next.pc.locks := by
  cases moves with
  | @locks stats proc out here moved =>
    cases Batch.Processor.step_cases moved with
    | metricsLock free =>
      rw [here, free]
      rfl
  | @unlocks stats proc out here moved =>
    cases Batch.Processor.step_cases moved with
    | metricsUnlock taken =>
      rw [here, taken]
      rfl
  | asks here | enqueues here => rw [here]
  | admitted here | limited here | rejected here | posted here | answered here | loads here
  | healthz here | measured here | flushed here | batches here | metrics here =>
    rw [here]
    rfl

/-- No other step of the engine takes the mutex for a `Metrics` call, or releases it. -/
theorem engine_mutex {action : IngestionEngine.Act TelemetryEvent} {engine : Engine TelemetryEvent}
    {out : List (IngestionEngine.Obs TelemetryEvent)} (lock : s.engine.proc.LockInv)
    (permitted : s.permits action = true) (moved : s.engine.step action = some (engine, out)) :
    engine.proc.mu = some .metrics ↔ s.engine.proc.mu = some .metrics := by
  cases IngestionEngine.step_cases moved with
  | @submit worker ev =>
    have submitted : s.engine.proc.step (.submit ev) = some (_, _) := rfl
    exact Batch.Processor.step_metrics lock (by simp) submitted
  | @proc action proc out alone entered =>
    apply Batch.Processor.step_metrics lock ?_ entered
    constructor
    · rintro rfl
      contradiction
    · rintro rfl
      contradiction
  | stop =>
    have cancelled : s.engine.proc.step .cancel = some (_, _) := rfl
    exact Batch.Processor.step_metrics lock (by simp) cancelled
  | pool | httpDown | poolShutdown | poolDown | exit => exact Iff.rfl

/-- The server has shut down in time only when every handler has answered. -/
theorem engine_drained {action : IngestionEngine.Act TelemetryEvent}
    {engine : Engine TelemetryEvent} {out : List (IngestionEngine.Obs TelemetryEvent)}
    (closed : s.engine.drained = true → ∀ h ∈ s.handlers, h.pc.done = true)
    (permitted : s.permits action = true) (moved : s.engine.step action = some (engine, out))
    (drained : engine.drained = true) : ∀ h ∈ s.handlers, h.pc.done = true := by
  cases IngestionEngine.step_cases moved with
  | @httpDown drains here idle =>
    have set : drains = true := drained
    subst set
    exact List.all_eq_true.mp permitted
  | pool | submit | proc | poolShutdown | poolDown | stop | exit => exact closed drained

/-- Every step keeps the handlers in their places. -/
theorem step_running {action : Act} {out : List Obs} (inv : s.Running)
    (lock : s.engine.proc.LockInv) (stepped : s.step describe action = some (after, out)) :
    after.Running := by
  obtain ⟨placed, closed, mutex⟩ := inv
  have arrives (h : Handler) (here : h.Placed) (quiet : h.pc.locks = 0)
      (opened : s.engine.drained = false) (limiter : Concurrent.State) :
      ({ s with limiter, handlers := s.handlers ++ [h] } : Server).Running := by
    refine ⟨fun other member => ?_, fun drained => ?_, ?_⟩
    · rcases List.mem_append.mp member with old | new
      · exact placed other old
      · rw [List.mem_singleton.mp new]
        exact here
    · have shut : s.engine.drained = true := drained
      rw [opened] at shut
      contradiction
    · rw [total_append, mutex, total_cons, total_nil, quiet]
      rfl
  cases step_cases stepped with
  | @post request opened posts => exact arrives ⟨request, .allowing _⟩ posts rfl opened _
  | @get request opened gets => exact arrives ⟨request, .stats .length⟩ ⟨gets, by simp⟩ rfl opened _
  | @handle index _ _ _ h next running moves =>
    have undone := moves_undone moves
    refine ⟨?_, fun drained => ?_, ?_⟩
    · apply forall_mem_set placed
      exact moves_placed (placed h (List.mem_of_getElem? running)) moves
    · have shut : s.engine.drained = true := (moves_drained moves).symm.trans drained
      rw [closed shut h (List.mem_of_getElem? running)] at undone
      contradiction
    · have traded := total_set (fun h : Handler => h.pc.locks) running { h with pc := next.pc }
      have held := moves_mutex moves
      show total (fun h : Handler => h.pc.locks) (s.handlers.set index { h with pc := next.pc }) =
        if next.engine.proc.mu = some .metrics then 1 else 0
      dsimp only at traded
      omega
  | engine permitted moved =>
    have kept := engine_drained closed permitted moved
    refine ⟨placed, kept, ?_⟩
    have same := engine_mutex lock permitted moved
    show total (fun h : Handler => h.pc.locks) s.handlers = if _ then 1 else 0
    rw [mutex]
    simp only [same]

/-! ### The next step -/

/-- In the limiter the next step can be taken. -/
theorem allow_enabled {call : Nat} {g : Concurrent.Goroutine} {clock : ℚ}
    (calling : s.limiter.goroutines[call]? = some g) (later : s.limiter.now ≤ clock) :
    (s.allow index call clock).isSome = true := by
  cases here : g.pc with
  | returned allowed => cases allowed <;> simp only [allow, calling, here, Option.isSome_some]
  | globalCheck | lookup | keyCheck =>
    have entered := Concurrent.enter_enabled calling (by simp [here]) later
    simp only [allow, calling, here, Option.isSome_map]
    exact entered

/-- A body can be read as long as the server has not shut down in time. -/
theorem read_enabled {request : Incoming} (now : Now) (posts : request.route.posts = true)
    (opened : s.engine.drained = false) : (s.read describe index request now).isSome = true := by
  have decoded : (request.decode describe now).isSome = true := by
    unfold Incoming.decode
    cases route : request.route with
    | single | batch => rfl
    | healthz | metrics =>
      rw [route] at posts
      contradiction
  obtain ⟨result, found⟩ := Option.isSome_iff_exists.mp decoded
  unfold read
  rw [found]
  cases result with
  | error response => rfl
  | ok posted =>
    have allowed : s.engine.allows (.call posted.1) = true := by simp [Engine.allows, opened]
    simp only [enters, Engine.step, if_pos allowed, Option.isSome_map]
    rfl

/-- In the pool the next step can be taken for some worker that waits, unless it panicked. -/
theorem enqueues_enabled {posted : Posted} {caller : Nat} {c : Caller TelemetryEvent}
    (calling : s.engine.pool.callers[caller]? = some c) (alive : c.pc ≠ .panicked) :
    ∃ waiter, (s.enqueue index posted caller waiter).isSome = true := by
  cases rest : c.rest with
  | nil =>
    refine ⟨none, ?_⟩
    simp only [enqueue, calling, rest, Option.isSome_some]
  | cons ev others =>
    have unfinished : c.rest ≠ [] := by simp [rest]
    obtain ⟨waiter, sends⟩ := Pool.enqueue_enabled calling unfinished alive
    have allowed : s.engine.allows (.caller caller waiter) = true := rfl
    refine ⟨waiter, ?_⟩
    simp only [enqueue, calling, rest, enters, Engine.step, if_pos allowed, Option.isSome_map]
    exact sends

/-- The statistics can be loaded. -/
theorem stats_enabled {request : Incoming} {reader : Reader} {clock : ℚ}
    (unfinished : reader ≠ .returned) (later : s.startTime ≤ clock) :
    (s.stats index request reader clock).isSome = true := by
  have passed : ¬ clock < s.startTime := not_lt.mpr later
  cases reader with
  | returned => exact absurd rfl unfinished
  | length | accepted | dropped => rfl
  | processed length accepted dropped =>
    unfold stats load Monitored.queueStats
    simp only [List.getElem?_cons_zero, Option.map_some, List.findSome?_cons, statsOf]
    split
    · rw [if_neg passed]
      rfl
    · rfl
    · rfl
    · rfl

/-- In `Metrics` the next step can be taken, except at a mutex that is held. -/
theorem metrics_enabled {stats : QueueStats} {pc : MetricsPc} {clock : ℚ}
    (free : pc = .lock → s.engine.proc.mu = none)
    (taken : pc = .locked → s.engine.proc.mu = some .metrics) (later : s.startTime ≤ clock) :
    (s.metrics index stats clock pc).isSome = true := by
  have passed : ¬ clock < s.startTime := not_lt.mpr later
  cases pc with
  | lock =>
    have locked := Batch.Processor.lock_free (free rfl) .metrics s.engine.proc.pc
    simp only [metrics, enters, Engine.step, Batch.Processor.step, locked, Option.map_some,
      Option.isSome_some]
  | locked =>
    simp only [metrics, enters, Engine.step, Batch.Processor.step, taken rfl, if_true,
      Option.map_some, Option.isSome_some]
  | flushed | batches => rfl
  | errors =>
    simp only [metrics, if_neg passed, Option.isSome_some]

/-- A handler that has not answered and is not blocked can take its next step. -/
theorem handle_enabled (running : s.handlers[index]? = some h) (inv : s.Running)
    (calls : Owned Handler.call s.limiter.goroutines.length s.handlers)
    (callers : Owned Handler.caller s.engine.pool.callers.length s.handlers)
    (undone : h.pc.done = false) (free : ¬ s.Blocked h) {clock : ℚ} (now : Now)
    (later : s.limiter.now ≤ clock) (started : s.startTime ≤ clock) :
    ∃ waiter after out, s.step describe (.handle index clock now waiter) = some (after, out) := by
  have member := List.mem_of_getElem? running
  have placed := inv.placed h member
  have moves : ∃ waiter, (s.move describe index h clock now waiter).isSome = true := by
    unfold Handler.Placed at placed
    unfold Blocked at free
    unfold move
    cases here : h.pc with
    | allowing call =>
      have inside := calls.inside h member call (by rw [Handler.call, here]; rfl)
      exact ⟨none, allow_enabled (List.getElem?_eq_getElem inside) later⟩
    | reading =>
      rw [here] at placed undone
      have opened : s.engine.drained = false := by
        cases drained : s.engine.drained with
        | false => rfl
        | true =>
          have finished := inv.closed drained h member
          rw [here] at finished
          contradiction
      exact ⟨none, read_enabled now placed opened⟩
    | enqueueing posted caller =>
      rw [here] at free
      have inside := callers.inside h member caller (by rw [Handler.caller, here]; rfl)
      have calling := List.getElem?_eq_getElem inside
      exact enqueues_enabled calling fun panicked => free ⟨_, calling, panicked⟩
    | stats reader =>
      rw [here] at placed
      exact ⟨none, stats_enabled placed.2 started⟩
    | metrics stats pc =>
      rw [here] at free
      refine ⟨none, metrics_enabled ?_ ?_ started⟩
      · rintro rfl
        exact not_not.mp free
      · rintro rfl
        have mutex := inv.mutex
        by_contra other
        rw [if_neg other] at mutex
        have gap := total_spend (fun h : Handler => h.pc.locks) running
          { h with pc := .reading } rfl
        rw [mutex, here] at gap
        exact absurd gap (Nat.succ_ne_zero _).symm
    | responded answer =>
      rw [here] at undone
      contradiction
  obtain ⟨waiter, moved⟩ := moves
  obtain ⟨next, found⟩ := Option.isSome_iff_exists.mp moved
  refine ⟨waiter, s.moved index h next, next.out, ?_⟩
  simp only [step, running, found, Option.map_some]

/-! ### Whole runs -/

/-- The step is one of the handler. -/
def Act.isOf (index : Nat) : Act → Bool
  | .handle other _ _ _ => decide (other = index)
  | .arrive _ | .engine _ => false

/-- The number of steps that a handler has taken. -/
def stepsOf (index : Nat) (history : List (Act × List Obs)) : Nat :=
  history.countP fun entry => entry.1.isOf index

/-- What a step adds. -/
theorem stepsOf_append (index : Nat) (history : List (Act × List Obs)) (action : Act)
    (out : List Obs) : stepsOf index (history ++ [(action, out)]) =
      stepsOf index history + (action.isOf index).toNat := by
  rw [stepsOf, List.countP_append, List.countP_singleton]
  show stepsOf index history + (if action.isOf index = true then 1 else 0) = _
  cases action.isOf index <;> rfl

/-- The steps that the handlers have taken and those that they still take. -/
structure Paced (history : List (Act × List Obs)) (s : Server) : Prop where
  /-- Together they are at most as many as the request allows. -/
  bounded : ∀ (index : Nat) (h : Handler), s.handlers[index]? = some h →
    stepsOf index history + s.rank h ≤ h.request.bound
  /-- A request that has not arrived takes no step. -/
  fresh : ∀ index, s.handlers.length ≤ index → stepsOf index history = 0

/-- The first steps of a request for events. -/
theorem bound_post {request : Incoming} (posts : request.route.posts = true) :
    4 + 3 * request.size + 2 = request.bound := by
  unfold Incoming.bound
  cases route : request.route with
  | single | batch => simp only; omega
  | healthz | metrics =>
    rw [route] at posts
    contradiction

/-- The first steps of another request. -/
theorem bound_get {request : Incoming} (gets : request.route.posts = false) :
    4 + request.route.afterStats = request.bound := by
  unfold Incoming.bound
  cases route : request.route with
  | healthz | metrics => rfl
  | single | batch =>
    rw [route] at gets
    contradiction

/-- Every step keeps the pace. -/
theorem step_paced {history : List (Act × List Obs)} {action : Act} {out : List Obs}
    (paced : s.Paced history) (calls : Owned Handler.call s.limiter.goroutines.length s.handlers)
    (callers : Owned Handler.caller s.engine.pool.callers.length s.handlers)
    (stepped : s.step describe action = some (after, out)) :
    after.Paced (history ++ [(action, out)]) := by
  have others (index : Nat) (h : Handler) (here : s.handlers[index]? = some h)
      (other : action.isOf index = false) : after.handlers[index]? = some h ∧
        stepsOf index (history ++ [(action, out)]) + after.rank h ≤ h.request.bound := by
    have foreign : ∀ clock now waiter, action ≠ .handle index clock now waiter := by
      rintro clock now waiter rfl
      simp [Act.isOf] at other
    have kept := step_rank here calls callers foreign stepped
    rw [stepsOf_append, other, kept.2]
    exact ⟨kept.1, paced.bounded index h here⟩
  have arrives (new : Handler) (handlers : after.handlers = s.handlers ++ [new])
      (first : after.rank new = new.request.bound) (quiet : ∀ index, action.isOf index = false) :
      after.Paced (history ++ [(action, out)]) := by
    constructor
    · intro index h here
      by_cases inside : index < s.handlers.length
      · rw [handlers, List.getElem?_append_left inside] at here
        exact (others index h here (quiet index)).2
      · have last : h = new := by
          rw [handlers, List.getElem?_append_right (Nat.le_of_not_lt inside)] at here
          exact List.mem_singleton.mp (List.mem_of_getElem? here)
        rw [stepsOf_append, quiet index, paced.fresh index (Nat.le_of_not_lt inside), last, first]
        exact Nat.le_of_eq (Nat.zero_add _)
    · intro index outside
      rw [handlers, List.length_append] at outside
      rw [stepsOf_append, quiet index, paced.fresh index (by omega)]
      rfl
  cases step_cases stepped with
  | @post request opened posts =>
    apply arrives ⟨request, .allowing s.limiter.goroutines.length⟩ rfl ?_ fun _ => rfl
    simp only [rank, List.getElem?_concat_length, Option.map_some, Option.getD_some,
      Concurrent.AllowPc.rank]
    exact bound_post posts
  | @get request opened gets =>
    apply arrives ⟨request, .stats .length⟩ rfl ?_ fun _ => rfl
    exact bound_get gets
  | @handle place clock now waiter h next running moves =>
    have lower := moves_rank moves
    have inside := (List.getElem?_eq_some_iff.mp running).1
    constructor
    · intro index mine here
      by_cases own : place = index
      · subst own
        have same : mine = { h with pc := next.pc } := by
          have found : (s.handlers.set place { h with pc := next.pc })[place]? = some _ :=
            List.getElem?_set_self inside
          exact Option.some.inj (here.symm.trans found)
        have before := paced.bounded place h running
        have one : (Act.handle place clock now waiter).isOf place = true := by simp [Act.isOf]
        rw [stepsOf_append, one, same]
        show stepsOf place history + 1 + _ ≤ h.request.bound
        omega
      · have there : s.handlers[index]? = some mine :=
          (List.getElem?_set_ne own).symm.trans here
        exact (others index mine there (by simp [Act.isOf, own])).2
    · intro index outside
      have beyond : s.handlers.length ≤ index := by
        have same : (s.moved place h next).handlers.length = s.handlers.length := List.length_set
        rw [← same]
        exact outside
      have other : place ≠ index := by omega
      rw [stepsOf_append, paced.fresh index beyond]
      simp [Act.isOf, other]
  | engine permitted moved =>
    constructor
    · intro index h here
      exact (others index h here rfl).2
    · intro index outside
      rw [stepsOf_append, paced.fresh index outside]
      rfl

section Runs

variable {workerCount queueCap batchThreshold : Nat}
  {ratePerSec capacity globalRate globalCap now : ℚ}

/-- In every run the handlers are in their places. -/
theorem run_running {seen : List Obs} (run : (system describe).AnyRun
      (.start workerCount queueCap batchThreshold ratePerSec capacity globalRate globalCap now)
      seen s) : s.Running ∧ s.startTime = now := by
  have both : (system describe).AnyRun
      (.start workerCount queueCap batchThreshold ratePerSec capacity globalRate globalCap now)
      seen s ∧ s.Running ∧ s.startTime = now := by
    apply run.invariant fun seen s => (system describe).AnyRun
      (.start workerCount queueCap batchThreshold ratePerSec capacity globalRate globalCap now)
      seen s ∧ s.Running ∧ s.startTime = now
    · exact ⟨.start, ⟨List.forall_mem_nil _, fun _ => List.forall_mem_nil _, rfl⟩, rfl⟩
    · rintro seen s action after out ⟨reached, running, started⟩ _ stepped
      have lock := Batch.run_lock (run_proc (run_engine reached))
      refine ⟨reached.next trivial stepped, step_running running lock stepped, ?_⟩
      cases step_cases stepped <;> exact started
  exact both.2

/-- In every run the handlers keep the pace. -/
theorem run_paced {history : List (Act × List Obs)} (run : (system describe).labelled.AnyRun
      (.start workerCount queueCap batchThreshold ratePerSec capacity globalRate globalCap now)
      history s) : s.Paced history := by
  have both : (system describe).labelled.AnyRun
      (.start workerCount queueCap batchThreshold ratePerSec capacity globalRate globalCap now)
      history s ∧ s.Paced history := by
    apply run.invariant fun history s => (system describe).labelled.AnyRun
      (.start workerCount queueCap batchThreshold ratePerSec capacity globalRate globalCap now)
      history s ∧ s.Paced history
    · exact ⟨.start, fun _ _ found => absurd found (by simp [start]), fun _ _ => rfl⟩
    · rintro history s action after shown ⟨reached, paced⟩ _ stepped
      obtain ⟨out, moved, rfl⟩ := System.labelled_step stepped
      have calls := (run_admissions (fun _ => true) reached.unlabel).ledger.own
      have callers := (run_reports reached.unlabel).ledger.own
      exact ⟨reached.next trivial stepped, step_paced paced calls callers moved⟩
  exact both.2

end Runs

end Server

/-- Every handler answers within so many steps of its own as its request allows: its steps and its
rank stay below that bound, and unless it has answered or is blocked it can take its next step in
every state, at any time. A request with events is blocked only by a panic after the channel of the
pool was closed, and a `GET` of the metrics also while the mutex of the processor is held. -/
theorem handlers_wait_free {describe : DecodeError → String}
    {workerCount queueCap batchThreshold : Nat}
    {ratePerSec capacity globalRate globalCap now : ℚ}
    {history : List (Server.Act × List Server.Obs)} {s : Server}
    (run : (Server.system describe).labelled.AnyRun
      (.start workerCount queueCap batchThreshold ratePerSec capacity globalRate globalCap now)
      history s)
    {index : Nat} {h : Handler} (here : s.handlers[index]? = some h) :
    Server.stepsOf index history + s.rank h ≤ h.request.bound ∧
      (h.pc.done = false → ¬ s.Blocked h → ∀ clock reading, s.limiter.now ≤ clock →
        ∃ waiter after out,
          s.step describe (.handle index clock reading waiter) = some (after, out)) ∧
      (s.Blocked h → s.engine.pool.closed = true ∨
        h.request.route = .metrics ∧ s.engine.proc.mu ≠ none) := by
  have reached := run.unlabel
  obtain ⟨running, started⟩ := Server.run_running reached
  have calls := (Server.run_admissions (fun _ => true) reached).ledger.own
  have callers := (Server.run_reports reached).ledger.own
  refine ⟨(Server.run_paced run).bounded index h here, ?_, ?_⟩
  · intro undone free clock reading later
    have early := (Concurrent.run_passes (Server.run_limiter reached)).later
    rw [← started] at early
    exact Server.handle_enabled here running calls callers undone free reading later
      (early.trans later)
  · intro blocked
    have placed := running.placed h (List.mem_of_getElem? here)
    unfold Server.Blocked at blocked
    unfold Handler.Placed at placed
    split at blocked
    · obtain ⟨c, calling, panicked⟩ := blocked
      exact .inl (Worker.run_panicked (run_pool (Server.run_engine reached)) c
        (List.mem_of_getElem? calling) panicked)
    · rename_i there
      rw [there] at placed
      exact .inr ⟨placed, blocked⟩
    · contradiction

/-- A batch of one event is answered after as many steps as it is allowed. -/
theorem handlers_wait_free_one :
    ∃ history s h, (Server.system fun _ => "").labelled.AnyRun (.start 1 1 1 1 1 1 1 0) history s ∧
      s.handlers[0]? = some h ∧ h.pc.done = true ∧ h.request.bound = 9 ∧
      Server.stepsOf 0 history = 9 ∧ Server.stepsOf 0 history + s.rank h ≤ h.request.bound := by
  obtain ⟨history, s, run, passed⟩ := System.exec_witness (Server.system fun _ => "").labelled
    System.unguarded (.start 1 1 1 1 1 1 1 0)
    (.arrive ⟨.batch, ⟨"a", ""⟩, .text 15 (some (.obj [("events", .arr [.obj []])]))⟩
      :: List.replicate 9 (.handle 0 0 newYear none))
    (fun (s, history) => s.handlers[0]?.any (fun h => h.pc.done && h.request.bound = 9) &&
      Server.stepsOf 0 history = 9) (by decide +kernel)
  simp only [Bool.and_eq_true, decide_eq_true_eq] at passed
  obtain ⟨answered, steps⟩ := passed
  obtain ⟨h, found, tested⟩ := (Option.any_eq_true _ _).mp answered
  simp only [Bool.and_eq_true, decide_eq_true_eq] at tested
  exact ⟨history, s, h, run, found, tested.1, tested.2, steps, (handlers_wait_free run found).1⟩

end Router

end IngestionEngine
