import IngestionEngine.Pipeline.Engine
import IngestionEngine.RateLimit.Concurrent
import IngestionEngine.Router.Ingest
import IngestionEngine.Router.RateLimit
import IngestionEngine.Worker.Stats

/-!
# The HTTP server

`router.Server` with any number of requests in progress. Each request has a goroutine that runs
the handler of its route; the two routes that take events run it behind `rateLimitMiddleware`. A
goroutine takes one atomic step of the limiter, the pool or the batch processor at a time, so the
handlers interleave with each other, with the workers, with the batch loop and with `main`.
-/

namespace IngestionEngine.Router

open Systems Event Worker RateLimit

/-- The routes of `registerRoutes`. -/
inductive Route where
  /-- `POST /api/v1/events/single` -/
  | single
  /-- `POST /api/v1/events/batch` -/
  | batch
  /-- `GET /api/v1/healthz` -/
  | healthz
  /-- `GET /api/v1/metrics` -/
  | metrics
  deriving DecidableEq, Repr

/-- The route takes events, behind `rateLimitMiddleware`. -/
def Route.posts : Route → Bool
  | .single | .batch => true
  | .healthz | .metrics => false

/-- A request for a route. -/
structure Incoming where
  /-- The route that the mux has found. -/
  route : Route
  /-- What names the client. -/
  client : Request
  /-- The body. -/
  upload : Upload

/-- What a handler has passed to the pool. -/
inductive Posted where
  /-- `Enqueue` of one event. -/
  | single (ev : TelemetryEvent)
  /-- `EnqueueBatch` of so many events. -/
  | batch (total : Nat)

/-- What `Processor.Metrics` returns. -/
structure BatchMetrics where
  /-- `flushed` -/
  flushed : Nat
  /-- `batches` -/
  batches : Nat
  /-- `errors` -/
  errors : Nat
  /-- `pending` -/
  pending : Nat
  deriving DecidableEq, Repr

/-- Where a handler stands in `Processor.Metrics`, with what it has loaded. -/
inductive MetricsPc where
  /-- Before `p.mu.Lock()`. -/
  | lock
  /-- Holds the mutex. -/
  | locked
  /-- Before the load of `totalFlushed`. -/
  | flushed (pending : Nat)
  /-- Before the load of `totalBatches`. -/
  | batches (pending flushed : Nat)
  /-- Before the load of `flushErrors`. -/
  | errors (pending flushed batches : Nat)
  deriving DecidableEq, Repr

/-- What a handler answers, with what the answer rests on. -/
inductive Answer where
  /-- The middleware refused the request. -/
  | limited
  /-- The body was not accepted. -/
  | rejected (response : Response)
  /-- `Enqueue` of the event returned nil, or an error. -/
  | single (ev : TelemetryEvent) (accepted : Bool)
  /-- `EnqueueBatch` returned. -/
  | batch (total accepted dropped : Nat)
  /-- The answer of `handleHealthz`. -/
  | healthz (stats : QueueStats) (uptime : ℚ)
  /-- The answer of `handleMetrics`. -/
  | metrics (stats : QueueStats) (processor : BatchMetrics) (uptime : ℚ)

/-- A quotient of two `float64`, unless it is not a number. -/
def quotient (length capacity : Nat) : Option ℚ :=
  if capacity = 0 then none else some (length / capacity)

/-- A response whose body is encoded; `NaN` cannot be, and leaves the body empty. -/
def Response.encode : Option Json → Response
  | some value => .json 200 value []
  | none =>
    { status := 200, headers := [("Content-Type", "application/json")], body := .text "" }

/-- `handleHealthz` after its call of `QueueStats`. -/
def healthzAnswer (stats : QueueStats) (uptime : ℚ) : Response :=
  .encode <| (quotient stats.length stats.capacity).map fun util =>
    .obj [("queue_util", .num (.decimal util)), ("status", .str "healthy"),
      ("uptime_sec", .num (.decimal uptime))]

/-- `handleMetrics` after its call of `Metrics`. -/
def metricsAnswer (stats : QueueStats) (processor : BatchMetrics) (uptime : ℚ) : Response :=
  .encode <| (quotient stats.length stats.capacity).map fun util =>
    .obj [("batch_errors", .num (.int processor.errors)),
      ("batch_flushed", .num (.int processor.flushed)),
      ("batch_pending", .num (.int processor.pending)),
      ("events_accepted", .num (.int stats.accepted)),
      ("events_dropped", .num (.int stats.dropped)),
      ("events_processed", .num (.int stats.processed)),
      ("queue_capacity", .num (.int stats.capacity)), ("queue_len", .num (.int stats.length)),
      ("queue_saturation", .num (.decimal (util * 100))),
      ("total_batches", .num (.int processor.batches)), ("uptime_sec", .num (.decimal uptime))]

/-- The response that is written. -/
def Answer.response : Answer → Response
  | .limited => tooManyRequests
  | .rejected response => response
  | .single ev accepted => singleAnswer ev (if accepted then none else some .queueFull)
  | .batch total accepted dropped => batchAnswer total accepted dropped
  | .healthz stats uptime => healthzAnswer stats uptime
  | .metrics stats processor uptime => metricsAnswer stats processor uptime

/-- Where the goroutine of a request stands. -/
inductive HandlerPc where
  /-- In `s.limiter.Allow`, as one of the limiter's goroutines. -/
  | allowing (call : Nat)
  /-- At `next(w, r)`. -/
  | reading
  /-- In `Enqueue` or `EnqueueBatch`, as one of the pool's callers. -/
  | enqueueing (posted : Posted) (caller : Nat)
  /-- In `QueueStats`. -/
  | stats (reader : Reader)
  /-- In `Metrics`. -/
  | metrics (stats : QueueStats) (pc : MetricsPc)
  /-- It has answered. -/
  | responded (answer : Answer)

/-- A request with its goroutine. -/
structure Handler where
  /-- The request. -/
  request : Incoming
  /-- Where the goroutine stands. -/
  pc : HandlerPc

/-- `router.Server` -/
structure Server where
  /-- `limiter`, with the calls of `Allow` in progress. -/
  limiter : Concurrent.State
  /-- `pool` and `batchProc`, with `main`. -/
  engine : Engine TelemetryEvent
  /-- `startTime` -/
  startTime : ℚ
  /-- The goroutines of the requests. -/
  handlers : List Handler

namespace Server

/-- What an observer of the server sees. -/
inductive Obs where
  /-- An observation of the limiter. -/
  | limiter (seen : Concurrent.Obs)
  /-- An observation of the engine. -/
  | engine (seen : IngestionEngine.Obs TelemetryEvent)
  /-- A handler answered. -/
  | responded (index : Nat) (answer : Answer)

/-- The steps of the server and of those around it. -/
inductive Act where
  /-- A request arrives. -/
  | arrive (request : Incoming)
  /-- The goroutine of a request takes its next step, with a reading of the clock, the time for
  `Validate`, and the waiting worker that the runtime picks for a send. -/
  | handle (index : Nat) (clock : ℚ) (now : Now) (waiter : Option Nat)
  /-- Any other step of the engine. -/
  | engine (action : IngestionEngine.Act TelemetryEvent)

/-- `NewServer` behind `main`. -/
def start (workerCount queueCap batchThreshold : Nat)
    (ratePerSec capacity globalRate globalCap now : ℚ) : Server where
  limiter := .start ratePerSec capacity globalRate globalCap now
  engine := .start workerCount queueCap batchThreshold
  startTime := now
  handlers := []

end Server

/-- The body of a request up to the call of the pool: a response, or what is enqueued. -/
def Incoming.decode (describe : DecodeError → String) (r : Incoming) (now : Now) :
    Option (Except Response (List TelemetryEvent × Posted)) :=
  match r.route with
  | .single => some ((singleEvent describe r.upload now).map fun ev => ([ev], .single ev))
  | .batch => some ((batchEvents r.upload).map fun events => (events, .batch events.length))
  | .healthz | .metrics => none

/-- The answer to what was enqueued, when `EnqueueBatch` has returned. -/
def Posted.answer (caller : Caller TelemetryEvent) : Posted → Answer
  | .single ev => .single ev (caller.acceptedCount = 1)
  | .batch total => .batch total caller.acceptedCount caller.droppedCount

/-- The statistics, if that is what is shown. -/
def statsOf {Ev : Type} : StatsObs Ev → Option QueueStats
  | .pool _ => none
  | .returned stats => some stats

/-- The next load of `QueueStats`, and what it returns after the last one. -/
def load {Ev : Type} (pool : Pool Ev) (reader : Reader) : Option (Reader × Option QueueStats) :=
  ((Monitored.mk pool [reader]).queueStats 0).map fun (after, out) =>
    (after.readers.headD .returned, out.findSome? statsOf)

/-- The part of the server that a step of a handler changes, with its new place. -/
structure Move where
  /-- The limiter. -/
  limiter : Concurrent.State
  /-- The engine. -/
  engine : Engine TelemetryEvent
  /-- Where the goroutine stands now. -/
  pc : HandlerPc
  /-- What is seen. -/
  out : List Server.Obs

namespace Server

/-- The goroutine goes on to another place. -/
def goes (s : Server) (pc : HandlerPc) : Move := ⟨s.limiter, s.engine, pc, []⟩

/-- The goroutine answers. -/
def answers (s : Server) (index : Nat) (answer : Answer) : Move :=
  ⟨s.limiter, s.engine, .responded answer, [.responded index answer]⟩

/-- The goroutine takes a step of the engine. -/
def enters (s : Server) (action : IngestionEngine.Act TelemetryEvent) (pc : HandlerPc) :
    Option Move :=
  (s.engine.step action).map fun (engine, out) => ⟨s.limiter, engine, pc, out.map .engine⟩

/-- `rateLimitMiddleware` -/
def allow (s : Server) (index call : Nat) (clock : ℚ) : Option Move :=
  match s.limiter.goroutines[call]? with
  | none => none
  | some g =>
    match g.pc with
    | .returned true => some (s.goes .reading)
    | .returned false => some (s.answers index .limited)
    | .globalCheck | .lookup | .keyCheck _ =>
      (s.limiter.step (.enter call clock)).map fun (limiter, out) =>
        ⟨limiter, s.engine, .allowing call, out.map .limiter⟩

/-- `handleSingleEvent` or `handleBatchEvents`, up to the call of the pool. -/
def read (describe : DecodeError → String) (s : Server) (index : Nat) (request : Incoming)
    (now : Now) : Option Move :=
  match request.decode describe now with
  | none => none
  | some (.error response) => some (s.answers index (.rejected response))
  | some (.ok (events, posted)) =>
    s.enters (.pool (.call events)) (.enqueueing posted s.engine.pool.callers.length)

/-- `Enqueue` or `EnqueueBatch`, and what follows it. -/
def enqueue (s : Server) (index : Nat) (posted : Posted) (caller : Nat) (waiter : Option Nat) :
    Option Move :=
  match s.engine.pool.callers[caller]? with
  | none => none
  | some c =>
    match c.rest with
    | [] => some (s.answers index (posted.answer c))
    | _ :: _ => s.enters (.pool (.caller caller waiter)) (.enqueueing posted caller)

/-- `handleHealthz` or `handleMetrics`, in `QueueStats`. -/
def stats (s : Server) (index : Nat) (request : Incoming) (reader : Reader) (clock : ℚ) :
    Option Move :=
  match load s.engine.pool reader with
  | none => none
  | some (next, none) => some (s.goes (.stats next))
  | some (_, some stats) =>
    match request.route with
    | .healthz =>
      if clock < s.startTime then none
      else some (s.answers index (.healthz stats (clock - s.startTime)))
    | .single | .batch | .metrics => some (s.goes (.metrics stats .lock))

/-- `handleMetrics`, in `Metrics`. -/
def metrics (s : Server) (index : Nat) (stats : QueueStats) (clock : ℚ) :
    MetricsPc → Option Move
  | .lock => s.enters (.proc .metricsLock) (.metrics stats .locked)
  | .locked =>
    s.enters (.proc .metricsUnlock) (.metrics stats (.flushed s.engine.proc.buffer.length))
  | .flushed pending => some (s.goes (.metrics stats (.batches pending s.engine.proc.totalFlushed)))
  | .batches pending flushed =>
    some (s.goes (.metrics stats (.errors pending flushed s.engine.proc.totalBatches)))
  | .errors pending flushed batches =>
    if clock < s.startTime then none
    else some (s.answers index (.metrics stats
      ⟨flushed, batches, s.engine.proc.flushErrors, pending⟩ (clock - s.startTime)))

/-- The next step of the goroutine of a request. -/
def move (describe : DecodeError → String) (s : Server) (index : Nat) (h : Handler) (clock : ℚ)
    (now : Now) (waiter : Option Nat) : Option Move :=
  match h.pc with
  | .allowing call => s.allow index call clock
  | .reading => s.read describe index h.request now
  | .enqueueing posted caller => s.enqueue index posted caller waiter
  | .stats reader => s.stats index h.request reader clock
  | .metrics stats pc => s.metrics index stats clock pc
  | .responded _ => none

/-- The server after a step of a handler. -/
def moved (s : Server) (index : Nat) (h : Handler) (next : Move) : Server :=
  { s with
    limiter := next.limiter
    engine := next.engine
    handlers := s.handlers.set index { h with pc := next.pc } }

/-- A request arrives, as long as the server has not shut down. -/
def arrive (s : Server) (request : Incoming) : Option (Server × List Obs) :=
  if s.engine.drained then none
  else if request.route.posts then
    (s.limiter.step (.call request.client.clientIP)).map fun (limiter, out) =>
      ({ s with
          limiter
          handlers := s.handlers ++ [⟨request, .allowing s.limiter.goroutines.length⟩] },
        out.map .limiter)
  else some ({ s with handlers := s.handlers ++ [⟨request, .stats .length⟩] }, [])

end Server

/-- The goroutine has answered. -/
def HandlerPc.done : HandlerPc → Bool
  | .responded _ => true
  | .allowing _ | .reading | .enqueueing _ _ | .stats _ | .metrics _ _ => false

namespace Server

/-- The steps of the engine that no handler takes. `httpServer.Shutdown` returns in time only when
every handler has returned. -/
def permits (s : Server) : IngestionEngine.Act TelemetryEvent → Bool
  | .pool (.call _) | .pool (.caller _ _) | .proc .metricsLock | .proc .metricsUnlock => false
  | .httpDown drained => !drained || s.handlers.all (·.pc.done)
  | _ => true

/-- One atomic step. -/
def step (describe : DecodeError → String) (s : Server) : Act → Option (Server × List Obs)
  | .arrive request => s.arrive request
  | .handle index clock now waiter =>
    match s.handlers[index]? with
    | none => none
    | some h =>
      (s.move describe index h clock now waiter).map fun next => (s.moved index h next, next.out)
  | .engine action =>
    if s.permits action then
      (s.engine.step action).map fun (engine, out) => ({ s with engine }, out.map .engine)
    else none

/-- The server as a system. -/
def system (describe : DecodeError → String) : System Server Act Obs := ⟨step describe⟩

/-! ### What one step can do -/

variable {describe : DecodeError → String} {s after : Server} {out : List Obs}

/-- Everything the next step of a goroutine can do. -/
inductive Moves (describe : DecodeError → String) (s : Server) (index : Nat) (h : Handler) :
    Move → Prop where
  /-- A section of the limiter. -/
  | asks {call : Nat} {clock : ℚ} {limiter : Concurrent.State} {out : List Concurrent.Obs}
      {g : Concurrent.Goroutine} (here : h.pc = .allowing call)
      (calling : s.limiter.goroutines[call]? = some g)
      (moved : s.limiter.step (.enter call clock) = some (limiter, out)) :
      Moves describe s index h ⟨limiter, s.engine, .allowing call, out.map .limiter⟩
  /-- The limiter has allowed the request. -/
  | admitted {call : Nat} {g : Concurrent.Goroutine} (here : h.pc = .allowing call)
      (calling : s.limiter.goroutines[call]? = some g) (allowed : g.pc = .returned true) :
      Moves describe s index h (s.goes .reading)
  /-- The limiter has refused the request. -/
  | limited {call : Nat} {g : Concurrent.Goroutine} (here : h.pc = .allowing call)
      (calling : s.limiter.goroutines[call]? = some g) (refused : g.pc = .returned false) :
      Moves describe s index h (s.answers index .limited)
  /-- The body is not accepted. -/
  | rejected {now : Now} {response : Response} (here : h.pc = .reading)
      (decoded : h.request.decode describe now = some (.error response)) :
      Moves describe s index h (s.answers index (.rejected response))
  /-- The pool is called. -/
  | posted {now : Now} {events : List TelemetryEvent} {posted : Posted} (here : h.pc = .reading)
      (decoded : h.request.decode describe now = some (.ok (events, posted)))
      (opened : s.engine.drained = false) :
      Moves describe s index h
        ⟨s.limiter,
          { s.engine with
            pool :=
              { s.engine.pool with callers := s.engine.pool.callers ++ [⟨events, .check, 0, 0⟩] } },
          .enqueueing posted s.engine.pool.callers.length, []⟩
  /-- A step in the pool. -/
  | enqueues {posted : Posted} {caller : Nat} {waiter : Option Nat} {pool : Pool TelemetryEvent}
      {out : List (Worker.Obs TelemetryEvent)} (here : h.pc = .enqueueing posted caller)
      (moved : s.engine.pool.step (.caller caller waiter) = some (pool, out)) :
      Moves describe s index h ⟨s.limiter, { s.engine with pool }, .enqueueing posted caller,
        (out.map .pool).map .engine⟩
  /-- The pool has returned. -/
  | answered {posted : Posted} {caller : Nat} {c : Caller TelemetryEvent}
      (here : h.pc = .enqueueing posted caller)
      (calling : s.engine.pool.callers[caller]? = some c) (finished : c.rest = []) :
      Moves describe s index h (s.answers index (posted.answer c))
  /-- A load of `QueueStats`. -/
  | loads {reader next : Reader} (here : h.pc = .stats reader)
      (loaded : load s.engine.pool reader = some (next, none)) :
      Moves describe s index h (s.goes (.stats next))
  /-- `QueueStats` has returned to `handleHealthz`. -/
  | healthz {reader next : Reader} {stats : QueueStats} {uptime : ℚ} (here : h.pc = .stats reader)
      (loaded : load s.engine.pool reader = some (next, some stats)) (later : 0 ≤ uptime) :
      Moves describe s index h (s.answers index (.healthz stats uptime))
  /-- `QueueStats` has returned to `handleMetrics`. -/
  | measured {reader next : Reader} {stats : QueueStats} (here : h.pc = .stats reader)
      (loaded : load s.engine.pool reader = some (next, some stats))
      (route : h.request.route ≠ .healthz) :
      Moves describe s index h (s.goes (.metrics stats .lock))
  /-- `p.mu.Lock()` -/
  | locks {stats : QueueStats} {proc : Batch.Processor TelemetryEvent}
      {out : List (Batch.Obs TelemetryEvent)} (here : h.pc = .metrics stats .lock)
      (moved : s.engine.proc.step .metricsLock = some (proc, out)) :
      Moves describe s index h ⟨s.limiter, { s.engine with proc }, .metrics stats .locked,
        (out.map .proc).map .engine⟩
  /-- `p.mu.Unlock()` -/
  | unlocks {stats : QueueStats} {proc : Batch.Processor TelemetryEvent}
      {out : List (Batch.Obs TelemetryEvent)} (here : h.pc = .metrics stats .locked)
      (moved : s.engine.proc.step .metricsUnlock = some (proc, out)) :
      Moves describe s index h ⟨s.limiter, { s.engine with proc },
        .metrics stats (.flushed s.engine.proc.buffer.length), (out.map .proc).map .engine⟩
  /-- The load of `totalFlushed`. -/
  | flushed {stats : QueueStats} {pending : Nat} (here : h.pc = .metrics stats (.flushed pending)) :
      Moves describe s index h
        (s.goes (.metrics stats (.batches pending s.engine.proc.totalFlushed)))
  /-- The load of `totalBatches`. -/
  | batches {stats : QueueStats} {pending flushed : Nat}
      (here : h.pc = .metrics stats (.batches pending flushed)) :
      Moves describe s index h
        (s.goes (.metrics stats (.errors pending flushed s.engine.proc.totalBatches)))
  /-- `Metrics` has returned to `handleMetrics`. -/
  | metrics {stats : QueueStats} {pending flushed batches : Nat} {uptime : ℚ}
      (here : h.pc = .metrics stats (.errors pending flushed batches)) (later : 0 ≤ uptime) :
      Moves describe s index h (s.answers index (.metrics stats
        ⟨flushed, batches, s.engine.proc.flushErrors, pending⟩ uptime))

/-- What a step of the engine through `enters` makes. -/
theorem enters_some {action : IngestionEngine.Act TelemetryEvent} {pc : HandlerPc} {next : Move}
    (entered : s.enters action pc = some next) : ∃ engine shown,
      s.engine.step action = some (engine, shown) ∧
        next = ⟨s.limiter, engine, pc, shown.map .engine⟩ := by
  obtain ⟨⟨engine, shown⟩, moved, same⟩ := Option.map_eq_some_iff.mp entered
  exact ⟨engine, shown, moved, same.symm⟩

/-- `allow` does nothing else. -/
theorem allow_cases {index call : Nat} {h : Handler} {clock : ℚ} {next : Move}
    (here : h.pc = .allowing call) (moved : s.allow index call clock = some next) :
    Moves describe s index h next := by
  unfold allow at moved
  split at moved
  · contradiction
  rename_i g calling
  split at moved
  · rename_i allowed
    obtain rfl := Option.some.inj moved
    exact .admitted here calling allowed
  · rename_i refused
    obtain rfl := Option.some.inj moved
    exact .limited here calling refused
  all_goals
    obtain ⟨⟨limiter, shown⟩, entered, same⟩ := Option.map_eq_some_iff.mp moved
    rw [← same]
    exact .asks here calling entered

/-- `read` does nothing else. -/
theorem read_cases {index : Nat} {h : Handler} {now : Now} {next : Move} (here : h.pc = .reading)
    (moved : s.read describe index h.request now = some next) :
    Moves describe s index h next := by
  unfold read at moved
  split at moved
  · contradiction
  · rename_i response decoded
    obtain rfl := Option.some.inj moved
    exact .rejected here decoded
  · rename_i events posted decoded
    obtain ⟨engine, shown, stepped, rfl⟩ := enters_some moved
    cases IngestionEngine.step_cases stepped with
    | pool allowed called =>
      have opened : s.engine.drained = false := by simpa [Engine.allows] using allowed
      obtain ⟨rfl, rfl⟩ := Prod.mk.inj (Option.some.inj called)
      exact .posted here decoded opened

/-- `enqueue` does nothing else. -/
theorem enqueue_cases {index caller : Nat} {h : Handler} {posted : Posted} {waiter : Option Nat}
    {next : Move} (here : h.pc = .enqueueing posted caller)
    (moved : s.enqueue index posted caller waiter = some next) :
    Moves describe s index h next := by
  unfold enqueue at moved
  split at moved
  · contradiction
  rename_i c calling
  split at moved
  · rename_i finished
    obtain rfl := Option.some.inj moved
    exact .answered here calling finished
  · obtain ⟨engine, shown, stepped, rfl⟩ := enters_some moved
    cases IngestionEngine.step_cases stepped with
    | pool allowed called => exact .enqueues here called

/-- `stats` does nothing else. -/
theorem stats_cases {index : Nat} {h : Handler} {reader : Reader} {clock : ℚ} {next : Move}
    (here : h.pc = .stats reader)
    (moved : s.stats index h.request reader clock = some next) :
    Moves describe s index h next := by
  unfold stats at moved
  split at moved
  · contradiction
  · rename_i after loaded
    obtain rfl := Option.some.inj moved
    exact .loads here loaded
  · rename_i loaded
    split at moved
    · split at moved
      · contradiction
      · rename_i early
        obtain rfl := Option.some.inj moved
        exact .healthz here loaded (sub_nonneg.mpr (not_lt.mp early))
    all_goals
      rename_i route
      obtain rfl := Option.some.inj moved
      exact .measured here loaded (by rw [route]; decide)

/-- `metrics` does nothing else. -/
theorem metrics_cases {index : Nat} {h : Handler} {stats : QueueStats} {pc : MetricsPc} {clock : ℚ}
    {next : Move} (here : h.pc = .metrics stats pc)
    (moved : s.metrics index stats clock pc = some next) : Moves describe s index h next := by
  cases pc with
  | lock =>
    obtain ⟨engine, shown, stepped, rfl⟩ := enters_some moved
    cases IngestionEngine.step_cases stepped with
    | proc alone entered => exact .locks here entered
  | locked =>
    obtain ⟨engine, shown, stepped, rfl⟩ := enters_some moved
    cases IngestionEngine.step_cases stepped with
    | proc alone entered => exact .unlocks here entered
  | flushed pending =>
    obtain rfl := Option.some.inj moved
    exact .flushed here
  | batches pending flushed =>
    obtain rfl := Option.some.inj moved
    exact .batches here
  | errors pending flushed batches =>
    simp only [metrics] at moved
    split at moved
    · contradiction
    · rename_i early
      obtain rfl := Option.some.inj moved
      exact .metrics here (sub_nonneg.mpr (not_lt.mp early))

/-- `move` does nothing else. -/
theorem move_cases {index : Nat} {h : Handler} {clock : ℚ} {now : Now} {waiter : Option Nat}
    {next : Move} (moved : s.move describe index h clock now waiter = some next) :
    Moves describe s index h next := by
  unfold move at moved
  split at moved
  · rename_i here
    exact allow_cases here moved
  · rename_i here
    exact read_cases here moved
  · rename_i here
    exact enqueue_cases here moved
  · rename_i here
    exact stats_cases here moved
  · rename_i here
    exact metrics_cases here moved
  · contradiction

/-- Everything one step can do. -/
inductive Step (describe : DecodeError → String) (s : Server) : Act → Server → List Obs → Prop where
  /-- A request that the middleware sees. -/
  | post {request : Incoming} (opened : s.engine.drained = false)
      (posts : request.route.posts = true) :
      Step describe s (.arrive request)
        { s with
          limiter :=
            { s.limiter with
              goroutines := s.limiter.goroutines ++ [⟨request.client.clientIP, .globalCheck⟩] }
          handlers := s.handlers ++ [⟨request, .allowing s.limiter.goroutines.length⟩] } []
  /-- Another request. -/
  | get {request : Incoming} (opened : s.engine.drained = false)
      (gets : request.route.posts = false) :
      Step describe s (.arrive request)
        { s with handlers := s.handlers ++ [⟨request, .stats .length⟩] } []
  /-- A step of a handler. -/
  | handle {index : Nat} {clock : ℚ} {now : Now} {waiter : Option Nat} {h : Handler} {next : Move}
      (running : s.handlers[index]? = some h) (moves : Moves describe s index h next) :
      Step describe s (.handle index clock now waiter) (s.moved index h next) next.out
  /-- A step of the engine without the handlers. -/
  | engine {action : IngestionEngine.Act TelemetryEvent} {engine : Engine TelemetryEvent}
      {out : List (IngestionEngine.Obs TelemetryEvent)} (permitted : s.permits action = true)
      (moved : s.engine.step action = some (engine, out)) :
      Step describe s (.engine action) { s with engine } (out.map .engine)

/-- `step` does nothing else. -/
theorem step_cases {action : Act} (stepped : s.step describe action = some (after, out)) :
    Step describe s action after out := by
  cases action with
  | arrive request =>
    simp only [step, arrive] at stepped
    split at stepped
    · contradiction
    rename_i opened
    split at stepped
    · rename_i posts
      obtain ⟨⟨limiter, shown⟩, called, same⟩ := Option.map_eq_some_iff.mp stepped
      obtain ⟨rfl, rfl⟩ := Prod.mk.inj (Option.some.inj called)
      obtain ⟨rfl, rfl⟩ := Prod.mk.inj same
      exact .post (by simpa using opened) posts
    · rename_i gets
      obtain ⟨rfl, rfl⟩ := Prod.mk.inj (Option.some.inj stepped)
      exact .get (by simpa using opened) (by simpa using gets)
  | handle index clock now waiter =>
    simp only [step] at stepped
    split at stepped
    · contradiction
    · rename_i h running
      obtain ⟨next, moved, same⟩ := Option.map_eq_some_iff.mp stepped
      obtain ⟨rfl, rfl⟩ := Prod.mk.inj same
      exact .handle running (move_cases moved)
  | engine action =>
    simp only [step] at stepped
    split at stepped
    · rename_i permitted
      obtain ⟨⟨engine, shown⟩, moved, same⟩ := Option.map_eq_some_iff.mp stepped
      obtain ⟨rfl, rfl⟩ := Prod.mk.inj same
      exact .engine permitted moved
    · contradiction

/-! ### Each component sees a run of its own -/

/-- The observation, if the engine made it. -/
def Obs.ofEngine : Obs → List (IngestionEngine.Obs TelemetryEvent)
  | .engine seen => [seen]
  | .limiter _ | .responded _ _ => []

/-- The observation, if the limiter made it. -/
def Obs.ofLimiter : Obs → List Concurrent.Obs
  | .limiter seen => [seen]
  | .engine _ | .responded _ _ => []

/-- The engine shows all of its own observations. -/
theorem ofEngine_engine (out : List (IngestionEngine.Obs TelemetryEvent)) :
    (out.map Obs.engine).flatMap Obs.ofEngine = out := by
  rw [List.flatMap_map]
  exact List.flatMap_singleton' out

/-- The limiter shows nothing of them. -/
theorem ofLimiter_engine (out : List (IngestionEngine.Obs TelemetryEvent)) :
    (out.map Obs.engine).flatMap Obs.ofLimiter = [] := by
  rw [List.flatMap_map]
  exact List.flatMap_eq_nil_iff.mpr fun _ _ => rfl

/-- The limiter shows all of its own observations. -/
theorem ofLimiter_limiter (out : List Concurrent.Obs) :
    (out.map Obs.limiter).flatMap Obs.ofLimiter = out := by
  rw [List.flatMap_map]
  exact List.flatMap_singleton' out

/-- The engine shows nothing of them. -/
theorem ofEngine_limiter (out : List Concurrent.Obs) :
    (out.map Obs.limiter).flatMap Obs.ofEngine = [] := by
  rw [List.flatMap_map]
  exact List.flatMap_eq_nil_iff.mpr fun _ _ => rfl

section Components

variable {workerCount queueCap batchThreshold : Nat}
  {ratePerSec capacity globalRate globalCap now : ℚ} {seen : List Obs}

/-- A step of a handler is a step of the engine, or leaves it alone. -/
theorem moves_engine {index : Nat} {h : Handler} {next : Move}
    (moves : Moves describe s index h next) :
    (next.engine = s.engine ∧ next.out.flatMap Obs.ofEngine = []) ∨
      ∃ action, s.engine.step action = some (next.engine, next.out.flatMap Obs.ofEngine) := by
  cases moves with
  | asks => exact .inl ⟨rfl, ofEngine_limiter _⟩
  | admitted | limited | rejected | answered | loads | healthz | measured | flushed | batches
  | metrics => exact .inl ⟨rfl, rfl⟩
  | @posted now events posted here decoded opened =>
    refine .inr ⟨.pool (.call events), ?_⟩
    have allowed : s.engine.allows (.call events) = true := by simp [Engine.allows, opened]
    simp only [Engine.step, if_pos allowed]
    rfl
  | @enqueues posted caller waiter pool out here moved =>
    refine .inr ⟨.pool (.caller caller waiter), ?_⟩
    have allowed : s.engine.allows (.caller caller waiter) = true := rfl
    simp only [Engine.step, if_pos allowed, moved, Option.map_some, ofEngine_engine]
  | locks here moved =>
    refine .inr ⟨.proc .metricsLock, ?_⟩
    simp only [Engine.step, moved, Option.map_some, ofEngine_engine]
  | unlocks here moved =>
    refine .inr ⟨.proc .metricsUnlock, ?_⟩
    simp only [Engine.step, moved, Option.map_some, ofEngine_engine]

/-- A run of the server is a run of the engine. -/
theorem run_engine {s : Server} (run : (system describe).AnyRun
      (.start workerCount queueCap batchThreshold ratePerSec capacity globalRate globalCap now)
      seen s) :
    (IngestionEngine.system TelemetryEvent).AnyRun (.start workerCount queueCap batchThreshold)
      (seen.flatMap Obs.ofEngine) s.engine := by
  apply run.project Server.engine Obs.ofEngine
  intro seen s action after out _ _ stepped
  cases step_cases stepped with
  | post | get => exact .inl ⟨rfl, rfl⟩
  | handle running moves =>
    rcases moves_engine moves with quiet | ⟨action, moved⟩
    · exact .inl quiet
    · exact .inr ⟨action, trivial, moved⟩
  | @engine action engine out permitted moved =>
    rw [ofEngine_engine]
    exact .inr ⟨action, trivial, moved⟩

/-- A step of a handler is a step of the limiter, or leaves it alone. -/
theorem moves_limiter {index : Nat} {h : Handler} {next : Move}
    (moves : Moves describe s index h next) :
    (next.limiter = s.limiter ∧ next.out.flatMap Obs.ofLimiter = []) ∨
      ∃ action, s.limiter.step action = some (next.limiter, next.out.flatMap Obs.ofLimiter) := by
  cases moves with
  | @asks call clock limiter out g here calling moved =>
    rw [ofLimiter_limiter]
    exact .inr ⟨.enter call clock, moved⟩
  | enqueues | locks | unlocks => exact .inl ⟨rfl, ofLimiter_engine _⟩
  | posted | admitted | limited | rejected | answered | loads | healthz | measured | flushed
  | batches | metrics => exact .inl ⟨rfl, rfl⟩

/-- A run of the server is a run of the limiter. -/
theorem run_limiter {s : Server} (run : (system describe).AnyRun
      (.start workerCount queueCap batchThreshold ratePerSec capacity globalRate globalCap now)
      seen s) :
    Concurrent.system.AnyRun (.start ratePerSec capacity globalRate globalCap now)
      (seen.flatMap Obs.ofLimiter) s.limiter := by
  apply run.project Server.limiter Obs.ofLimiter
  intro seen s action after out _ _ stepped
  cases step_cases stepped with
  | @post request => exact .inr ⟨.call request.client.clientIP, trivial, rfl⟩
  | get => exact .inl ⟨rfl, rfl⟩
  | handle running moves =>
    rcases moves_limiter moves with quiet | ⟨action, moved⟩
    · exact .inl quiet
    · exact .inr ⟨action, trivial, moved⟩
  | engine => exact .inl ⟨rfl, ofLimiter_engine _⟩

/-- The observation, as the engine behind its routes shows it. -/
def Obs.ofRoutes : Obs → List Router.Obs
  | .engine seen => [.engine seen]
  | .responded _ (.rejected response) => [.responded response]
  | .responded _ _ | .limiter _ => []

/-- The routes show the observations of the engine. -/
theorem ofRoutes_engine (out : List (IngestionEngine.Obs TelemetryEvent)) :
    (out.map Obs.engine).flatMap Obs.ofRoutes = out.map .engine := by
  rw [List.flatMap_map]
  exact List.map_eq_flatMap.symm

/-- They show nothing of the limiter. -/
theorem ofRoutes_limiter (out : List Concurrent.Obs) :
    (out.map Obs.limiter).flatMap Obs.ofRoutes = [] := by
  rw [List.flatMap_map]
  exact List.flatMap_eq_nil_iff.mpr fun _ _ => rfl

/-- What a route makes of a body: a response, or a call of the pool. -/
def routed (e : Engine TelemetryEvent) :
    Except Response (List TelemetryEvent × Posted) →
      Option (Engine TelemetryEvent × List Router.Obs)
  | .error response => some (e, [.responded response])
  | .ok (events, _) => post e events

/-- A body is handled by the step of its route. -/
theorem decode_step {r : Incoming} {now : Now}
    {decoded : Except Response (List TelemetryEvent × Posted)}
    (read : r.decode describe now = some decoded) (e : Engine TelemetryEvent) :
    ∃ action, Router.step describe e action = routed e decoded := by
  unfold Incoming.decode at read
  split at read
  · rw [← Option.some.inj read]
    refine ⟨.single r.upload now, ?_⟩
    rw [Router.step]
    cases singleEvent describe r.upload now <;> rfl
  · rw [← Option.some.inj read]
    refine ⟨.batch r.upload, ?_⟩
    rw [Router.step]
    cases batchEvents r.upload <;> rfl
  · contradiction
  · contradiction

/-- A step of a handler is a step of a route, or leaves the engine alone. -/
theorem moves_routes {index : Nat} {h : Handler} {next : Move}
    (moves : Moves describe s index h next) :
    (next.engine = s.engine ∧ next.out.flatMap Obs.ofRoutes = []) ∨
      ∃ action, Router.step describe s.engine action =
        some (next.engine, next.out.flatMap Obs.ofRoutes) := by
  cases moves with
  | asks => exact .inl ⟨rfl, ofRoutes_limiter _⟩
  | admitted | limited | loads | healthz | measured | flushed | batches | metrics =>
    exact .inl ⟨rfl, rfl⟩
  | @answered posted => exact .inl ⟨rfl, by cases posted <;> rfl⟩
  | rejected here decoded =>
    obtain ⟨action, stepped⟩ := decode_step decoded s.engine
    exact .inr ⟨action, stepped⟩
  | @posted now events posted here decoded opened =>
    obtain ⟨action, stepped⟩ := decode_step decoded s.engine
    refine .inr ⟨action, stepped.trans ?_⟩
    have allowed : s.engine.allows (.call events) = true := by simp [Engine.allows, opened]
    simp only [routed, post, Engine.step, if_pos allowed]
    rfl
  | @enqueues posted caller waiter pool out here moved =>
    refine .inr ⟨.engine (.pool (.caller caller waiter)), ?_⟩
    have allowed : s.engine.allows (.caller caller waiter) = true := rfl
    simp only [Router.step, Engine.step, if_pos allowed, moved, Option.map_some, ofRoutes_engine]
  | locks here moved =>
    refine .inr ⟨.engine (.proc .metricsLock), ?_⟩
    simp only [Router.step, Engine.step, moved, Option.map_some, ofRoutes_engine]
  | unlocks here moved =>
    refine .inr ⟨.engine (.proc .metricsUnlock), ?_⟩
    simp only [Router.step, Engine.step, moved, Option.map_some, ofRoutes_engine]

/-- A run of the server is a run of the engine behind its routes. -/
theorem run_routes {s : Server} (run : (system describe).AnyRun
      (.start workerCount queueCap batchThreshold ratePerSec capacity globalRate globalCap now)
      seen s) :
    (Router.system describe).AnyRun (.start workerCount queueCap batchThreshold)
      (seen.flatMap Obs.ofRoutes) s.engine := by
  apply run.project Server.engine Obs.ofRoutes
  intro seen s action after out _ _ stepped
  cases step_cases stepped with
  | post | get => exact .inl ⟨rfl, rfl⟩
  | handle running moves =>
    rcases moves_routes moves with quiet | ⟨action, moved⟩
    · exact .inl quiet
    · exact .inr ⟨action, trivial, moved⟩
  | @engine action engine out permitted moved =>
    refine .inr ⟨.engine action, trivial, ?_⟩
    rw [ofRoutes_engine]
    have other (events : List TelemetryEvent) : action ≠ .pool (.call events) := by
      rintro rfl
      contradiction
    show Router.step describe s.engine (.engine action) = _
    simp only [Router.step, moved]
    rfl

end Components

end Server

end IngestionEngine.Router
