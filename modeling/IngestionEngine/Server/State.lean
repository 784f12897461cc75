import IngestionEngine.Server.Value
import IngestionEngine.Systems.EventLoop
import IngestionEngine.Systems.Program

/-!
# The server process

The state of `IngestionEngine` in `server.ts`, the timers of its event loop, and what a
callback reads from its surroundings. A callback reads the clock once: what passes while it
runs is not seen by it, except in the durations that it measures.
-/

namespace IngestionEngine.Server

open Systems

/-- `TelemetryEvent`, which is whatever object the request had. -/
abbrev TelemetryEvent := JsObject

/-- The levels of a log entry. -/
inductive LogLevel where
  /-- `'INFO'` -/
  | info
  /-- `'WARN'` -/
  | warn
  /-- `'ERROR'` -/
  | error
  /-- `'DEBUG'` -/
  | debug
  deriving DecidableEq

/-- The level as a string. -/
def LogLevel.text : LogLevel → String
  | .info => "INFO"
  | .warn => "WARN"
  | .error => "ERROR"
  | .debug => "DEBUG"

/-- `StructuredLog` -/
structure StructuredLog where
  /-- `time` -/
  time : String
  /-- `level` -/
  level : LogLevel
  /-- `msg` -/
  msg : String
  /-- `caller` -/
  caller : String
  /-- `fields` -/
  fields : JsValue

/-- A record of `persistedTimeSeries`. -/
structure PersistedRecord where
  /-- `id` -/
  id : JsValue
  /-- `service` -/
  service : JsValue
  /-- `level` -/
  level : JsValue
  /-- `trace_id` -/
  traceId : JsValue
  /-- `timestamp` -/
  timestamp : JsValue
  /-- `batch_id` -/
  batchId : Nat

/-- `IngestionEngine`, in the order of its source. -/
structure Engine where
  /-- `workerCount` -/
  workerCount : JsNum := 32
  /-- `channelCapacity` -/
  channelCapacity : JsNum := 50000
  /-- `batchThreshold` -/
  batchThreshold : JsNum := 5000
  /-- `batchFlushWindowMs` -/
  batchFlushWindowMs : JsNum := 500
  /-- `rateLimitRps`, which `updateConfig` does not check. -/
  rateLimitRps : JsValue := .num 10000
  /-- `rateLimitBurst`, which `updateConfig` does not check. -/
  rateLimitBurst : JsValue := .num 20000
  /-- `availableTokens` -/
  availableTokens : JsNum := 20000
  /-- `lastRefillTime` -/
  lastRefillTime : Int
  /-- `rateLimitedRequests` -/
  rateLimitedRequests : Nat := 0
  /-- `queue` -/
  queue : List TelemetryEvent := []
  /-- `activeWorkers` -/
  activeWorkers : JsNum := 0
  /-- `isShuttingDown` -/
  isShuttingDown : Bool := false
  /-- `isPaused` -/
  isPaused : Bool := false
  /-- `batchBuffer` -/
  batchBuffer : List TelemetryEvent := []
  /-- `lastFlushTime` -/
  lastFlushTime : Int
  /-- `totalBatchesFlushed` -/
  totalBatchesFlushed : Nat := 0
  /-- `totalEventsFlushed` -/
  totalEventsFlushed : Nat := 0
  /-- `totalBatchErrors` -/
  totalBatchErrors : Nat := 0
  /-- `lastFlushDurationMs` -/
  lastFlushDurationMs : ℚ := 0
  /-- `totalAccepted` -/
  totalAccepted : Nat := 0
  /-- `totalDropped` -/
  totalDropped : Nat := 0
  /-- `totalProcessed` -/
  totalProcessed : Nat := 0
  /-- `latencies` -/
  latencies : List ℚ := []
  /-- `rpsCounter` -/
  rpsCounter : Nat := 0
  /-- `epsCounter` -/
  epsCounter : Nat := 0
  /-- `currentRPS` -/
  currentRPS : Nat := 0
  /-- `currentEPS` -/
  currentEPS : Nat := 0
  /-- `startTime` -/
  startTime : Int
  /-- `recentLogs` -/
  recentLogs : List StructuredLog := []
  /-- `loadTestActive` -/
  loadTestActive : Bool := false
  /-- `loadTestTimer` -/
  loadTestTimer : Option Nat := none
  /-- `loadTestTargetRps` -/
  loadTestTargetRps : JsNum := 2500
  /-- `loadTestScenario` -/
  loadTestScenario : String := "steady"
  /-- `persistedTimeSeries` -/
  persistedTimeSeries : List PersistedRecord := []
  /-- `flushIntervalId` -/
  flushIntervalId : Option Nat := none
  /-- `metricsIntervalId` -/
  metricsIntervalId : Option Nat := none

/-- `maxLogs` -/
def maxLogs : Nat := 200

/-- The callbacks that the engine gives to `setTimeout` and `setInterval`. -/
inductive Task where
  /-- The tick of `startWorkers`. -/
  | workers
  /-- The release of the workers, 8 ms after a tick. -/
  | release
  /-- The tick of `startBatchTicker`. -/
  | flush
  /-- The tick of `startMetricsTicker`. -/
  | metrics
  /-- The tick of `startLoadTest`, with the `eventsPerTick` it closes over. -/
  | loadTest (eventsPerTick : JsNum)
  /-- The end of the simulated shutdown. -/
  | reset
  deriving DecidableEq

/-- The process. -/
structure Process where
  /-- `engine` -/
  engine : Engine
  /-- The timers. -/
  loop : EventLoop Task
  /-- A timer's callback threw, which ends the process. -/
  crashed : Bool

/-- A value of `Math.random()`. -/
abbrev Draw := { value : ℚ // 0 ≤ value ∧ value < 1 }

/-- A difference of two readings of `performance.now()`. -/
abbrev Duration := { value : ℚ // 0 ≤ value }

/-- The draws for one event of the load test. -/
structure MockDraws where
  /-- The digits drawn for `trace_id`. -/
  suffix : String
  /-- The index into `services`. -/
  service : Fin 5
  /-- The number of the host, from zero on. -/
  host : Fin 16
  /-- The index into `levels`. -/
  level : Fin 6
  /-- `duration_ms` -/
  duration : Fin 120
  /-- The draw for `cpu_pct`. -/
  cpu : Draw

/-- How many elements an array can hold: `2 ^ 32 - 1` in the language, and fewer where the memory
ends before. -/
abbrev ArrayLimit := { limit : Nat // limit < 2 ^ 32 }

/-- What a callback reads from its surroundings. -/
structure Env where
  /-- `Date.now()` -/
  clock : Int
  /-- The digits drawn for the `trace_id` of an event, or the `id` of a record. -/
  suffix : Nat → String
  /-- The draw that decides whether a flush fails. -/
  failure : Draw
  /-- The draw for the latency of a batch. -/
  jitter : Draw
  /-- The duration of a push to the queue. -/
  pushDuration : Duration
  /-- The duration of a flush. -/
  flushDuration : Duration
  /-- The duration of a shutdown. -/
  shutdownDuration : Duration
  /-- `Math.sin` of the clock. -/
  sine : { value : ℚ // -1 ≤ value ∧ value ≤ 1 }
  /-- How many arguments a spread call can take. -/
  spreadLimit : Nat
  /-- How many elements an array can hold. -/
  arrayLimit : ArrayLimit
  /-- The draws for the events of the load test. -/
  mock : Nat → MockDraws

/-- Why a batch is flushed. -/
inductive FlushReason where
  /-- `'count_threshold'` -/
  | countThreshold
  /-- `'window_timeout'` -/
  | windowTimeout
  /-- `'graceful_shutdown'` -/
  | gracefulShutdown
  deriving DecidableEq

/-- The reason as a string. -/
def FlushReason.text : FlushReason → String
  | .countThreshold => "count_threshold"
  | .windowTimeout => "window_timeout"
  | .gracefulShutdown => "graceful_shutdown"

/-- The outcomes of `ingestSingle`. -/
inductive IngestStatus where
  /-- `'accepted'` -/
  | accepted
  /-- `'rate_limited'` -/
  | rateLimited
  /-- `'queue_saturated'` -/
  | queueSaturated
  /-- `'error'` -/
  | error
  deriving DecidableEq

/-- What `ingestSingle` returns. -/
structure SingleResult where
  /-- `status` -/
  status : IngestStatus
  /-- `trace_id`, if there is one. -/
  traceId : Option JsValue
  /-- `error`, if there is one. -/
  error : Option String

/-- What `ingestBatch` returns. -/
structure BatchResult where
  /-- `total` -/
  total : Nat
  /-- `accepted` -/
  accepted : Nat
  /-- `dropped` -/
  dropped : Nat
  /-- `rate_limited` -/
  rateLimited : Bool
  deriving DecidableEq

/-- What `simulateGracefulShutdown` returns. -/
structure ShutdownReport where
  /-- `drained_queue` -/
  drainedQueue : Nat
  /-- `flushed_batch` -/
  flushedBatch : Nat
  /-- `shutdown_duration_ms` -/
  shutdownDurationMs : ℚ
  /-- `exit_code` -/
  exitCode : Nat

/-- What `getPercentiles` returns. -/
structure Percentiles where
  /-- `p50` -/
  p50 : ℚ
  /-- `p95` -/
  p95 : ℚ
  /-- `p99` -/
  p99 : ℚ

/-- What `getMetrics` returns. -/
structure EngineMetrics where
  /-- `current_rps` -/
  currentRps : Nat
  /-- `current_eps` -/
  currentEps : Nat
  /-- `queue_length` -/
  queueLength : Nat
  /-- `queue_capacity` -/
  queueCapacity : JsNum
  /-- `queue_saturation_pct` -/
  queueSaturationPct : JsNum
  /-- `active_workers` -/
  activeWorkers : JsNum
  /-- `total_workers` -/
  totalWorkers : JsNum
  /-- `worker_utilization_pct` -/
  workerUtilizationPct : JsNum
  /-- `batch_buffer_length` -/
  batchBufferLength : Nat
  /-- `batch_threshold` -/
  batchThreshold : JsNum
  /-- `batch_flush_window_ms` -/
  batchFlushWindowMs : JsNum
  /-- `total_batches_flushed` -/
  totalBatchesFlushed : Nat
  /-- `total_events_flushed` -/
  totalEventsFlushed : Nat
  /-- `last_flush_duration_ms` -/
  lastFlushDurationMs : ℚ
  /-- `total_accepted` -/
  totalAccepted : Nat
  /-- `total_dropped` -/
  totalDropped : Nat
  /-- `total_processed` -/
  totalProcessed : Nat
  /-- `rate_limited_requests` -/
  rateLimitedRequests : Nat
  /-- `available_tokens` -/
  availableTokens : JsNum
  /-- `rate_limit_burst` -/
  rateLimitBurst : JsValue
  /-- `rate_limit_rps` -/
  rateLimitRps : JsValue
  /-- `token_saturation_pct` -/
  tokenSaturationPct : JsNum
  /-- `latency_p50_ms`, `latency_p95_ms` and `latency_p99_ms` -/
  latency : Percentiles
  /-- `uptime_sec` -/
  uptimeSec : Int
  /-- `load_test_active` -/
  loadTestActive : Bool
  /-- `load_test_target_rps` -/
  loadTestTargetRps : JsNum
  /-- `load_test_scenario` -/
  loadTestScenario : String
  /-- `is_shutting_down` -/
  isShuttingDown : Bool

/-- What an observer of the process sees, with the clock reading where it matters. -/
inductive Obs where
  /-- The limiter decided on a cost. -/
  | limited (clock : Int) (cost : JsNum) (allowed : Bool)
  /-- An event was pushed to the queue. -/
  | pushed (clock : Int) (event : TelemetryEvent)
  /-- A worker tick put events from the queue into the buffer. -/
  | moved (clock : Int) (events : List TelemetryEvent)
  /-- A shutdown put the queue into the buffer. -/
  | drained (clock : Int) (events : List TelemetryEvent)
  /-- A batch was taken out of the buffer and reported as failed or not. -/
  | flushed (clock : Int) (reason : FlushReason) (batchId : Nat) (events : List TelemetryEvent)
      (failed : Bool)
  /-- A log entry was added. -/
  | logged (entry : StructuredLog)
  /-- A latency was recorded. -/
  | latency (ms : ℚ)
  /-- `ingestSingle` returned. -/
  | single (result : SingleResult)
  /-- `ingestBatch` returned. -/
  | batch (result : BatchResult)
  /-- `getMetrics` returned. -/
  | metrics (result : EngineMetrics)
  /-- `simulateGracefulShutdown` returned. -/
  | shutdown (clock : Int) (report : ShutdownReport)
  /-- A request's call threw. -/
  | threw (error : JsError)
  /-- A timer's callback threw. -/
  | crashed (error : JsError)

/-- The code of the engine as programs over the process. -/
abbrev Js := Program Process Obs JsError

/-- Read the engine. -/
def engine : Js Engine := do
  let p ← Program.read
  return p.engine

/-- Assign fields of the engine. -/
def update (change : Engine → Engine) : Js Unit :=
  Program.modify fun p => { p with engine := change p.engine }

/-- `setTimeout`, or `setInterval` when there is a period. -/
def setTimer (task : Task) (delay : Int) (period : Option Int) : Js Nat := do
  let p ← Program.read
  Program.modify fun p => { p with loop := p.loop.set task delay period }
  return p.loop.nextId

/-- `clearInterval` of a handle that may be null. -/
def clearTimer (handle : Option Nat) : Js Unit :=
  Program.modify fun p => { p with loop := p.loop.clear handle }

/-- Reading the engine changes nothing. -/
@[simp] theorem run_engine (p : Process) : engine.run p = ⟨p, [], .ok p.engine⟩ := rfl

/-- An assignment changes the engine only. -/
@[simp] theorem run_update (change : Engine → Engine) (p : Process) :
    (update change).run p = ⟨{ p with engine := change p.engine }, [], .ok ()⟩ := rfl

/-- Setting a timer returns its identifier. -/
@[simp] theorem run_setTimer (task : Task) (delay : Int) (period : Option Int) (p : Process) :
    (setTimer task delay period).run p =
      ⟨{ p with loop := p.loop.set task delay period }, [], .ok p.loop.nextId⟩ := rfl

/-- Clearing a timer changes the timers only. -/
@[simp] theorem run_clearTimer (handle : Option Nat) (p : Process) :
    (clearTimer handle).run p = ⟨{ p with loop := p.loop.clear handle }, [], .ok ()⟩ := rfl

end IngestionEngine.Server
