import IngestionEngine.Server.State

/-!
# The engine of the server

The methods of `IngestionEngine` and the callbacks that it gives to its timers, each in the
order of its source.
-/

namespace IngestionEngine.Server

open Systems Program

/-- `addLog` -/
def addLog (env : Env) (level : LogLevel) (msg caller : String) (fields : JsValue) : Js Unit := do
  let logEntry : StructuredLog := { time := toISOString env.clock, level, msg, caller, fields }
  update fun e => { e with recentLogs := logEntry :: e.recentLogs }
  let e ← engine
  onlyIf (maxLogs < e.recentLogs.length)
    (update fun e => { e with recentLogs := e.recentLogs.dropLast })
  emit (.logged logEntry)

/-! ### The token bucket -/

/-- `refillTokens` -/
def refillTokens (env : Env) : Js Unit := do
  let e ← engine
  let elapsedSec : JsNum := .fin ((env.clock - e.lastRefillTime : Int) / 1000)
  update fun e => { e with lastRefillTime := env.clock }
  let rps ← lift e.rateLimitRps.toNumber
  let refilled := e.availableTokens.add (elapsedSec.mul rps)
  let burst ← lift e.rateLimitBurst.toNumber
  update fun e => { e with availableTokens := burst.min refilled }

/-- `allowRateLimit` -/
def allowRateLimit (env : Env) (count : JsNum) : Js Bool := do
  refillTokens env
  let e ← engine
  if count.le e.availableTokens then
    update fun e => { e with availableTokens := e.availableTokens.sub count }
    emit (.limited env.clock count true)
    return true
  else
    update fun e => { e with rateLimitedRequests := e.rateLimitedRequests + 1 }
    emit (.limited env.clock count false)
    return false

/-! ### Flushing -/

/-- The record of the event at an index of a batch. -/
def persistedRecord (env : Env) (batchId : Nat) (ev : TelemetryEvent) (index : Nat) :
    PersistedRecord where
  id := if (ev.get "id").truthy then ev.get "id" else .str ("evt-" ++ env.suffix index)
  service := ev.get "service"
  level := ev.get "level"
  traceId := ev.get "trace_id"
  timestamp := ev.get "timestamp"
  batchId := batchId

/-- `triggerFlush` -/
def triggerFlush (env : Env) (reason : FlushReason) : Js Unit := do
  let e ← engine
  if e.batchBuffer.length = 0 then return
  else
    let toFlush := e.batchBuffer
    update fun e => { e with batchBuffer := [], lastFlushTime := env.clock }
    let batchId := e.totalBatchesFlushed + 1
    update fun e => { e with totalBatchesFlushed := batchId }
    let count := toFlush.length
    let records := (toFlush.take 50).zipIdx.map fun (ev, i) => persistedRecord env batchId ev i
    update fun e =>
      { e with persistedTimeSeries := (records.reverse ++ e.persistedTimeSeries).take 300 }
    let durationMs := JsNum.roundTo 2 env.flushDuration
    update fun e => { e with lastFlushDurationMs := durationMs }
    update fun e => { e with totalEventsFlushed := e.totalEventsFlushed + count }
    if env.failure.val < 1 / 10000 then
      update fun e => { e with totalBatchErrors := e.totalBatchErrors + 1 }
      emit (.flushed env.clock reason batchId toFlush true)
      addLog env .error "MongoDB BulkWrite failure" "storage.FlushBatch"
        (.obj [("batch_id", .nat batchId), ("count", .nat count), ("reason", .str reason.text),
          ("err", .str "connection reset by peer")])
    else
      emit (.flushed env.clock reason batchId toFlush false)
      addLog env .info "MongoDB BulkWrite committed" "batch.doFlush"
        (.obj [("batch_id", .nat batchId), ("count", .nat count), ("reason", .str reason.text),
          ("duration_ms", .num (.fin durationMs)),
          ("indexed_keys", .arr [.str "service:1", .str "timestamp:-1", .str "level:1"])])

/-- The tick of `startBatchTicker`. -/
def flushTick (env : Env) : Js Unit := do
  let e ← engine
  onlyIf (0 < e.batchBuffer.length ∧
      e.batchFlushWindowMs.le (.fin (env.clock - e.lastFlushTime : Int)) = true)
    (triggerFlush env .windowTimeout)

/-- `startBatchTicker` -/
def startBatchTicker : Js Unit := do
  let e ← engine
  clearTimer e.flushIntervalId
  let id ← setTimer .flush 50 (some 50)
  update fun e => { e with flushIntervalId := some id }

/-! ### The worker pool -/

/-- The tick of `startWorkers`. -/
def workerTick (env : Env) : Js Unit := do
  let e ← engine
  if e.isShuttingDown ∨ e.isPaused then return
  else
    let availableWorkers := e.workerCount.sub e.activeWorkers
    if availableWorkers.le 0 ∨ e.queue.length = 0 then return
    else
      let queueLength := JsNum.ofNat e.queue.length
      let chunkSize := (availableWorkers.mul 25).min queueLength
      if JsNum.lt 0 chunkSize then
        let busy := e.workerCount.min (((queueLength.div 50).ceil).add 1)
        update fun e => { e with activeWorkers := busy }
        let count := chunkSize.spliceCount e.queue.length
        let items := e.queue.take count
        update fun e => { e with queue := e.queue.drop count }
        update fun e =>
          { e with
            batchBuffer := e.batchBuffer ++ items
            totalProcessed := e.totalProcessed + items.length }
        emit (.moved env.clock items)
        let e ← engine
        onlyIf (e.batchThreshold.le (.ofNat e.batchBuffer.length) = true)
          (triggerFlush env .countThreshold)
        let _ ← setTimer .release 8 none
      else return

/-- How many workers the release leaves active. -/
def busyWorkers (e : Engine) : JsNum :=
  JsNum.max 0 (e.workerCount.min (((JsNum.ofNat e.queue.length).div 50).ceil))

/-- The release of the workers, 8 ms after a tick. -/
def releaseWorkers : Js Unit := update fun e => { e with activeWorkers := busyWorkers e }

/-- `startWorkers` -/
def startWorkers : Js Unit := do
  let _ ← setTimer .workers 10 (some 10)

/-! ### Metrics -/

/-- The tick of `startMetricsTicker`. -/
def metricsTick : Js Unit :=
  update fun e =>
    { e with
      currentRPS := e.rpsCounter
      currentEPS := e.epsCounter
      rpsCounter := 0
      epsCounter := 0 }

/-- `startMetricsTicker` -/
def startMetricsTicker : Js Unit := do
  let id ← setTimer .metrics 1000 (some 1000)
  update fun e => { e with metricsIntervalId := some id }

/-- `recordLatency` -/
def recordLatency (ms : ℚ) : Js Unit := do
  update fun e => { e with latencies := e.latencies ++ [ms] }
  let e ← engine
  onlyIf (500 < e.latencies.length) (update fun e => { e with latencies := e.latencies.tail })

/-- `getPercentiles` -/
def getPercentiles (latencies : List ℚ) : Percentiles :=
  if latencies.length = 0 then { p50 := 12 / 100, p95 := 45 / 100, p99 := 12 / 10 }
  else
    let sorted := latencies.mergeSort
    let sample (q : ℚ) := sorted.getD ⌊(latencies.length : ℚ) * q⌋.toNat 0
    { p50 := JsNum.roundTo 3 (sample (1 / 2))
      p95 := JsNum.roundTo 3 (sample (95 / 100))
      p99 := JsNum.roundTo 3 (sample (99 / 100)) }

/-- `getMetrics` -/
def getMetrics (env : Env) : Js EngineMetrics := do
  refillTokens env
  let e ← engine
  let queueSaturation := ((JsNum.ofNat e.queue.length).div e.channelCapacity).mul 100
  let burst ← lift e.rateLimitBurst.toNumber
  let tokenSaturation := (e.availableTokens.div burst).mul 100
  return {
    currentRps := e.currentRPS
    currentEps := e.currentEPS
    queueLength := e.queue.length
    queueCapacity := e.channelCapacity
    queueSaturationPct := queueSaturation.fixed 2
    activeWorkers := e.activeWorkers
    totalWorkers := e.workerCount
    workerUtilizationPct := ((e.activeWorkers.div e.workerCount).mul 100).fixed 1
    batchBufferLength := e.batchBuffer.length
    batchThreshold := e.batchThreshold
    batchFlushWindowMs := e.batchFlushWindowMs
    totalBatchesFlushed := e.totalBatchesFlushed
    totalEventsFlushed := e.totalEventsFlushed
    lastFlushDurationMs := e.lastFlushDurationMs
    totalAccepted := e.totalAccepted
    totalDropped := e.totalDropped
    totalProcessed := e.totalProcessed
    rateLimitedRequests := e.rateLimitedRequests
    availableTokens := e.availableTokens.round
    rateLimitBurst := e.rateLimitBurst
    rateLimitRps := e.rateLimitRps
    tokenSaturationPct := tokenSaturation.fixed 1
    latency := getPercentiles e.latencies
    uptimeSec := (env.clock - e.startTime).fdiv 1000
    loadTestActive := e.loadTestActive
    loadTestTargetRps := e.loadTestTargetRps
    loadTestScenario := e.loadTestScenario
    isShuttingDown := e.isShuttingDown }

/-! ### Ingestion -/

/-- Assign a property that is missing. -/
def orElse (ev : TelemetryEvent) (name value : String) : TelemetryEvent :=
  if (ev.get name).truthy then ev else ev.set name (.str value)

/-- The error of a request without a token. -/
def rateLimitedError : String := "Token bucket capacity exceeded (HTTP 429)"

/-- The error of an event without a service or a message. -/
def validationError : String := "Missing required field: service or message"

/-- The error of an event that finds the queue full. -/
def saturatedError : String := "Channel buffer capacity reached (HTTP 503)"

/-- `!event.service || !event.message` -/
def invalid (event : JsValue) : Except JsError Bool := do
  let service ← event.get "service"
  if service.truthy then
    let message ← event.get "message"
    return !message.truthy
  else return true

/-- `ingestSingle` -/
def ingestSingle (env : Env) (event : JsValue) : Js SingleResult := do
  update fun e => { e with rpsCounter := e.rpsCounter + 1, epsCounter := e.epsCounter + 1 }
  let allowed ← allowRateLimit env 1
  if !allowed then
    return { status := .rateLimited, traceId := none, error := some rateLimitedError }
  else
    let rejected ← lift (invalid event)
    if rejected then
      return { status := .error, traceId := none, error := some validationError }
    else
      let ev ← lift event.asObject
      let ev := orElse ev "timestamp" (toISOString env.clock)
      let ev := orElse ev "level" "INFO"
      let ev := orElse ev "trace_id" ("tr-" ++ env.suffix 0)
      let e ← engine
      if e.channelCapacity.le (.ofNat e.queue.length) then
        update fun e => { e with totalDropped := e.totalDropped + 1 }
        addLog env .warn "Channel buffer saturated; dropping event (backpressure engaged)"
          "worker.Enqueue"
          (.obj [("queue_len", .nat e.queue.length), ("capacity", .num e.channelCapacity),
            ("service", ev.get "service")])
        return { status := .queueSaturated, traceId := none, error := some saturatedError }
      else
        update fun e => { e with queue := e.queue ++ [ev] }
        update fun e => { e with totalAccepted := e.totalAccepted + 1 }
        emit (.pushed env.clock ev)
        recordLatency env.pushDuration
        emit (.latency env.pushDuration)
        return { status := .accepted, traceId := some (ev.get "trace_id"), error := none }

/-- The loop of `ingestBatch` from an index on, with what it has accepted and dropped. -/
def ingestEvents (env : Env) : List JsValue → Nat → Nat → Nat → Js (Nat × Nat)
  | [], _, accepted, dropped => return (accepted, dropped)
  | event :: rest, index, accepted, dropped => do
    let ev ← lift event.asObject
    let ev := orElse ev "timestamp" (toISOString env.clock)
    let ev := orElse ev "trace_id" ("tr-" ++ env.suffix index)
    let ev := orElse ev "level" "INFO"
    let e ← engine
    if (JsNum.ofNat e.queue.length).lt e.channelCapacity then
      update fun e => { e with queue := e.queue ++ [ev] }
      update fun e => { e with totalAccepted := e.totalAccepted + 1 }
      emit (.pushed env.clock ev)
      ingestEvents env rest (index + 1) (accepted + 1) dropped
    else
      update fun e => { e with totalDropped := e.totalDropped + 1 }
      ingestEvents env rest (index + 1) accepted (dropped + 1)

/-- `ingestBatch` -/
def ingestBatch (env : Env) (events : List JsValue) : Js BatchResult := do
  let total := events.length
  update fun e => { e with rpsCounter := e.rpsCounter + 1, epsCounter := e.epsCounter + total }
  let allowed ← allowRateLimit env (JsNum.max 1 ((JsNum.ofNat total).div 50).ceil)
  if !allowed then
    update fun e => { e with rateLimitedRequests := e.rateLimitedRequests + total }
    return { total, accepted := 0, dropped := total, rateLimited := true }
  else
    let (accepted, dropped) ← ingestEvents env events 0 0 0
    recordLatency (env.jitter * (4 / 10) + 1 / 10)
    emit (.latency (env.jitter * (4 / 10) + 1 / 10))
    return { total, accepted, dropped, rateLimited := false }

/-! ### The load test -/

/-- `services` -/
def services : List String :=
  ["payment-svc", "auth-svc", "telemetry-collector", "order-orchestrator", "inventory-db"]

/-- `levels` -/
def levels : List String := ["INFO", "INFO", "INFO", "WARN", "DEBUG", "ERROR"]

/-- The event of the load test at an index of a tick. -/
def mockEvent (env : Env) (index : Nat) : JsValue :=
  let draws := env.mock index
  .obj [("trace_id", .str ("tr-" ++ draws.suffix)),
    ("service", .str (services.getD draws.service "")),
    ("host", .str ("node-" ++ toString (draws.host.val + 1) ++ ".prod")),
    ("level", .str (levels.getD draws.level "")),
    ("message", .str "High-velocity telemetry event ingested via benchmark worker"),
    ("timestamp", .str (toISOString env.clock)),
    ("payload", .obj [("duration_ms", .nat draws.duration),
      ("cpu_pct", .num (.fin (draws.cpu * 85)))])]

/-- The bound of the loop that builds the events of a tick. -/
def tickBatchCount (env : Env) (scenario : String) (eventsPerTick : JsNum) : JsNum :=
  if scenario = "burst" then
    JsNum.max 10 (eventsPerTick.mul (.fin (1 + env.sine * (9 / 10)))).floor
  else if scenario = "dos_attack" then eventsPerTick.mul 4
  else eventsPerTick

/-- How many events the loop of a tick pushes into its array, if the array can hold them. A loop
that does not end has a bound that no array can hold. -/
def pushCount (env : Env) (bound : JsNum) : Option Nat :=
  bound.loopCount.filter fun count => count ≤ env.arrayLimit

/-- The array that the loop of a tick builds; the push for which there is no room throws. -/
def mockBatch (env : Env) (bound : JsNum) : Except JsError (List JsValue) :=
  match pushCount env bound with
  | some count => .ok ((List.range count).map (mockEvent env))
  | none => .error .rangeError

/-- How many events the tick of `startLoadTest` builds, if an array can hold them. -/
def loadTestCount (env : Env) (e : Engine) (eventsPerTick : JsNum) : Option Nat :=
  if e.loadTestActive then pushCount env (tickBatchCount env e.loadTestScenario eventsPerTick)
  else some 0

/-- The tick of `startLoadTest`. -/
def loadTestTick (env : Env) (eventsPerTick : JsNum) : Js Unit := do
  let e ← engine
  if !e.loadTestActive then return
  else
    let events ← lift (mockBatch env (tickBatchCount env e.loadTestScenario eventsPerTick))
    let _ ← ingestBatch env events

/-- `stopLoadTest` -/
def stopLoadTest (env : Env) : Js Unit := do
  update fun e => { e with loadTestActive := false }
  let e ← engine
  clearTimer e.loadTestTimer
  update fun e => { e with loadTestTimer := none }
  addLog env .info "Companion Load Test Generator halted" "benchmarks.Stop" (.obj [])

/-- `startLoadTest` -/
def startLoadTest (env : Env) (targetRps : JsNum) (scenario : String) : Js Unit := do
  stopLoadTest env
  update fun e =>
    { e with loadTestActive := true, loadTestTargetRps := targetRps, loadTestScenario := scenario }
  addLog env .info "Companion Load Test Generator started" "benchmarks.Start"
    (.obj [("target_rps", .num targetRps), ("scenario", .str scenario), ("client_count", .nat 50)])
  let eventsPerTick := (targetRps.div 40).ceil
  let id ← setTimer (.loadTest eventsPerTick) 25 (some 25)
  update fun e => { e with loadTestTimer := some id }

/-! ### Shutdown -/

/-- `simulateGracefulShutdown` -/
def simulateGracefulShutdown (env : Env) : Js ShutdownReport := do
  update fun e => { e with isShuttingDown := true }
  stopLoadTest env
  let e ← engine
  addLog env .warn "Caught SIGTERM signal; beginning graceful channel draining"
    "main.SignalHandler"
    (.obj [("signal", .str "SIGTERM"), ("queue_items_pending", .nat e.queue.length),
      ("buffer_items_pending", .nat e.batchBuffer.length)])
  let queuedItems := e.queue.length
  lift (if env.spreadLimit < queuedItems then .error .rangeError else .ok ())
  update fun e => { e with batchBuffer := e.batchBuffer ++ e.queue }
  emit (.drained env.clock e.queue)
  update fun e => { e with queue := [] }
  let e ← engine
  let finalBufferCount := e.batchBuffer.length
  triggerFlush env .gracefulShutdown
  let durationMs := JsNum.roundTo 2 env.shutdownDuration
  addLog env .info "All worker routines flushed and decoupled safely. Exit code 0"
    "main.GracefulShutdown"
    (.obj [("duration_ms", .num (.fin durationMs)), ("packets_dropped", .nat 0)])
  let _ ← setTimer .reset 2000 none
  return {
    drainedQueue := queuedItems
    flushedBatch := finalBufferCount
    shutdownDurationMs := durationMs
    exitCode := 0 }

/-- The end of the simulated shutdown. -/
def resetShutdown : Js Unit := update fun e => { e with isShuttingDown := false }

/-! ### Configuration -/

/-- Assign a field of the configuration that is given, as a number between two bounds. -/
def assignClamped (cfg : JsValue) (name : String) (low high : JsNum)
    (assign : JsNum → Engine → Engine) (afterwards : Js Unit) : Js Unit := do
  let given ← lift (cfg.get name)
  if given.truthy then
    let value ← lift given.toNumber
    update (assign (JsNum.max low (JsNum.min high value)))
    afterwards
  else return

/-- `workerCount` of the configuration. -/
def updateWorkerCount (cfg : JsValue) : Js Unit :=
  assignClamped cfg "workerCount" 2 256 (fun value e => { e with workerCount := value }) (pure ())

/-- `channelCapacity` of the configuration. -/
def updateChannelCapacity (cfg : JsValue) : Js Unit :=
  assignClamped cfg "channelCapacity" 500 500000
    (fun value e => { e with channelCapacity := value }) (pure ())

/-- `batchThreshold` of the configuration. -/
def updateBatchThreshold (cfg : JsValue) : Js Unit :=
  assignClamped cfg "batchThreshold" 100 50000
    (fun value e => { e with batchThreshold := value }) (pure ())

/-- `batchFlushWindowMs` of the configuration, which restarts the ticker. -/
def updateBatchFlushWindow (cfg : JsValue) : Js Unit :=
  assignClamped cfg "batchFlushWindowMs" 20 5000
    (fun value e => { e with batchFlushWindowMs := value }) startBatchTicker

/-- `rateLimitRps` of the configuration. -/
def updateRateLimitRps (cfg : JsValue) : Js Unit := do
  let given ← lift (cfg.get "rateLimitRps")
  onlyIf (given.truthy = true) (update fun e => { e with rateLimitRps := given })

/-- `rateLimitBurst` of the configuration. -/
def updateRateLimitBurst (cfg : JsValue) : Js Unit := do
  let given ← lift (cfg.get "rateLimitBurst")
  if given.truthy then
    update fun e => { e with rateLimitBurst := given }
    let burst ← lift given.toNumber
    update fun e => { e with availableTokens := e.availableTokens.min burst }
  else return

/-- `updateConfig` -/
def updateConfig (env : Env) (cfg : JsValue) : Js Unit := do
  updateWorkerCount cfg
  updateChannelCapacity cfg
  updateBatchThreshold cfg
  updateBatchFlushWindow cfg
  updateRateLimitRps cfg
  updateRateLimitBurst cfg
  addLog env .info "Engine configuration dynamically reloaded" "config.Update" cfg

/-! ### The constructor -/

/-- The fields before the constructor runs. -/
def Engine.fresh (clock : Int) : Engine :=
  { lastRefillTime := clock, lastFlushTime := clock, startTime := clock }

/-- `constructor` -/
def construct (env : Env) : Js Unit := do
  startWorkers
  startBatchTicker
  startMetricsTicker
  let e ← engine
  addLog env .info "Telemetry Ingestion Engine initialized" "engine.Init"
    (.obj [("workers", .num e.workerCount), ("channel_capacity", .num e.channelCapacity),
      ("batch_threshold", .num e.batchThreshold), ("flush_window_ms", .num e.batchFlushWindowMs)])

/-- The process with the engine constructed. -/
def Process.start (env : Env) : Process :=
  ((construct env).run
    { engine := .fresh env.clock, loop := .empty env.clock, crashed := false }).state

end IngestionEngine.Server
