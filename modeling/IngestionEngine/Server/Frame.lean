import IngestionEngine.Server.Step

/-!
# What the methods leave alone

Each view forgets the fields that some methods assign. That a method keeps the view says, in
one equation, that it changes no other field and sets no timer.
-/

namespace IngestionEngine.Server

open Systems Program

/-- The process without what a flush assigns. -/
def Process.exceptFlush (p : Process) : Process :=
  { p with
    engine :=
      { p.engine with
        recentLogs := []
        batchBuffer := []
        lastFlushTime := 0
        totalBatchesFlushed := 0
        totalEventsFlushed := 0
        totalBatchErrors := 0
        lastFlushDurationMs := 0
        persistedTimeSeries := [] } }

/-- The process without the token bucket. -/
def Process.exceptTokens (p : Process) : Process :=
  { p with engine := { p.engine with lastRefillTime := 0, availableTokens := 0 } }

/-- The process without what an ingestion assigns. -/
def Process.exceptIngest (p : Process) : Process :=
  { p with
    engine :=
      { p.engine with
        recentLogs := []
        lastRefillTime := 0
        availableTokens := 0
        rateLimitedRequests := 0
        queue := []
        totalAccepted := 0
        totalDropped := 0
        latencies := []
        rpsCounter := 0
        epsCounter := 0 } }

/-- The process without what a configuration assigns. -/
def Process.exceptConfig (p : Process) : Process :=
  { p with
    loop := .empty 0
    engine :=
      { p.engine with
        recentLogs := []
        workerCount := 0
        channelCapacity := 0
        batchThreshold := 0
        batchFlushWindowMs := 0
        rateLimitRps := .undefined
        rateLimitBurst := .undefined
        availableTokens := 0
        flushIntervalId := none } }

section Rules

variable {holds : Process → Prop} {α β : Type}

/-- Reading the engine keeps every property. -/
theorem keeps_engine : Keeps holds engine := keeps_bind keeps_read fun _ => keeps_pure _

/-- An assignment keeps a property of which it is shown. -/
theorem keeps_update {change : Engine → Engine}
    (kept : ∀ p, holds p → holds { p with engine := change p.engine }) :
    Keeps holds (update change) := keeps_modify kept

/-- A new log entry keeps what every assignment of the log keeps. -/
theorem keeps_addLog
    (kept : ∀ p logs, holds p → holds { p with engine := { p.engine with recentLogs := logs } })
    {env : Env} {level : LogLevel} {msg caller : String} {fields : JsValue} :
    Keeps holds (addLog env level msg caller fields) := by
  refine keeps_bind (keeps_update fun p => kept p _) fun _ => ?_
  refine keeps_bind keeps_engine fun _ => ?_
  exact keeps_bind (keeps_onlyIf (keeps_update fun p => kept p _)) fun _ => keeps_emit _

/-- A program that keeps every value of a view keeps the view. -/
theorem view_kept {view : Process → β} {program : Js α}
    (kept : ∀ value, Keeps (fun p => view p = value) program) (p : Process) :
    view (program.run p).state = view p :=
  kept (view p) p rfl

/-- A program that keeps a view keeps what does not depend on what the view forgets. -/
theorem keeps_of_view (view : Process → Process) {program : Js α}
    (forgets : ∀ p, holds (view p) ↔ holds p)
    (kept : ∀ value, Keeps (fun p => view p = value) program) : Keeps holds program := by
  intro p held
  rw [← forgets, view_kept kept p, forgets]
  exact held

end Rules

variable (env : Env)

/-- The log with one more entry. -/
def pushLog (entry : StructuredLog) (logs : List StructuredLog) : List StructuredLog :=
  if maxLogs < logs.length + 1 then (entry :: logs).dropLast else entry :: logs

/-- What `addLog` does. -/
@[simp] theorem run_addLog (level : LogLevel) (msg caller : String) (fields : JsValue)
    (p : Process) :
    (addLog env level msg caller fields).run p =
      ⟨{ p with
          engine :=
            { p.engine with
              recentLogs := pushLog ⟨toISOString env.clock, level, msg, caller, fields⟩
                p.engine.recentLogs } },
        [.logged ⟨toISOString env.clock, level, msg, caller, fields⟩], .ok ()⟩ := by
  simp only [addLog, run_bind, run_update, run_engine, run_onlyIf, andThen_ok,
    List.length_cons]
  by_cases full : maxLogs < p.engine.recentLogs.length + 1
  · simp only [pushLog, if_pos full]
    rfl
  · simp only [pushLog, if_neg full]
    rfl

/-- `triggerFlush` changes what a flush assigns only. -/
theorem keeps_triggerFlush (reason : FlushReason) (value : Process) :
    Keeps (fun p => p.exceptFlush = value) (triggerFlush env reason) := by
  have assign {change : Engine → Engine}
      (same : ∀ p : Process, ({ p with engine := change p.engine } : Process).exceptFlush =
        p.exceptFlush) : Keeps (fun p => p.exceptFlush = value) (update change) :=
    keeps_update fun p held => (same p).trans held
  have log {level : LogLevel} {msg caller : String} {fields : JsValue} :
      Keeps (fun p => p.exceptFlush = value) (addLog env level msg caller fields) :=
    keeps_addLog fun _ _ held => held
  refine keeps_bind keeps_engine fun e => keeps_ite (keeps_pure ()) ?_
  refine keeps_bind (assign fun _ => rfl) fun _ => ?_
  refine keeps_bind (assign fun _ => rfl) fun _ => ?_
  refine keeps_bind (assign fun _ => rfl) fun _ => ?_
  refine keeps_bind (assign fun _ => rfl) fun _ => ?_
  refine keeps_bind (assign fun _ => rfl) fun _ => keeps_ite ?_ ?_
  · exact keeps_bind (assign fun _ => rfl) fun _ => keeps_bind (keeps_emit _) fun _ => log
  · exact keeps_bind (keeps_emit _) fun _ => log

/-- `refillTokens` keeps what assignments of the token bucket keep. -/
theorem keeps_refillTokens {holds : Process → Prop}
    (kept : ∀ p time tokens, holds p → holds { p with
      engine := { p.engine with lastRefillTime := time, availableTokens := tokens } }) :
    Keeps holds (refillTokens env) := by
  refine keeps_bind keeps_engine fun _ => ?_
  refine keeps_bind (keeps_update fun p => kept p _ p.engine.availableTokens) fun _ => ?_
  refine keeps_bind (keeps_lift _) fun _ => keeps_bind (keeps_lift _) fun _ => ?_
  exact keeps_update fun p => kept p p.engine.lastRefillTime _

/-- `allowRateLimit` keeps what assignments of the token bucket and of its refusals keep. -/
theorem keeps_limiter {holds : Process → Prop}
    (kept : ∀ p time tokens refused, holds p → holds { p with
      engine :=
        { p.engine with
          lastRefillTime := time
          availableTokens := tokens
          rateLimitedRequests := refused } })
    (count : JsNum) : Keeps holds (allowRateLimit env count) := by
  have refill : Keeps holds (refillTokens env) :=
    keeps_refillTokens env fun p time tokens => kept p time tokens p.engine.rateLimitedRequests
  refine keeps_bind refill fun _ => keeps_bind keeps_engine fun _ => keeps_ite ?_ ?_
  · refine keeps_bind (keeps_update fun p => ?_) fun _ => ?_
    · exact kept p p.engine.lastRefillTime _ p.engine.rateLimitedRequests
    · exact keeps_bind (keeps_emit _) fun _ => keeps_pure _
  · refine keeps_bind (keeps_update fun p => ?_) fun _ => ?_
    · exact kept p p.engine.lastRefillTime p.engine.availableTokens _
    · exact keeps_bind (keeps_emit _) fun _ => keeps_pure _

/-- `getMetrics` changes the token bucket only. -/
theorem keeps_getMetrics {value : Process} :
    Keeps (fun p => p.exceptTokens = value) (getMetrics env) := by
  refine keeps_bind (keeps_refillTokens env fun _ _ _ held => held) fun _ => ?_
  exact keeps_bind keeps_engine fun _ => keeps_bind (keeps_lift _) fun _ => keeps_pure _

/-- `updateConfig` changes the configuration and restarts the ticker only. -/
theorem keeps_updateConfig {value : Process} (cfg : JsValue) :
    Keeps (fun p => p.exceptConfig = value) (updateConfig env cfg) := by
  have assign {change : Engine → Engine}
      (same : ∀ p : Process, ({ p with engine := change p.engine } : Process).exceptConfig =
        p.exceptConfig) : Keeps (fun p => p.exceptConfig = value) (update change) :=
    keeps_update fun p held => (same p).trans held
  have field {name : String} {low high : JsNum} {change : JsNum → Engine → Engine}
      {afterwards : Js Unit} (same : ∀ (p : Process) value,
        ({ p with engine := change value p.engine } : Process).exceptConfig = p.exceptConfig)
      (rest : Keeps (fun p => p.exceptConfig = value) afterwards) :
      Keeps (fun p => p.exceptConfig = value)
        (assignClamped cfg name low high change afterwards) := by
    refine keeps_bind (keeps_lift _) fun _ => keeps_ite ?_ (keeps_pure ())
    exact keeps_bind (keeps_lift _) fun given => keeps_bind (assign (same · _)) fun _ => rest
  have nothing : Keeps (fun p => p.exceptConfig = value) (pure () : Js Unit) := keeps_pure ()
  refine keeps_bind (field (fun _ _ => rfl) nothing) fun _ => ?_
  refine keeps_bind (field (fun _ _ => rfl) nothing) fun _ => ?_
  refine keeps_bind (field (fun _ _ => rfl) nothing) fun _ => ?_
  refine keeps_bind (field (fun _ _ => rfl) fun _ held => held) fun _ => ?_
  refine keeps_bind ?_ fun _ => keeps_bind ?_ fun _ => keeps_addLog fun _ _ held => held
  · exact keeps_bind (keeps_lift _) fun _ => keeps_onlyIf (assign fun _ => rfl)
  · refine keeps_bind (keeps_lift _) fun _ => keeps_ite ?_ (keeps_pure ())
    refine keeps_bind (assign fun _ => rfl) fun _ => ?_
    exact keeps_bind (keeps_lift _) fun _ => assign fun _ => rfl

section Ingest

variable {value : Process}

/-- An assignment that the view of an ingestion forgets. -/
theorem keeps_ingest {change : Engine → Engine}
    (same : ∀ p : Process, ({ p with engine := change p.engine } : Process).exceptIngest =
      p.exceptIngest) : Keeps (fun p => p.exceptIngest = value) (update change) :=
  keeps_update fun p held => (same p).trans held

/-- `recordLatency` changes what an ingestion assigns only. -/
theorem keeps_recordLatency (ms : ℚ) :
    Keeps (fun p => p.exceptIngest = value) (recordLatency ms) := by
  refine keeps_bind (keeps_ingest fun _ => rfl) fun _ => keeps_bind keeps_engine fun _ => ?_
  exact keeps_onlyIf (keeps_ingest fun _ => rfl)

/-- `allowRateLimit` changes what an ingestion assigns only. -/
theorem keeps_allowRateLimit (count : JsNum) :
    Keeps (fun p => p.exceptIngest = value) (allowRateLimit env count) :=
  keeps_limiter env (fun _ _ _ _ held => held) count

/-- The loop of `ingestBatch` changes what an ingestion assigns only. -/
theorem keeps_ingestEvents (events : List JsValue) (index accepted dropped : Nat) :
    Keeps (fun p => p.exceptIngest = value) (ingestEvents env events index accepted dropped) := by
  induction events generalizing index accepted dropped with
  | nil => exact keeps_pure _
  | cons event rest ih =>
    refine keeps_bind (keeps_lift _) fun _ => keeps_bind keeps_engine fun _ => keeps_ite ?_ ?_
    · refine keeps_bind (keeps_ingest fun _ => rfl) fun _ => ?_
      refine keeps_bind (keeps_ingest fun _ => rfl) fun _ => ?_
      exact keeps_bind (keeps_emit _) fun _ => ih _ _ _
    · exact keeps_bind (keeps_ingest fun _ => rfl) fun _ => ih _ _ _

/-- `ingestBatch` changes what an ingestion assigns only. -/
theorem keeps_ingestBatch (events : List JsValue) :
    Keeps (fun p => p.exceptIngest = value) (ingestBatch env events) := by
  refine keeps_bind (keeps_ingest fun _ => rfl) fun _ => ?_
  refine keeps_bind (keeps_allowRateLimit env _) fun _ => keeps_ite ?_ ?_
  · exact keeps_bind (keeps_ingest fun _ => rfl) fun _ => keeps_pure _
  · refine keeps_bind (keeps_ingestEvents env _ _ _ _) fun _ => ?_
    refine keeps_bind (keeps_recordLatency _) fun _ => keeps_bind (keeps_emit _) fun _ => ?_
    exact keeps_pure _

/-- `ingestSingle` changes what an ingestion assigns only. -/
theorem keeps_ingestSingle (event : JsValue) :
    Keeps (fun p => p.exceptIngest = value) (ingestSingle env event) := by
  refine keeps_bind (keeps_ingest fun _ => rfl) fun _ => ?_
  refine keeps_bind (keeps_allowRateLimit env _) fun _ => keeps_ite (keeps_pure _) ?_
  refine keeps_bind (keeps_lift _) fun _ => keeps_ite (keeps_pure _) ?_
  refine keeps_bind (keeps_lift _) fun _ => keeps_bind keeps_engine fun _ => keeps_ite ?_ ?_
  · refine keeps_bind (keeps_ingest fun _ => rfl) fun _ => ?_
    exact keeps_bind (keeps_addLog fun _ _ held => held) fun _ => keeps_pure _
  · refine keeps_bind (keeps_ingest fun _ => rfl) fun _ => ?_
    refine keeps_bind (keeps_ingest fun _ => rfl) fun _ => keeps_bind (keeps_emit _) fun _ => ?_
    refine keeps_bind (keeps_recordLatency _) fun _ => keeps_bind (keeps_emit _) fun _ => ?_
    exact keeps_pure _

/-- The tick of the load test changes what an ingestion assigns only. -/
theorem keeps_loadTestTick (eventsPerTick : JsNum) :
    Keeps (fun p => p.exceptIngest = value) (loadTestTick env eventsPerTick) := by
  refine keeps_bind keeps_engine fun _ => keeps_ite (keeps_pure ()) ?_
  refine keeps_bind (keeps_lift _) fun _ => ?_
  exact keeps_bind (keeps_ingestBatch env _) fun _ => keeps_pure _

end Ingest

/-! ### Requests and callbacks -/

section Parts

variable {holds : Process → Prop}

/-- `stopLoadTest` keeps what assignments of the load test and of the log keep, and the end of a
timer. -/
theorem keeps_stopLoadTest
    (assigned : ∀ p logs active timer, holds p → holds { p with
      engine :=
        { p.engine with
          recentLogs := logs
          loadTestActive := active
          loadTestTimer := timer } })
    (cleared : ∀ handle, Keeps holds (clearTimer handle)) : Keeps holds (stopLoadTest env) := by
  have log {level : LogLevel} {msg caller : String} {fields : JsValue} :
      Keeps holds (addLog env level msg caller fields) :=
    keeps_addLog fun p logs => assigned p logs p.engine.loadTestActive p.engine.loadTestTimer
  refine keeps_bind (keeps_update fun p => ?_) fun _ => keeps_bind keeps_engine fun _ => ?_
  · exact assigned p p.engine.recentLogs false p.engine.loadTestTimer
  · refine keeps_bind (cleared _) fun _ => keeps_bind (keeps_update fun p => ?_) fun _ => log
    exact assigned p p.engine.recentLogs p.engine.loadTestActive none

/-- `simulateGracefulShutdown` leaves what its parts keep, once its flag is set. -/
theorem leaves_shutdown
    (assigned : ∀ p logs buffer queue, holds p → holds { p with
      engine :=
        { p.engine with
          recentLogs := logs
          batchBuffer := buffer
          queue := queue } })
    (stop : Keeps holds (stopLoadTest env))
    (flush : Keeps holds (triggerFlush env .gracefulShutdown))
    (reset : Keeps holds (setTimer .reset 2000 none)) {p : Process}
    (held : holds { p with engine := { p.engine with isShuttingDown := true } }) :
    holds ((simulateGracefulShutdown env).run p).state := by
  have log {level : LogLevel} {msg caller : String} {fields : JsValue} :
      Keeps holds (addLog env level msg caller fields) :=
    keeps_addLog fun p logs => assigned p logs p.engine.batchBuffer p.engine.queue
  have buffered :
      Keeps holds (update fun e => { e with batchBuffer := e.batchBuffer ++ e.queue }) :=
    keeps_update fun p => assigned p p.engine.recentLogs _ p.engine.queue
  have emptied : Keeps holds (update fun e => { e with queue := [] }) :=
    keeps_update fun p => assigned p p.engine.recentLogs p.engine.batchBuffer []
  refine leaves_bind held fun _ => keeps_bind stop fun _ => keeps_bind keeps_engine fun _ => ?_
  refine keeps_bind log fun _ => keeps_bind (keeps_lift _) fun _ => keeps_bind buffered fun _ => ?_
  refine keeps_bind (keeps_emit _) fun _ => keeps_bind emptied fun _ => ?_
  refine keeps_bind keeps_engine fun _ => keeps_bind flush fun _ => keeps_bind log fun _ => ?_
  exact keeps_bind reset fun _ => keeps_pure _

end Parts

section Actions

variable {holds : Process → Prop} (ingest : ∀ p : Process, holds p.exceptIngest ↔ holds p)

include ingest

/-- A request keeps what does not depend on an ingestion, if it is kept by the other methods. -/
theorem keeps_request (request : Request)
    (start : ∀ targetRps scenario, request = .startLoadTest targetRps scenario →
      Keeps holds (startLoadTest env targetRps scenario))
    (stop : Keeps holds (stopLoadTest env))
    (config : ∀ cfg, request = .updateConfig cfg → Keeps holds (updateConfig env cfg))
    (shutdown : request = .simulateGracefulShutdown →
      Keeps holds (simulateGracefulShutdown env)) : Keeps holds (request.call env) := by
  have tokens (p : Process) : holds p.exceptTokens ↔ holds p :=
    (ingest p.exceptTokens).symm.trans (ingest p)
  cases request with
  | ingestSingle event =>
    refine keeps_bind ?_ fun _ => keeps_emit _
    exact keeps_of_view Process.exceptIngest ingest fun _ => keeps_ingestSingle env event
  | ingestBatch events =>
    refine keeps_bind ?_ fun _ => keeps_emit _
    exact keeps_of_view Process.exceptIngest ingest fun _ => keeps_ingestBatch env events
  | getMetrics =>
    refine keeps_bind ?_ fun _ => keeps_emit _
    exact keeps_of_view Process.exceptTokens tokens fun _ => keeps_getMetrics env
  | startLoadTest targetRps scenario => exact start targetRps scenario rfl
  | stopLoadTest => exact stop
  | updateConfig cfg => exact config cfg rfl
  | simulateGracefulShutdown => exact keeps_bind (shutdown rfl) fun _ => keeps_emit _

/-- A callback keeps what does not depend on an ingestion, if it is kept by the other timers. -/
theorem keeps_callback (task : Task) (workers : task = .workers → Keeps holds (workerTick env))
    (release : task = .release → Keeps holds releaseWorkers)
    (flush : task = .flush → Keeps holds (flushTick env))
    (metrics : Keeps holds metricsTick)
    (reset : task = .reset → Keeps holds resetShutdown) : Keeps holds (task.callback env) := by
  cases task with
  | loadTest eventsPerTick =>
    exact keeps_of_view Process.exceptIngest ingest fun _ => keeps_loadTestTick env eventsPerTick
  | workers => exact workers rfl
  | release => exact release rfl
  | flush => exact flush rfl
  | metrics => exact metrics
  | reset => exact reset rfl

end Actions

end IngestionEngine.Server
