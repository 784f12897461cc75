import IngestionEngine.Server.Core

/-!
# What the methods make of the core

Each method of the engine makes the changes of the core that were said to be its own, and shows
what these show. So every step of the process is a few changes, and every run a run of the core.
-/

namespace IngestionEngine.Server

open Systems Program

section Methods

variable (env : Env) (p : Process)

/-- A refill. -/
theorem run_refillTokens : (refillTokens env).run p =
    match p.core.tokensAt env.clock with
    | .ok tokens =>
      ⟨{ p with engine :=
          { p.engine with lastRefillTime := env.clock, availableTokens := tokens } }, [], .ok ()⟩
    | .error thrown =>
      ⟨{ p with engine := { p.engine with lastRefillTime := env.clock } }, [], .error thrown⟩ := by
  simp only [refillTokens, run_bind, run_engine, run_update, run_lift, andThen_ok,
    Core.tokensAt, Process.core, Engine.core]
  cases p.engine.rateLimitRps.toNumber with
  | error thrown => rfl
  | ok rps =>
    cases p.engine.rateLimitBurst.toNumber with
    | error thrown => rfl
    | ok burst => rfl

/-- A refill that throws sets its time only. -/
theorem refillTokens_touches {thrown : JsError}
    (failed : p.core.tokensAt env.clock = .error thrown) :
    Makes (refillTokens env) p [.touch env.clock] (.error thrown) := by
  have ran := run_refillTokens env p
  rw [failed] at ran
  refine ⟨System.exec_one trivial ?_, by rw [ran]⟩
  simp only [coreSystem, Core.step, failed, ran]
  rfl

/-- A refill with rates that are numbers. -/
theorem refillTokens_refills {tokens : JsNum} (looked : p.core.tokensAt env.clock = .ok tokens) :
    Makes (refillTokens env) p [.refill env.clock] (.ok ()) := by
  have ran := run_refillTokens env p
  rw [looked] at ran
  refine ⟨System.exec_one trivial ?_, by rw [ran]⟩
  simp only [coreSystem, Core.step, looked, ran]
  rfl

/-- The tokens after a refill. -/
theorem refillTokens_tokens {tokens : JsNum} (looked : p.core.tokensAt env.clock = .ok tokens) :
    ((refillTokens env).run p).state.engine.availableTokens = tokens := by
  rw [run_refillTokens, looked]

/-- The limiter. -/
theorem allowRateLimit_makes (count : JsNum) : ∃ changes result,
    Makes (allowRateLimit env count) p changes result ∧
      Limits p.core env.clock count changes result := by
  cases looked : p.core.tokensAt env.clock with
  | error thrown =>
    exact ⟨_, _, (refillTokens_touches env p looked).stop, .throws looked⟩
  | ok tokens =>
    have refilled := refillTokens_refills env p looked
    obtain rfl := refillTokens_tokens env p looked
    obtain ⟨q, left⟩ := refilled.leaves
    rw [left] at looked
    by_cases fits : count.le q.engine.availableTokens = true
    · refine ⟨_, _, refilled.bind ?_, .admitted looked fits⟩
      rw [left]
      apply Performs.of_run
      · simp only [run_bind, run_engine, run_update, run_emit, run_pure, andThen_ok, after_mk,
          if_pos fits]
        rfl
      · exact if_pos fits
    · refine ⟨_, _, refilled.bind ?_, .refused looked (Bool.eq_false_of_not_eq_true fits)⟩
      rw [left]
      apply Performs.of_run
      · simp only [run_bind, run_engine, run_update, run_emit, run_pure, andThen_ok, after_mk,
          if_neg fits]
        rfl
      · exact if_neg fits

/-- The limiter leaves the queue and its capacity alone. -/
theorem keeps_room (count : JsNum) (value : List TelemetryEvent × JsNum) :
    Keeps (fun p => (p.engine.queue, p.engine.channelCapacity) = value)
      (allowRateLimit env count) :=
  keeps_limiter env (fun _ _ _ _ held => held) count

/-- The latencies with one more sample. -/
def pushLatency (ms : ℚ) (latencies : List ℚ) : List ℚ :=
  if 500 < (latencies ++ [ms]).length then (latencies ++ [ms]).tail else latencies ++ [ms]

/-- What `recordLatency` does. -/
@[simp] theorem run_recordLatency (ms : ℚ) : (recordLatency ms).run p =
    ⟨{ p with engine := { p.engine with latencies := pushLatency ms p.engine.latencies } },
      [], .ok ()⟩ := by
  simp only [recordLatency, run_bind, run_update, run_engine, run_onlyIf, andThen_ok]
  by_cases full : 500 < (p.engine.latencies ++ [ms]).length
  · simp only [pushLatency, if_pos full]
    rfl
  · simp only [pushLatency, if_neg full]
    rfl

/-- An event that is not rejected is an object with a service and a message. -/
theorem valid_object {event : JsValue} (valid : invalid event = .ok false) :
    ∃ ev, event.asObject = .ok ev ∧ (ev.get "service").truthy = true ∧
      (ev.get "message").truthy = true := by
  unfold invalid at valid
  cases event with
  | undefined | null | bool | num | str => cases valid
  | arr items | obj members =>
    refine ⟨_, rfl, ?_⟩
    simp only [JsValue.get, JsValue.asObject, Except.map, bind, Except.bind, pure, Except.pure]
      at valid
    split at valid
    · rename_i service
      exact ⟨service, by simpa using valid⟩
    · contradiction

/-- `ingestSingle` -/
theorem ingestSingle_makes (event : JsValue) : ∃ changes result,
    Makes (ingestSingle env event) p changes result ∧
      SingleMakes p.core env event changes result := by
  have counted : Makes (update fun e =>
      { e with rpsCounter := e.rpsCounter + 1, epsCounter := e.epsCounter + 1 }) p [] (.ok ()) :=
    .silent rfl rfl
  obtain ⟨changes, result, limited, limits⟩ := allowRateLimit_makes env
    ((update fun e =>
      { e with rpsCounter := e.rpsCounter + 1, epsCounter := e.epsCounter + 1 }).run p).state 1
  cases result with
  | error thrown => exact ⟨_, _, counted.bind limited.stop, .throws limits⟩
  | ok allowed =>
    cases allowed with
    | false => exact ⟨_, _, counted.bind (limited.andSilent ⟨rfl, rfl⟩), .refused limits⟩
    | true =>
      cases found : invalid event with
      | error thrown =>
        refine ⟨_, .error thrown, counted.bind (limited.andSilent ?_), .unreadable limits⟩
        rw [found]
        exact ⟨rfl, rfl⟩
      | ok rejected =>
        cases rejected with
        | true =>
          refine ⟨_, _, counted.bind (limited.andSilent ?_), .rejected limits⟩
          rw [found]
          exact ⟨rfl, rfl⟩
        | false =>
          obtain ⟨ev, read, service, message⟩ := valid_object found
          obtain ⟨q, left⟩ := limited.leaves
          by_cases full : q.engine.channelCapacity.le (.ofNat q.engine.queue.length) = true
          · refine ⟨_, _, counted.bind (limited.bind ?_), .dropped limits⟩
            rw [left]
            apply Performs.of_run
            · simp only [Bool.not_true, Bool.false_eq_true, if_false, found, read, run_bind,
                run_lift, run_engine, andThen_ok, if_pos full, run_update, run_addLog, run_pure,
                after_mk]
              rfl
            · rfl
          · refine ⟨_, _, counted.bind (limited.bind ?_), .accepted limits read service message⟩
            rw [left]
            apply Performs.of_run
            · simp only [Bool.not_true, Bool.false_eq_true, if_false, found, read, run_bind,
                run_lift, run_engine, andThen_ok, if_neg full, run_update, run_recordLatency,
                run_pure, run_emit, after_mk]
              rfl
            · rfl

/-- The loop of `ingestBatch`. -/
theorem ingestEvents_makes (events : List JsValue) (index accepted dropped : Nat) {length : Nat}
    (queued : p.engine.queue.length = length) : ∃ result,
    Makes (ingestEvents env events index accepted dropped) p
        (batchChanges env p.engine.channelCapacity events index length) result ∧
      ∀ counts, result = .ok counts →
        (batchChanges env p.engine.channelCapacity events index length).length =
          events.length := by
  induction events generalizing index accepted dropped length p with
  | nil => exact ⟨.ok (accepted, dropped), ⟨rfl, rfl⟩, fun _ _ => rfl⟩
  | cons event rest ih =>
    rw [batchChanges]
    cases read : event.asObject with
    | error thrown =>
      refine ⟨.error thrown, ?_, nofun⟩
      rw [ingestEvents, read]
      exact ⟨rfl, rfl⟩
    | ok ev =>
      dsimp only
      by_cases room : (JsNum.ofNat length).lt p.engine.channelCapacity = true
      · rw [if_pos room]
        have longer : (p.engine.queue ++ [batchEvent env index ev]).length = length + 1 := by
          rw [List.length_append, queued, List.length_singleton]
        obtain ⟨result, makes, whole⟩ := ih { p with engine := { p.engine with
          queue := p.engine.queue ++ [batchEvent env index ev]
          totalAccepted := p.engine.totalAccepted + 1 } } (index + 1) (accepted + 1) dropped longer
        refine ⟨result, .goes_on [.pushed env.clock (batchEvent env index ev)] ?_ rfl makes,
          fun counts ended => ?_⟩
        · subst queued
          simp only [ingestEvents, run_bind, run_lift, read, run_engine, andThen_ok, if_pos room,
            run_update, run_emit]
          rfl
        · rw [List.length_cons, whole counts ended, List.length_cons]
      · rw [if_neg room]
        obtain ⟨result, makes, whole⟩ := ih { p with engine := { p.engine with
          totalDropped := p.engine.totalDropped + 1 } } (index + 1) accepted (dropped + 1) queued
        refine ⟨result, .goes_on [] ?_ rfl makes, fun counts ended => ?_⟩
        · subst queued
          simp only [ingestEvents, run_bind, run_lift, read, run_engine, andThen_ok, if_neg room,
            run_update]
          rfl
        · rw [List.length_cons, whole counts ended, List.length_cons]

/-- The loop makes only pushes and drops. -/
theorem batchChanges_each {env : Env} (kind : Change → Prop) (drop : kind .drop)
    (push : ∀ record, kind (.push env.clock record)) (capacity : JsNum) (events : List JsValue)
    (index length : Nat) : ∀ change ∈ batchChanges env capacity events index length,
      kind change := by
  induction events generalizing index length with
  | nil => exact List.forall_mem_nil _
  | cons event rest ih =>
    rw [batchChanges]
    cases event.asObject with
    | error thrown => exact List.forall_mem_nil _
    | ok ev =>
      dsimp only
      split
      · exact List.forall_mem_cons.mpr ⟨push _, ih _ _⟩
      · exact List.forall_mem_cons.mpr ⟨drop, ih _ _⟩

/-- A latency changes nothing in the core. -/
theorem recordLatency_makes (ms : ℚ) : Makes (recordLatency ms) p [] (.ok ()) :=
  ⟨by rw [run_recordLatency]; rfl, by rw [run_recordLatency]⟩

/-- Neither does a log entry. -/
theorem addLog_makes (level : LogLevel) (msg caller : String) (fields : JsValue) :
    Makes (addLog env level msg caller fields) p [] (.ok ()) :=
  ⟨by rw [run_addLog]; rfl, by rw [run_addLog]⟩

/-- `ingestBatch` -/
theorem ingestBatch_makes (events : List JsValue) : ∃ changes result,
    Makes (ingestBatch env events) p changes result ∧
      BatchMakes p.core env p.engine.channelCapacity events changes result := by
  have counted : Makes (update fun e => { e with
      rpsCounter := e.rpsCounter + 1, epsCounter := e.epsCounter + events.length }) p [] (.ok ()) :=
    .silent rfl rfl
  obtain ⟨changes, result, limited, limits⟩ := allowRateLimit_makes env
    ((update fun e => { e with
      rpsCounter := e.rpsCounter + 1, epsCounter := e.epsCounter + events.length }).run p).state
    (batchCost events.length)
  cases result with
  | error thrown => exact ⟨_, _, counted.bind limited.stop, .throws limits⟩
  | ok allowed =>
    obtain ⟨q, left⟩ := limited.leaves
    cases allowed with
    | false => exact ⟨_, _, counted.bind (limited.bind ⟨rfl, rfl⟩), .refused limits⟩
    | true =>
      have same : (q.engine.queue, q.engine.channelCapacity) =
          (p.engine.queue, p.engine.channelCapacity) := by
        rw [← left]
        exact view_kept (fun value => keeps_room env (batchCost events.length) value) _
      obtain ⟨queued, capacity⟩ := Prod.mk.inj same
      obtain ⟨ended, loops, whole⟩ := ingestEvents_makes env q events 0 0 0
        (congrArg List.length queued)
      rw [capacity] at loops whole
      cases ended with
      | error thrown =>
        refine ⟨_, .error thrown, counted.bind (limited.bind ?_), .broken limits⟩
        rw [left]
        exact loops.stop
      | ok counts =>
        obtain ⟨accepted, dropped⟩ := counts
        refine ⟨_, .ok ⟨events.length, accepted, dropped, false⟩,
          counted.bind (limited.bind ?_), .admitted limits (whole _ rfl)⟩
        rw [left]
        exact loops.andSilent ((recordLatency_makes _ _).andSilent ⟨rfl, rfl⟩)

/-- `triggerFlush` -/
theorem triggerFlush_makes (reason : FlushReason) : ∃ changes,
    Makes (triggerFlush env reason) p changes (.ok ()) ∧
      (changes = [] ∨ changes = [.flush env reason]) := by
  by_cases empty : p.engine.batchBuffer.length = 0
  · refine ⟨[], ?_, .inl rfl⟩
    apply Performs.silent_run
    · simp only [triggerFlush, run_bind, run_engine, andThen_ok, if_pos empty]
      rfl
    · rfl
    · rfl
  · have shows : coreSystem.step p.core (.flush env reason) = some (_, _) := if_neg empty
    refine ⟨_, ?_, .inr rfl⟩
    by_cases fails : env.failure.val < 1 / 10000
    · apply Performs.of_run
      · simp only [triggerFlush, run_bind, run_engine, andThen_ok, if_neg empty, run_update,
          if_pos fails, run_emit, run_addLog, after_mk]
        rfl
      · rw [shows, decide_eq_true fails]
        rfl
    · apply Performs.of_run
      · simp only [triggerFlush, run_bind, run_engine, andThen_ok, if_neg empty, run_update,
          if_neg fails, run_emit, run_addLog, after_mk]
        rfl
      · rw [shows, decide_eq_false fails]
        rfl

/-- A flush that depends on a condition. -/
theorem onlyIf_triggerFlush_makes (condition : Prop) [Decidable condition] (reason : FlushReason) :
    ∃ changes, Makes (onlyIf condition (triggerFlush env reason)) p changes (.ok ()) ∧
      (changes = [] ∨ changes = [.flush env reason]) := by
  unfold onlyIf
  split
  · exact triggerFlush_makes env p reason
  · exact ⟨[], ⟨rfl, rfl⟩, .inl rfl⟩

/-- The tick of the workers. -/
theorem workerTick_makes : ∃ changes, Makes (workerTick env) p changes (.ok ()) ∧
    (changes = [] ∨ ∃ count flushes, changes = .move env.clock count :: flushes ∧
      (flushes = [] ∨ flushes = [.flush env .countThreshold])) := by
  by_cases ticks : p.engine.Ticks
  · obtain ⟨flushes, flushed, flushing⟩ := onlyIf_triggerFlush_makes env
      { p with engine := p.engine.moved }
      (p.engine.moved.batchThreshold.le (.ofNat p.engine.moved.batchBuffer.length) = true)
      .countThreshold
    refine ⟨_, .goes_on _ (run_workerTick_moves env ticks) ?_ (flushed.andSilent ⟨rfl, rfl⟩),
      .inr ⟨p.engine.chunkSize.spliceCount p.engine.queue.length, flushes, rfl, flushing⟩⟩
    rfl
  · have ran := run_workerTick_idle env ticks
    exact ⟨[], ⟨by rw [ran]; rfl, by rw [ran]⟩, .inl rfl⟩

/-- The tick of `startBatchTicker`. -/
theorem flushTick_makes : ∃ changes, Makes (flushTick env) p changes (.ok ()) ∧
    (changes = [] ∨ changes = [.flush env .windowTimeout]) := by
  obtain ⟨changes, flushed, flushing⟩ := onlyIf_triggerFlush_makes env p
    (0 < p.engine.batchBuffer.length ∧
      p.engine.batchFlushWindowMs.le (.fin (env.clock - p.engine.lastFlushTime : Int)) = true)
    .windowTimeout
  have looked : Makes engine p [] (.ok p.engine) := ⟨rfl, rfl⟩
  exact ⟨changes, looked.bind flushed, flushing⟩

/-- `getMetrics` -/
theorem getMetrics_makes : ∃ changes result, Makes (getMetrics env) p changes result ∧
    (changes = [.touch env.clock] ∨ changes = [.refill env.clock]) := by
  cases looked : p.core.tokensAt env.clock with
  | error thrown => exact ⟨_, _, (refillTokens_touches env p looked).stop, .inl rfl⟩
  | ok tokens =>
    have refilled := refillTokens_refills env p looked
    obtain ⟨q, left⟩ := refilled.leaves
    refine ⟨_, _, refilled.andSilent (.silent ?_ ?_), .inr rfl⟩
    · simp only [left, run_bind, run_engine, run_lift, andThen_ok]
      cases q.engine.rateLimitBurst.toNumber <;> rfl
    · simp only [left, run_bind, run_engine, run_lift, andThen_ok]
      cases q.engine.rateLimitBurst.toNumber <;> rfl

/-- An assignment of other fields comes first. -/
theorem update_then {α : Type} {change : Engine → Engine} {next : Unit → Js α} {p : Process}
    {changes : List Change} {result : Except JsError α} (same : ∀ e, (change e).core = e.core)
    (later : Makes (next ()) ((update change).run p).state changes result) :
    Makes (update change >>= next) p changes result := by
  have first : Makes (update change) p [] (.ok ()) := .silent (same p.engine) rfl
  exact first.bind later

/-- The engine is read first. -/
theorem engine_then {α : Type} {next : Engine → Js α} {p : Process} {changes : List Change}
    {result : Except JsError α} (later : Makes (next p.engine) p changes result) :
    Makes (engine >>= next) p changes result := by
  have first : Makes engine p [] (.ok p.engine) := ⟨rfl, rfl⟩
  exact first.bind later

/-- `stopLoadTest` -/
theorem stopLoadTest_makes : Makes (stopLoadTest env) p [] (.ok ()) := by
  apply Performs.silent_run
  · simp only [stopLoadTest, run_bind, run_update, run_engine, run_clearTimer, run_addLog,
      andThen_ok, after_mk]
    rfl
  · rfl
  · rfl

/-- `startLoadTest` -/
theorem startLoadTest_makes (targetRps : JsNum) (scenario : String) :
    Makes (startLoadTest env targetRps scenario) p [] (.ok ()) := by
  apply Performs.silent_run
  · simp only [startLoadTest, stopLoadTest, run_bind, run_update, run_engine, run_clearTimer,
      run_addLog, run_setTimer, andThen_ok, after_mk]
    rfl
  · rfl
  · rfl

/-- The queue goes into the buffer. -/
theorem drainQueue_makes {α : Type} {next : Js α} {changes : List Change}
    {result : Except JsError α} {queue : List TelemetryEvent} (same : queue = p.engine.queue)
    (later : Makes next { p with engine := { p.engine with
      batchBuffer := p.engine.batchBuffer ++ p.engine.queue, queue := [] } } changes result) :
    Makes (do
      update fun e => { e with batchBuffer := e.batchBuffer ++ e.queue }
      emit (.drained env.clock queue)
      update fun e => { e with queue := [] }
      next) p (.drain env.clock :: changes) result := by
  subst same
  exact .goes_on [.drained env.clock p.engine.queue] rfl rfl later

/-- `simulateGracefulShutdown` -/
theorem shutdown_makes : ∃ changes result,
    Makes (simulateGracefulShutdown env) p changes result ∧
      ((changes = [] ∧ result = .error .rangeError) ∨ ∃ flushes report,
        changes = .drain env.clock :: flushes ∧ result = .ok report ∧
          (flushes = [] ∨ flushes = [.flush env .gracefulShutdown])) := by
  have stopped := stopLoadTest_makes env
    ((update fun e => { e with isShuttingDown := true }).run p).state
  obtain ⟨q, left⟩ := stopped.leaves
  by_cases spread : env.spreadLimit < q.engine.queue.length
  · refine ⟨[], .error .rangeError, ?_, .inl ⟨rfl, rfl⟩⟩
    refine update_then (fun _ => rfl) ?_
    refine stopped.bind ?_
    rw [left]
    refine engine_then ?_
    refine (addLog_makes env q _ _ _ _).bind ?_
    simp only [if_pos spread]
    exact ⟨rfl, rfl⟩
  · have logged := addLog_makes env q .warn
      "Caught SIGTERM signal; beginning graceful channel draining" "main.SignalHandler"
      (.obj [("signal", .str "SIGTERM"), ("queue_items_pending", .nat q.engine.queue.length),
        ("buffer_items_pending", .nat q.engine.batchBuffer.length)])
    obtain ⟨r, kept⟩ := logged.leaves
    have same : q.engine.queue = r.engine.queue := by
      rw [← kept, run_addLog]
    have lifted : Makes (lift (.ok ()) : Js Unit) r [] (.ok ()) := ⟨rfl, rfl⟩
    obtain ⟨flushes, flushed, flushing⟩ := triggerFlush_makes env
      { r with engine := { r.engine with
        batchBuffer := r.engine.batchBuffer ++ r.engine.queue, queue := [] } } .gracefulShutdown
    let report : ShutdownReport := {
      drainedQueue := q.engine.queue.length
      flushedBatch := (r.engine.batchBuffer ++ r.engine.queue).length
      shutdownDurationMs := JsNum.roundTo 2 env.shutdownDuration
      exitCode := 0 }
    refine ⟨_, .ok report, ?_, .inr ⟨flushes, report, rfl, rfl, flushing⟩⟩
    refine update_then (fun _ => rfl) ?_
    refine stopped.bind ?_
    rw [left]
    refine engine_then ?_
    refine logged.bind ?_
    rw [kept]
    simp only [if_neg spread]
    refine lifted.bind ?_
    refine drainQueue_makes env r same ?_
    refine engine_then ?_
    refine flushed.andSilent ?_
    refine (addLog_makes env _ _ _ _ _).bind ?_
    exact ⟨rfl, rfl⟩

/-- A field of the configuration between two bounds is not in the core. -/
theorem assignClamped_takes {permits : Change → Prop} {cfg : JsValue} {name : String}
    {low high : JsNum} {assign : JsNum → Engine → Engine} {afterwards : Js Unit}
    (same : ∀ value e, (assign value e).core = e.core)
    (rest : Takes coreSystem Process.core Obs.core permits afterwards) :
    Takes coreSystem Process.core Obs.core permits
      (assignClamped cfg name low high assign afterwards) := by
  refine takes_lift_bind fun given _ => takes_ite (fun _ => ?_) (takes_pure ())
  refine takes_lift_bind fun value _ => takes_bind ?_ fun _ => rest
  exact takes_silent (fun p => same _ p.engine) fun _ => rfl

/-- `updateConfig` -/
theorem updateConfig_takes (cfg : JsValue) :
    Takes coreSystem Process.core Obs.core (Configures cfg) (updateConfig env cfg) := by
  have ticker : Takes coreSystem Process.core Obs.core (Configures cfg) startBatchTicker :=
    takes_silent (fun _ => rfl) fun _ => rfl
  refine takes_bind (assignClamped_takes (fun _ _ => rfl) (takes_pure ())) fun _ => ?_
  refine takes_bind (assignClamped_takes (fun _ _ => rfl) (takes_pure ())) fun _ => ?_
  refine takes_bind (assignClamped_takes (fun _ _ => rfl) (takes_pure ())) fun _ => ?_
  refine takes_bind (assignClamped_takes (fun _ _ => rfl) ticker) fun _ => ?_
  refine takes_bind ?_ fun _ => takes_bind ?_ fun _ => ?_
  · refine takes_lift_bind fun given found => ?_
    exact takes_ite (fun set => takes_one (.rps found set) fun _ => rfl) (takes_pure ())
  · refine takes_lift_bind fun given found => takes_ite (fun set => ?_) (takes_pure ())
    refine takes_bind (takes_one (.burst found set) fun _ => rfl) fun _ => ?_
    exact takes_lift_bind fun value number =>
      takes_one (.cap found set number) fun _ => rfl
  · refine takes_silent (fun p => ?_) fun p => ?_
    · rw [run_addLog]
      rfl
    · rw [run_addLog]
      rfl

/-- Every request makes what it may make. -/
theorem request_makes (request : Request) : ∃ changes result,
    Makes (request.call env) p changes result ∧
      RequestMakes p.engine env request changes result := by
  cases request with
  | ingestSingle event =>
    obtain ⟨changes, result, makes, shape⟩ := ingestSingle_makes env p event
    cases result with
    | error thrown => exact ⟨_, _, makes.stop, .singleThrows shape⟩
    | ok result => exact ⟨_, _, makes.bind ⟨rfl, rfl⟩, .single shape⟩
  | ingestBatch events =>
    obtain ⟨changes, result, makes, shape⟩ := ingestBatch_makes env p events
    cases result with
    | error thrown => exact ⟨_, _, makes.stop, .batchThrows shape⟩
    | ok result => exact ⟨_, _, makes.bind ⟨rfl, rfl⟩, .batch shape⟩
  | getMetrics =>
    obtain ⟨changes, result, makes, shape⟩ := getMetrics_makes env p
    cases result with
    | error thrown => exact ⟨_, _, makes.stop, .metricsThrows shape⟩
    | ok result => exact ⟨_, _, makes.bind ⟨rfl, rfl⟩, .metrics shape⟩
  | startLoadTest targetRps scenario =>
    exact ⟨_, _, startLoadTest_makes env p targetRps scenario, .startLoadTest⟩
  | stopLoadTest => exact ⟨_, _, stopLoadTest_makes env p, .stopLoadTest⟩
  | updateConfig cfg =>
    obtain ⟨changes, result, makes, configures⟩ := updateConfig_takes env cfg p
    exact ⟨_, _, makes, .updateConfig configures⟩
  | simulateGracefulShutdown =>
    obtain ⟨_, _, makes, ⟨rfl, rfl⟩ | ⟨flushes, report, rfl, rfl, flushing⟩⟩ :=
      shutdown_makes env p
    · exact ⟨_, _, makes.stop, .shutdownThrows⟩
    · exact ⟨_, _, makes.bind ⟨rfl, rfl⟩, .shutdown flushing⟩

/-- A tick of a load test that has ended does nothing. -/
theorem run_loadTestTick_idle (eventsPerTick : JsNum) (ended : p.engine.loadTestActive = false) :
    (loadTestTick env eventsPerTick).run p = ⟨p, [], .ok ()⟩ := by
  rw [loadTestTick, run_bind, run_engine, andThen_ok, ended]
  rfl

section LoadTest

variable {p} {eventsPerTick : JsNum} (active : p.engine.loadTestActive = true)
include active

/-- A tick of the load test ingests the batch that an array can hold. -/
theorem run_loadTestTick_fits {count : Nat}
    (fits : loadTestCount env p.engine eventsPerTick = some count) :
    (loadTestTick env eventsPerTick).run p =
      (ingestBatch env ((List.range count).map (mockEvent env)) >>= fun _ => pure ()).run p := by
  rw [loadTestCount, if_pos active] at fits
  rw [loadTestTick, run_bind, run_engine, andThen_ok, active]
  simp only [mockBatch, fits]
  rfl

/-- A tick whose batch no array can hold throws before it ingests anything. -/
theorem run_loadTestTick_overflows (long : loadTestCount env p.engine eventsPerTick = none) :
    (loadTestTick env eventsPerTick).run p = ⟨p, [], .error .rangeError⟩ := by
  rw [loadTestCount, if_pos active] at long
  rw [loadTestTick, run_bind, run_engine, andThen_ok, active]
  simp only [mockBatch, long]
  rfl

end LoadTest

/-- Every callback makes what it may make. -/
theorem task_makes (task : Task) : ∃ changes result,
    Makes (task.callback env) p changes result ∧ TaskMakes p.engine env task changes result := by
  cases task with
  | workers =>
    obtain ⟨_, makes, rfl | ⟨count, flushes, rfl, flushing⟩⟩ := workerTick_makes env p
    · exact ⟨_, _, makes, .idle nofun⟩
    · exact ⟨_, _, makes, .moved flushing⟩
  | flush =>
    obtain ⟨_, makes, rfl | rfl⟩ := flushTick_makes env p
    · exact ⟨_, _, makes, .idle nofun⟩
    · exact ⟨_, _, makes, .flushed⟩
  | release | metrics | reset => exact ⟨[], .ok (), ⟨rfl, rfl⟩, .idle nofun⟩
  | loadTest eventsPerTick =>
    cases active : p.engine.loadTestActive with
    | false =>
      have ran := run_loadTestTick_idle env p eventsPerTick active
      exact ⟨[], .ok (), .silent_run ran rfl rfl, .idle fun _ _ => active⟩
    | true =>
      cases ticks : loadTestCount env p.engine eventsPerTick with
      | none =>
        have ran := run_loadTestTick_overflows env active ticks
        exact ⟨[], _, .silent_run ran rfl rfl, .overflows active ticks⟩
      | some count =>
        have ran := run_loadTestTick_fits env active ticks
        obtain ⟨changes, result, makes, shape⟩ :=
          ingestBatch_makes env p ((List.range count).map (mockEvent env))
        refine ⟨changes, _, .of_same_run ran ?_, .loadTest active ticks shape⟩
        cases result with
        | error thrown => exact makes.stop
        | ok result => exact makes.andSilent ⟨rfl, rfl⟩

end Methods

/-- A step of the process makes what its request or its timer may make. -/
theorem step_makes {p after : Process} {action : Act} {out : List Obs}
    (stepped : step p action = some (after, out)) : ∃ changes,
    coreSystem.exec System.unguarded p.core changes = some (after.core, out.flatMap Obs.core) ∧
      StepMakes p action changes := by
  cases step_cases stepped with
  | @request env request alive =>
    obtain ⟨changes, result, makes, shape⟩ := request_makes env (p.begin env) request
    refine ⟨_, ?_, .request shape⟩
    obtain ⟨executed, ended⟩ := makes
    unfold respond
    rw [ended]
    cases result with
    | ok value =>
      rw [ending, List.append_nil]
      exact executed
    | error thrown =>
      rw [List.flatMap_append]
      exact System.exec_append executed rfl
  | @fire env timer alive live =>
    obtain ⟨changes, result, makes, shape⟩ := task_makes env (p.fired env timer) timer.task
    refine ⟨_, ?_, .fire live shape⟩
    obtain ⟨executed, ended⟩ := makes
    unfold Server.finish
    rw [ended]
    cases result with
    | ok value =>
      rw [ending, List.append_nil]
      exact executed
    | error thrown =>
      rw [List.flatMap_append]
      exact System.exec_append executed rfl

/-- What is read of the observations other than the log and the latencies. -/
theorem flatMap_core {β : Type} (read : Obs → List β) (logs : ∀ entry, read (.logged entry) = [])
    (latencies : ∀ ms, read (.latency ms) = []) (seen : List Obs) :
    (seen.flatMap Obs.core).flatMap read = seen.flatMap read := by
  induction seen with
  | nil => rfl
  | cons first rest ih =>
    rw [List.flatMap_cons, List.flatMap_append, ih, List.flatMap_cons]
    cases first with
    | logged entry => rw [logs entry]; rfl
    | latency ms => rw [latencies ms]; rfl
    | limited | pushed | moved | drained | flushed | single | batch | metrics | shutdown | threw
    | crashed => simp [Obs.core]

/-- Every run is a run of the core, with the changes that its steps may make. -/
theorem run_core (permits : Change → Prop) {guard : Process → Act → Prop} {init : Process}
    (permitted : ∀ p action changes, guard p action → StepMakes p action changes →
      ∀ change ∈ changes, permits change)
    {seen : List Obs} {p : Process} (run : system.Run guard init seen p) :
    coreSystem.Run (fun _ change => permits change) init.core (seen.flatMap Obs.core) p.core := by
  refine run.refine Process.core Obs.core ?_
  intro seen p action after out _ allowed stepped
  obtain ⟨changes, executed, makes⟩ := step_makes stepped
  exact ⟨changes, executed, permitted p action changes allowed makes⟩

end IngestionEngine.Server
