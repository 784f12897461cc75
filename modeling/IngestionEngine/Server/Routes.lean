import IngestionEngine.Server.LoadTest

/-!
# The routes of the server

The handlers of `startServer` for the engine, as programs over the process. The body of a request
is what `express.json` leaves: an object or an array, and an empty object where there is none. A
handler that throws is answered by the framework with the status 500.
-/

namespace IngestionEngine.Server

open Systems Program

/-! ### Texts -/

mutual

/-- `String(value)`, with the text of a number. -/
def JsValue.toText (number : JsNum → String) : JsValue → Except JsError String
  | .undefined => .ok "undefined"
  | .null => .ok "null"
  | .bool value => .ok (if value then "true" else "false")
  | .num value => .ok (number value)
  | .str value => .ok value
  | .arr items => (JsValue.itemTexts number items).map (",".intercalate ·)
  | .obj members =>
    if JsValue.hidesToString members then .error .typeError else .ok "[object Object]"

/-- The texts of the items of an array, in which a missing item has none. -/
def JsValue.itemTexts (number : JsNum → String) : List JsValue → Except JsError (List String)
  | [] => .ok []
  | item :: rest => do
    let text ← match item with
      | .undefined | .null => .ok ""
      | item => JsValue.toText number item
    let texts ← JsValue.itemTexts number rest
    return text :: texts

end

/-! ### Requests and responses -/

/-- The body of a request. -/
abbrev Body := { value : JsValue // value.isObject = true }

/-- A request to one of the routes of the engine. -/
inductive HttpRequest where
  /-- `POST /api/v1/events/single` -/
  | single (body : Body)
  /-- `POST /api/v1/events/batch` -/
  | batch (body : Body)
  /-- `GET /api/v1/metrics` -/
  | metrics
  /-- `GET /api/v1/healthz` -/
  | healthz
  /-- `GET /api/v1/logs` -/
  | logs
  /-- `POST /api/v1/benchmark/start` -/
  | benchmarkStart (body : Body)
  /-- `POST /api/v1/benchmark/stop` -/
  | benchmarkStop
  /-- `POST /api/v1/config` -/
  | config (body : Body)
  /-- `POST /api/v1/simulate/shutdown` -/
  | shutdown

/-- A response of a handler, with the value that it gives to `res.json`. -/
structure HttpResponse where
  /-- The status. -/
  status : Nat := 200
  /-- The header `Retry-After`. -/
  retryAfter : Option String := none
  /-- The body. -/
  body : JsValue

/-- The end of a request. -/
inductive HttpAnswer where
  /-- The handler responds. -/
  | json (response : HttpResponse)
  /-- The handler throws, and the framework responds with the status 500. -/
  | failed (thrown : JsError)

namespace HttpResponse

/-- A member of the body. -/
def member (response : HttpResponse) (name : String) : JsValue :=
  match response.body.get name with
  | .ok value => value
  | .error _ => .undefined

/-- A member of the body that is a count. -/
def count (response : HttpResponse) (name : String) : Nat :=
  match response.member name with
  | .num (.fin value) => ⌊value⌋.toNat
  | _ => 0

end HttpResponse

/-! ### What is reported -/

/-- A message that may be missing. -/
def messageValue (message : Option String) : JsValue := message.elim .undefined .str

/-- The response to a single event. -/
def singleResponse (result : SingleResult) : HttpResponse :=
  match result.status with
  | .rateLimited =>
    { status := 429
      retryAfter := some "1"
      body := .obj [("error", .str "rate_limit_exceeded"), ("message", messageValue result.error)] }
  | .queueSaturated =>
    { status := 503
      body := .obj [("error", .str "queue_saturated"), ("message", messageValue result.error)] }
  | .error =>
    { status := 400
      body := .obj [("error", .str "validation_failed"), ("message", messageValue result.error)] }
  | .accepted =>
    { status := 202
      body := .obj [("status", .str "accepted"), ("trace_id", result.traceId.getD .undefined),
        ("worker_pool", .str "bounded_channel")] }

/-- The response to a body without an array of events. -/
def invalidPayload : HttpResponse where
  status := 400
  body := .obj [("error", .str "invalid_payload"), ("message", .str "events array required")]

/-- The status of an admitted batch. -/
def batchStatus (result : BatchResult) : Nat :=
  if 0 < result.dropped ∧ result.accepted = 0 then 503 else 202

/-- The response to a batch. -/
def batchResponse (result : BatchResult) : HttpResponse :=
  if result.rateLimited then
    { status := 429
      retryAfter := some "1"
      body := .obj [("error", .str "rate_limit_exceeded"),
        ("message", .str "Token bucket exhausted for batch submission")] }
  else
    { status := batchStatus result
      body := .obj
        [("status", .str (if batchStatus result = 202 then "accepted" else "partially_dropped")),
          ("total", .nat result.total), ("accepted", .nat result.accepted),
          ("dropped", .nat result.dropped)] }

/-- The metrics as an object. -/
def EngineMetrics.toValue (m : EngineMetrics) : JsValue := .obj
  [("current_rps", .nat m.currentRps), ("current_eps", .nat m.currentEps),
    ("queue_length", .nat m.queueLength), ("queue_capacity", .num m.queueCapacity),
    ("queue_saturation_pct", .num m.queueSaturationPct), ("active_workers", .num m.activeWorkers),
    ("total_workers", .num m.totalWorkers),
    ("worker_utilization_pct", .num m.workerUtilizationPct),
    ("batch_buffer_length", .nat m.batchBufferLength), ("batch_threshold", .num m.batchThreshold),
    ("batch_flush_window_ms", .num m.batchFlushWindowMs),
    ("total_batches_flushed", .nat m.totalBatchesFlushed),
    ("total_events_flushed", .nat m.totalEventsFlushed),
    ("last_flush_duration_ms", .num (.fin m.lastFlushDurationMs)),
    ("total_accepted", .nat m.totalAccepted), ("total_dropped", .nat m.totalDropped),
    ("total_processed", .nat m.totalProcessed),
    ("rate_limited_requests", .nat m.rateLimitedRequests),
    ("available_tokens", .num m.availableTokens), ("rate_limit_burst", m.rateLimitBurst),
    ("rate_limit_rps", m.rateLimitRps), ("token_saturation_pct", .num m.tokenSaturationPct),
    ("latency_p50_ms", .num (.fin m.latency.p50)), ("latency_p95_ms", .num (.fin m.latency.p95)),
    ("latency_p99_ms", .num (.fin m.latency.p99)), ("uptime_sec", .num (.fin m.uptimeSec)),
    ("load_test_active", .bool m.loadTestActive),
    ("load_test_target_rps", .num m.loadTestTargetRps),
    ("load_test_scenario", .str m.loadTestScenario), ("is_shutting_down", .bool m.isShuttingDown)]

/-- The health of the engine. -/
def healthResponse (m : EngineMetrics) : HttpResponse where
  body := .obj
    [("status", .str (if JsNum.lt 95 m.queueSaturationPct then "degraded" else "healthy")),
      ("uptime_sec", .num (.fin m.uptimeSec)),
      ("queue_saturation_pct", .num m.queueSaturationPct)]

/-- A log entry as an object. -/
def StructuredLog.toValue (entry : StructuredLog) : JsValue := .obj
  [("time", .str entry.time), ("level", .str entry.level.text), ("msg", .str entry.msg),
    ("caller", .str entry.caller), ("fields", entry.fields)]

/-- A record as an object. -/
def PersistedRecord.toValue (record : PersistedRecord) : JsValue := .obj
  [("id", record.id), ("service", record.service), ("level", record.level),
    ("trace_id", record.traceId), ("timestamp", record.timestamp),
    ("batch_id", .nat record.batchId)]

/-- A report of a shutdown as an object. -/
def ShutdownReport.toValue (report : ShutdownReport) : JsValue := .obj
  [("drained_queue", .nat report.drainedQueue), ("flushed_batch", .nat report.flushedBatch),
    ("shutdown_duration_ms", .num (.fin report.shutdownDurationMs)),
    ("exit_code", .nat report.exitCode)]

/-- The logs and the newest records. -/
def logsResponse (e : Engine) : HttpResponse where
  body := .obj [("logs", .arr (e.recentLogs.map StructuredLog.toValue)),
    ("persisted_records", .arr ((e.persistedTimeSeries.take 50).map PersistedRecord.toValue))]

/-! ### The handlers -/

/-- A handler calls the engine when the loop has read the clock. -/
def enter (env : Env) : Js Unit := modify fun p => p.begin env

/-- A member of a body, or a value that stands for a missing one. -/
def orDefault (body : JsValue) (name : String) (value : JsValue) : Except JsError JsValue :=
  (body.get name).map fun given =>
    match given with
    | .undefined => value
    | given => given

/-- `POST /api/v1/events/single` -/
def postSingle (env : Env) (body : JsValue) : Js HttpResponse := do
  enter env
  let result ← ingestSingle env body
  emit (.single result)
  return singleResponse result

/-- The rest of `POST /api/v1/events/batch`, with the array. -/
def postEvents (env : Env) (events : List JsValue) : Js HttpResponse := do
  enter env
  let result ← ingestBatch env events
  emit (.batch result)
  return batchResponse result

/-- `POST /api/v1/events/batch` -/
def postBatch (env : Env) (body : JsValue) : Js HttpResponse := do
  let events ← lift (body.get "events")
  match events with
  | .arr events => postEvents env events
  | _ => return invalidPayload

/-- `GET /api/v1/metrics`, and `GET /api/v1/healthz` with another response. -/
def getWith (env : Env) (response : EngineMetrics → HttpResponse) : Js HttpResponse := do
  enter env
  let m ← getMetrics env
  emit (.metrics m)
  return response m

/-- `GET /api/v1/logs` -/
def getLogs : Js HttpResponse := do
  let e ← engine
  return logsResponse e

/-- The rest of `POST /api/v1/benchmark/start`, with the numbers and texts of its body. -/
def startBenchmark (env : Env) (rps scenario : JsValue) (targetRps : JsNum) (text : String) :
    Js HttpResponse := do
  enter env
  startLoadTest env targetRps text
  return { body := .obj [("status", .str "started"), ("target_rps", rps), ("scenario", scenario)] }

/-- `POST /api/v1/benchmark/start` -/
def postBenchmarkStart (number : JsNum → String) (env : Env) (body : JsValue) :
    Js HttpResponse := do
  let rps ← lift (orDefault body "rps" (.num 2500))
  let scenario ← lift (orDefault body "scenario" (.str "steady"))
  let targetRps ← lift rps.toNumber
  let text ← lift (scenario.toText number)
  startBenchmark env rps scenario targetRps text

/-- `POST /api/v1/benchmark/stop` -/
def postBenchmarkStop (env : Env) : Js HttpResponse := do
  enter env
  stopLoadTest env
  return { body := .obj [("status", .str "stopped")] }

/-- `POST /api/v1/config` -/
def postConfig (env : Env) (body : JsValue) : Js HttpResponse := do
  enter env
  updateConfig env body
  return { body := .obj [("status", .str "updated"), ("config", body)] }

/-- `POST /api/v1/simulate/shutdown` -/
def postShutdown (env : Env) : Js HttpResponse := do
  enter env
  let report ← simulateGracefulShutdown env
  emit (.shutdown env.clock report)
  return {
    body := .obj [("status", .str "graceful_shutdown_complete"), ("report", report.toValue)] }

section Http

variable (number : JsNum → String)

/-- The handler of a request. -/
def HttpRequest.handle (env : Env) : HttpRequest → Js HttpResponse
  | .single body => postSingle env body
  | .batch body => postBatch env body
  | .metrics => getWith env fun m => { body := m.toValue }
  | .healthz => getWith env healthResponse
  | .logs => getLogs
  | .benchmarkStart body => postBenchmarkStart number env body
  | .benchmarkStop => postBenchmarkStop env
  | .config body => postConfig env body
  | .shutdown => postShutdown env

/-! ### The server -/

/-- What happens to the server. -/
inductive HttpAct where
  /-- A request arrives. -/
  | request (env : Env) (request : HttpRequest)
  /-- A timer fires. -/
  | fire (env : Env) (id : Nat)

/-- What an observer of the server and its clients sees. -/
inductive HttpObs where
  /-- Something in the process. -/
  | inside (shown : Obs)
  /-- An answer to a request. -/
  | answered (env : Env) (request : HttpRequest) (answer : HttpAnswer)

/-- The answer that the framework sends. -/
def HttpAnswer.of : Except JsError HttpResponse → HttpAnswer
  | .ok response => .json response
  | .error thrown => .failed thrown

/-- One step of the server. -/
def httpStep (p : Process) : HttpAct → Option (Process × List HttpObs)
  | .request env request =>
    if p.crashed then none
    else
      let outcome := (request.handle number env).run p
      some (outcome.state, outcome.out.map .inside ++ [.answered env request (.of outcome.result)])
  | .fire env timer =>
    (step p (.fire env timer)).map (Prod.map id (List.map .inside))

/-- The server as a system. -/
def httpSystem : System Process HttpAct HttpObs := ⟨httpStep number⟩

/-! ### The calls of the handlers -/

/-- The arguments of `startLoadTest` that a body asks for. -/
def benchmarkCall (body : JsValue) : Except JsError (JsNum × String) := do
  let rps ← orDefault body "rps" (.num 2500)
  let scenario ← orDefault body "scenario" (.str "steady")
  let targetRps ← rps.toNumber
  let text ← scenario.toText number
  return (targetRps, text)

/-- The events of a body, if it has an array of them. -/
def eventsOf (body : JsValue) : Option (List JsValue) :=
  match body.get "events" with
  | .ok (.arr events) => some events
  | _ => none

/-- The call of the engine that the handler of a request makes. -/
def HttpRequest.call : HttpRequest → Option Request
  | .single body => some (.ingestSingle body)
  | .batch body => (eventsOf body).map .ingestBatch
  | .metrics | .healthz => some .getMetrics
  | .logs => none
  | .benchmarkStart body =>
    (benchmarkCall number body).toOption.map fun (targetRps, text) => .startLoadTest targetRps text
  | .benchmarkStop => some .stopLoadTest
  | .config body => some (.updateConfig body)
  | .shutdown => some .simulateGracefulShutdown

variable {number} {env : Env} {p after : Process}

/-- The properties of a body can be read. -/
theorem body_get (body : Body) (name : String) : ∃ value, body.val.get name = .ok value := by
  obtain ⟨value, object⟩ := body
  cases value with
  | undefined | null | bool | num | str => contradiction
  | arr | obj => exact ⟨_, rfl⟩

/-- The handler of a batch goes on with the events of its body. -/
theorem run_postBatch {body : JsValue} {events : List JsValue}
    (given : eventsOf body = some events) :
    (postBatch env body).run p = (postEvents env events).run p := by
  have found : body.get "events" = .ok (.arr events) := by
    unfold eventsOf at given
    split at given
    · rename_i found
      rw [found, Option.some.inj given]
    · contradiction
  rw [postBatch, run_bind, run_lift, found]
  rfl

variable (number env p) in
/-- The handler of a load test throws before its call, or goes on with the arguments of the call. -/
theorem run_postBenchmarkStart (body : JsValue) :
    (∃ thrown, benchmarkCall number body = .error thrown ∧
        (postBenchmarkStart number env body).run p = ⟨p, [], .error thrown⟩) ∨
      ∃ rps scenario targetRps text, benchmarkCall number body = .ok (targetRps, text) ∧
        (postBenchmarkStart number env body).run p =
          (startBenchmark env rps scenario targetRps text).run p := by
  unfold benchmarkCall postBenchmarkStart
  simp only [run_bind, run_lift]
  cases orDefault body "rps" (.num 2500) with
  | error thrown => exact .inl ⟨thrown, rfl, rfl⟩
  | ok rps =>
    cases orDefault body "scenario" (.str "steady") with
    | error thrown => exact .inl ⟨thrown, rfl, rfl⟩
    | ok scenario =>
      cases read : rps.toNumber with
      | error thrown =>
        refine .inl ⟨thrown, ?_, ?_⟩
        · simp only [bind, Except.bind, read]
        · simp only [andThen_ok, run_bind, run_lift, read]
          rfl
      | ok targetRps =>
        cases written : scenario.toText number with
        | error thrown =>
          refine .inl ⟨thrown, ?_, ?_⟩
          · simp only [bind, Except.bind, read, written]
          · simp only [andThen_ok, run_bind, run_lift, read, written]
            rfl
        | ok text =>
          refine .inr ⟨rps, scenario, targetRps, text, ?_, ?_⟩
          · simp only [bind, Except.bind, pure, Except.pure, read, written]
          · simp only [andThen_ok, run_bind, run_lift, read, written]
            rfl

variable (env p) in
/-- A handler that calls the engine does what the call does. -/
theorem handle_call {request : HttpRequest} {called : Request}
    (calls : request.call number = some called) :
    ((request.handle number env).run p).discard = (called.call env).run (p.begin env) := by
  cases request with
  | single body =>
    obtain rfl := Option.some.inj calls
    exact discard_bind singleResponse (p.begin env)
  | batch body =>
    obtain ⟨events, given, rfl⟩ := Option.map_eq_some_iff.mp calls
    rw [HttpRequest.handle, run_postBatch given]
    exact discard_bind batchResponse (p.begin env)
  | metrics | healthz =>
    obtain rfl := Option.some.inj calls
    exact discard_bind _ (p.begin env)
  | logs => contradiction
  | benchmarkStart body =>
    obtain ⟨⟨targetRps, text⟩, asked, rfl⟩ := Option.map_eq_some_iff.mp calls
    rcases run_postBenchmarkStart number env p body.val with
      ⟨thrown, failed, _⟩ | ⟨rps, scenario, _, _, called, ran⟩
    · rw [failed] at asked
      contradiction
    · rw [called] at asked
      obtain ⟨rfl, rfl⟩ := Prod.mk.inj (Option.some.inj asked)
      rw [HttpRequest.handle, ran]
      exact discard_pure _ (p.begin env)
  | benchmarkStop | config body =>
    obtain rfl := Option.some.inj calls
    exact discard_pure _ (p.begin env)
  | shutdown =>
    obtain rfl := Option.some.inj calls
    exact discard_bind _ (p.begin env)

variable (env p) in
/-- A handler that does not leaves the process alone, and responds to a batch with an error. -/
theorem handle_silent {request : HttpRequest} (silent : request.call number = none) :
    ∃ result, (request.handle number env).run p = ⟨p, [], result⟩ ∧
      ∀ body, request = .batch body → result = .ok invalidPayload := by
  cases request with
  | single | metrics | healthz | benchmarkStop | config | shutdown => contradiction
  | logs => exact ⟨_, rfl, by simp⟩
  | batch body =>
    rw [HttpRequest.call, Option.map_eq_none_iff, eventsOf] at silent
    unfold HttpRequest.handle postBatch
    rw [run_bind, run_lift]
    obtain ⟨given, found⟩ := body_get body "events"
    rw [found] at silent ⊢
    cases given with
    | arr events => contradiction
    | undefined | null | bool | num | str | obj => exact ⟨_, rfl, fun _ _ => rfl⟩
  | benchmarkStart body =>
    rcases run_postBenchmarkStart number env p body.val with
      ⟨thrown, _, ran⟩ | ⟨_, _, _, _, called, _⟩
    · exact ⟨.error thrown, ran, by simp⟩
    · rw [HttpRequest.call, called] at silent
      contradiction

/-! ### The steps of the server -/

/-- Everything one step of the server can do. -/
inductive HttpStep (number : JsNum → String) (p : Process) :
    HttpAct → Process → List HttpObs → Prop where
  /-- The handler of a request calls the engine. -/
  | called {env : Env} {request : HttpRequest} {called : Request} (alive : p.crashed = false)
      (calls : request.call number = some called) :
      HttpStep number p (.request env request) ((called.call env).run (p.begin env)).state
        (((called.call env).run (p.begin env)).out.map .inside ++
          [.answered env request (.of ((request.handle number env).run p).result)])
  /-- The handler of a request does not. -/
  | silent {env : Env} {request : HttpRequest} (quiet : request.call number = none) :
      HttpStep number p (.request env request) p
        [.answered env request (.of ((request.handle number env).run p).result)]
  /-- A timer fires. -/
  | fire {env : Env} {id : Nat} {after : Process} {out : List Obs}
      (stepped : step p (.fire env id) = some (after, out)) :
      HttpStep number p (.fire env id) after (out.map .inside)

/-- `httpStep` does nothing else. -/
theorem http_cases {action : HttpAct} {out : List HttpObs}
    (stepped : httpStep number p action = some (after, out)) :
    HttpStep number p action after out := by
  cases action with
  | request env request =>
    rw [httpStep] at stepped
    split at stepped
    · contradiction
    · rename_i crashed
      obtain ⟨rfl, rfl⟩ := Prod.mk.inj (Option.some.inj stepped)
      cases calls : request.call number with
      | none =>
        obtain ⟨result, ran, _⟩ := handle_silent env p calls
        have built : HttpStep number p (.request env request) _ _ := .silent calls
        rw [ran] at built ⊢
        exact built
      | some called =>
        have same := handle_call env p calls
        have built : HttpStep number p (.request env request) _ _ :=
          .called (Bool.eq_false_of_not_eq_true crashed) calls
        rw [← same] at built
        exact built
  | fire env id =>
    obtain ⟨⟨left, shown⟩, moved, same⟩ := Option.map_eq_some_iff.mp stepped
    obtain ⟨rfl, rfl⟩ := Prod.mk.inj same
    exact .fire moved

/-! ### The process behind the server -/

variable (number) in
/-- What is seen in the process. A call of the engine that throws is the one that its handler did
not catch. -/
def HttpObs.process : HttpObs → List Obs
  | .inside shown => [shown]
  | .answered _ request (.failed thrown) =>
    if (request.call number).isSome then [.threw thrown] else []
  | .answered _ _ (.json _) => []

/-- What is shown in the process is seen there. -/
theorem process_inside (out : List Obs) :
    (out.map HttpObs.inside).flatMap (HttpObs.process number) = out := by
  rw [List.flatMap_map]
  exact List.flatMap_singleton' out

/-- A handler that calls the engine responds when the call returns, and throws what it throws. -/
theorem process_called {request : HttpRequest} {called : Request}
    (calls : request.call number = some called) :
    respond ((called.call env).run (p.begin env)) = (((called.call env).run (p.begin env)).state,
      (((called.call env).run (p.begin env)).out.map HttpObs.inside ++
        [HttpObs.answered env request (.of ((request.handle number env).run p).result)]).flatMap
          (HttpObs.process number)) := by
  rw [← handle_call env p calls, List.flatMap_append, process_inside, List.flatMap_singleton]
  generalize (request.handle number env).run p = outcome
  obtain ⟨left, out, result⟩ := outcome
  cases result with
  | ok response => exact congrArg (Prod.mk left) (List.append_nil out).symm
  | error thrown =>
    simp only [HttpAnswer.of, HttpObs.process, calls, Option.isSome_some, if_true]
    rfl

/-- A handler that does not call the engine shows nothing there. -/
theorem process_silent {request : HttpRequest} (quiet : request.call number = none)
    (result : Except JsError HttpResponse) :
    [HttpObs.answered env request (.of result)].flatMap (HttpObs.process number) = [] := by
  rw [List.flatMap_singleton]
  cases result with
  | ok response => rfl
  | error thrown =>
    simp only [HttpAnswer.of, HttpObs.process, quiet]
    rfl

/-- A run of the server is a run of the process, if what its handlers call is permitted. -/
theorem run_process {permits : Process → HttpAct → Prop} {guard : Process → Act → Prop}
    (requests : ∀ p env request called, permits p (.request env request) →
      request.call number = some called → guard p (.request env called))
    (fires : ∀ p env id, permits p (.fire env id) → guard p (.fire env id))
    {init : Process} {seen : List HttpObs} (run : (httpSystem number).Run permits init seen p) :
    system.Run guard init (seen.flatMap (HttpObs.process number)) p := by
  refine run.project (fun p => p) (HttpObs.process number) ?_
  intro seen p action after out _ permitted stepped
  cases http_cases stepped with
  | @called env request called alive calls =>
    refine .inr ⟨.request env called, requests p env request called permitted calls, ?_⟩
    rw [← process_called calls]
    exact step_request alive
  | @silent env request quiet => exact .inl ⟨rfl, process_silent quiet _⟩
  | @fire env id after out fired =>
    refine .inr ⟨.fire env id, fires p env id permitted, ?_⟩
    rw [process_inside]
    exact fired

end Http

end IngestionEngine.Server
