import IngestionEngine.Server.Workers

/-!
# What only flushes and configurations assign

The configuration, the time of the last flush and the number of batches are assigned in two places
only. A property of these fields that a flush keeps is kept by every callback, and by every request
other than `updateConfig`.
-/

namespace IngestionEngine.Server

open Systems Program

/-- The fields that `updateConfig` puts between two bounds, the rates, and what a flush leaves. -/
def Engine.settled (e : Engine) :
    (JsNum × JsNum × JsNum × JsNum) × (JsValue × JsValue) × (Int × Nat) :=
  ((e.workerCount, e.channelCapacity, e.batchThreshold, e.batchFlushWindowMs),
    (e.rateLimitRps, e.rateLimitBurst), (e.lastFlushTime, e.totalBatchesFlushed))

/-- A property of these fields is kept by flushes. -/
structure Settles (env : Env) (holds : Engine → Prop) : Prop where
  /-- It depends on no other field. -/
  assigned : ∀ e after : Engine, after.settled = e.settled → holds e → holds after
  /-- A flush keeps it. -/
  flushed : ∀ reason, Keeps (fun p => holds p.engine) (triggerFlush env reason)

namespace Settles

variable {env : Env} {holds : Engine → Prop} (settles : Settles env holds)

include settles

/-- An assignment of other fields. -/
theorem update {change : Engine → Engine} (same : ∀ e, (change e).settled = e.settled) :
    Keeps (fun p => holds p.engine) (update change) :=
  keeps_update fun p held => settles.assigned p.engine _ (same p.engine) held

/-- A new log entry. -/
theorem addLog {level : LogLevel} {msg caller : String} {fields : JsValue} :
    Keeps (fun p => holds p.engine) (addLog env level msg caller fields) :=
  keeps_addLog fun p logs held =>
    settles.assigned p.engine { p.engine with recentLogs := logs } rfl held

/-- What an ingestion assigns is not among these fields. -/
theorem ingest (p : Process) : holds p.exceptIngest.engine ↔ holds p.engine :=
  ⟨settles.assigned _ _ rfl, settles.assigned _ _ rfl⟩

/-- A call of `stopLoadTest`. -/
theorem stopLoadTest : Keeps (fun p => holds p.engine) (stopLoadTest env) :=
  keeps_stopLoadTest env (fun p _ _ _ held => settles.assigned p.engine _ rfl held)
    fun _ _ held => held

/-- A call of `startLoadTest`. -/
theorem startLoadTest (targetRps : JsNum) (scenario : String) :
    Keeps (fun p => holds p.engine) (startLoadTest env targetRps scenario) := by
  refine keeps_bind settles.stopLoadTest fun _ => ?_
  refine keeps_bind (settles.update fun _ => rfl) fun _ => keeps_bind settles.addLog fun _ => ?_
  exact keeps_bind (fun _ held => held) fun _ => settles.update fun _ => rfl

/-- A call of `simulateGracefulShutdown`. -/
theorem shutdown : Keeps (fun p => holds p.engine) (simulateGracefulShutdown env) := by
  have moved (p : Process) (logs : List StructuredLog) (buffer queue : List TelemetryEvent)
      (held : holds p.engine) :
      holds { p.engine with recentLogs := logs, batchBuffer := buffer, queue := queue } :=
    settles.assigned p.engine _ rfl held
  intro p held
  exact leaves_shutdown env moved settles.stopLoadTest (settles.flushed _) (fun _ held => held)
    (settles.assigned p.engine _ rfl held)

/-- A tick of the workers. -/
theorem workerTick : Keeps (fun p => holds p.engine) (workerTick env) := by
  refine keeps_workerTick env (fun p held => ?_) (settles.flushed _) fun _ held => held
  exact settles.assigned p.engine _ rfl held

/-- Every request other than `updateConfig`. -/
theorem request {request : Request} (other : ∀ cfg, request ≠ .updateConfig cfg) :
    Keeps (fun p => holds p.engine) (request.call env) := by
  refine keeps_request env settles.ingest request ?_ settles.stopLoadTest ?_ ?_
  · exact fun targetRps scenario _ => settles.startLoadTest targetRps scenario
  · exact fun cfg same => absurd same (other cfg)
  · exact fun _ => settles.shutdown

/-- Every callback of a timer. -/
theorem callback (task : Task) : Keeps (fun p => holds p.engine) (task.callback env) := by
  refine keeps_callback env settles.ingest task (fun _ => settles.workerTick) ?_ ?_ ?_ ?_
  · exact fun _ => settles.update fun _ => rfl
  · exact fun _ => keeps_bind keeps_engine fun _ => keeps_onlyIf (settles.flushed _)
  · exact settles.update fun _ => rfl
  · exact fun _ => settles.update fun _ => rfl

end Settles

end IngestionEngine.Server
