import IngestionEngine.Server.Config

/-!
# What endures the methods

The methods reach the timers through the handles of the engine: the ticker that flushes is
restarted, the load test is stopped and started, and a tick leaves a release pending. A property
of the timers and the handles that endures these changes endures every request but a shutdown, and
every callback but the one that ends it. Only `updateConfig` restarts the ticker, so a property that
does not endure this lasts as long as no request does.
-/

namespace IngestionEngine.Server

open Systems Program

/-- The handles of the timers, and the flags that go with them. -/
def Engine.handles (e : Engine) : Option Nat × Option Nat × Bool × Bool :=
  (e.flushIntervalId, e.loadTestTimer, e.loadTestActive, e.isShuttingDown)

/-- A property lasts through the changes of the timers and the handles, apart from a restart of the
ticker that flushes. -/
structure Lasts (holds : Process → Prop) : Prop where
  /-- It depends on no other field of the engine. -/
  assigned : ∀ (p : Process) (e : Engine), e.handles = p.engine.handles → holds p →
    holds { p with engine := e }
  /-- The load test is stopped. -/
  stopped : ∀ p : Process, holds p → holds { p with
    engine := { p.engine with loadTestActive := false, loadTestTimer := none }
    loop := p.loop.clear p.engine.loadTestTimer }
  /-- The load test is started when it is stopped. -/
  started : ∀ (p : Process) (eventsPerTick : JsNum), p.engine.loadTestTimer = none → holds p →
    holds { p with
      engine := { p.engine with loadTestActive := true, loadTestTimer := some p.loop.nextId }
      loop := p.loop.set (.loadTest eventsPerTick) 25 (some 25) }
  /-- A release of the workers is left pending. -/
  released : ∀ p : Process, holds p → holds { p with loop := p.loop.set .release 8 none }

/-- A property endures the changes of the timers and the handles. -/
structure Endures (holds : Process → Prop) : Prop extends Lasts holds where
  /-- The ticker that flushes is restarted. -/
  restarted : Keeps holds startBatchTicker

namespace Lasts

variable {holds : Process → Prop} (lasts : Lasts holds) (env : Env)

include lasts

/-- An assignment of other fields. -/
theorem update {change : Engine → Engine} (same : ∀ e, (change e).handles = e.handles) :
    Keeps holds (update change) :=
  keeps_update fun p held => lasts.assigned p _ (same p.engine) held

/-- A new log entry. -/
theorem addLog {level : LogLevel} {msg caller : String} {fields : JsValue} :
    Keeps holds (addLog env level msg caller fields) :=
  keeps_addLog fun p _ held => lasts.assigned p _ rfl held

/-- What an ingestion assigns is not among these fields. -/
theorem ingest (p : Process) : holds p.exceptIngest ↔ holds p :=
  ⟨lasts.assigned p.exceptIngest p.engine rfl, lasts.assigned p p.exceptIngest.engine rfl⟩

/-- A flush. -/
theorem triggerFlush (reason : FlushReason) : Keeps holds (triggerFlush env reason) := by
  have forgets (p : Process) : holds p.exceptFlush ↔ holds p :=
    ⟨lasts.assigned p.exceptFlush p.engine rfl, lasts.assigned p p.exceptFlush.engine rfl⟩
  exact keeps_of_view Process.exceptFlush forgets (keeps_triggerFlush env reason)

/-- A call of `stopLoadTest`. -/
theorem stopLoadTest : Keeps holds (stopLoadTest env) := by
  intro p held
  simp only [Server.stopLoadTest, run_bind, run_update, run_engine, run_clearTimer, run_addLog,
    andThen_ok, after_state]
  refine lasts.assigned _ _ ?_ (lasts.stopped p held)
  rfl

/-- A call of `startLoadTest`. -/
theorem startLoadTest (targetRps : JsNum) (scenario : String) :
    Keeps holds (startLoadTest env targetRps scenario) := by
  intro p held
  simp only [Server.startLoadTest, Server.stopLoadTest, run_bind, run_update, run_engine,
    run_clearTimer, run_addLog, run_setTimer, andThen_ok, after_mk]
  have restarted := lasts.started _ (targetRps.div 40).ceil rfl (lasts.stopped p held)
  refine lasts.assigned _ _ ?_ restarted
  rfl

/-- A tick of the workers. -/
theorem workerTick : Keeps holds (workerTick env) := by
  refine keeps_workerTick env (fun p held => ?_) (lasts.triggerFlush env _) lasts.released
  exact lasts.assigned p _ rfl held

/-- A field of the configuration between two bounds, and what comes after it. -/
theorem clamped {cfg : JsValue} {name : String} {low high : JsNum}
    {assign : JsNum → Engine → Engine} {afterwards next : Js Unit}
    (same : ∀ value e, (assign value e).handles = e.handles)
    (given : ∀ value, givenNumber cfg name = .ok (some value) → Keeps holds afterwards)
    (rest : (givenNumber cfg name).isOk = true → Keeps holds next) :
    Keeps holds (assignClamped cfg name low high assign afterwards >>= fun _ => next) := by
  intro p held
  rw [run_bind, run_assignClamped]
  cases read : givenNumber cfg name with
  | error thrown => exact held
  | ok found =>
    have goes : Keeps holds next := rest (by rw [read]; rfl)
    cases found with
    | none => exact goes p held
    | some value =>
      have assigned := lasts.assigned p _ (same (low.max (high.min value)) p.engine) held
      exact leaves_bind (given value read _ assigned) fun _ => goes

/-- A call of `updateConfig`, if the property endures the restart that the request makes. -/
theorem updateConfig {cfg : JsValue}
    (restarted : restartsTicker cfg = true → Keeps holds startBatchTicker) :
    Keeps holds (updateConfig env cfg) := by
  have nothing : Keeps holds (pure () : Js Unit) := keeps_pure ()
  refine lasts.clamped (fun _ _ => rfl) (fun _ _ => nothing) fun workers => ?_
  refine lasts.clamped (fun _ _ => rfl) (fun _ _ => nothing) fun capacity => ?_
  refine lasts.clamped (fun _ _ => rfl) (fun _ _ => nothing) fun threshold => ?_
  refine lasts.clamped (fun _ _ => rfl) (fun value window => restarted ?_) fun _ => ?_
  · simp only [restartsTicker, workers, capacity, threshold, window, Bool.and_self]
  refine keeps_bind ?_ fun _ => keeps_bind ?_ fun _ => lasts.addLog env
  · exact keeps_bind (keeps_lift _) fun _ => keeps_onlyIf (lasts.update fun _ => rfl)
  · refine keeps_bind (keeps_lift _) fun _ => keeps_ite ?_ (keeps_pure ())
    refine keeps_bind (lasts.update fun _ => rfl) fun _ => ?_
    exact keeps_bind (keeps_lift _) fun _ => lasts.update fun _ => rfl

/-- A call of `simulateGracefulShutdown`, once its flag is set. -/
theorem shutdown (reset : Keeps holds (setTimer .reset 2000 none)) {p : Process}
    (held : holds { p with engine := { p.engine with isShuttingDown := true } }) :
    holds ((simulateGracefulShutdown env).run p).state := by
  have moved (p : Process) (logs : List StructuredLog) (buffer queue : List TelemetryEvent)
      (held : holds p) : holds { p with
        engine := { p.engine with recentLogs := logs, batchBuffer := buffer, queue := queue } } :=
    lasts.assigned p _ rfl held
  exact leaves_shutdown env moved (lasts.stopLoadTest env) (lasts.triggerFlush env _) reset held

/-- Every request other than a shutdown. -/
theorem request (request : Request) (other : request ≠ .simulateGracefulShutdown)
    (restarted : ∀ cfg, request = .updateConfig cfg → restartsTicker cfg = true →
      Keeps holds startBatchTicker) : Keeps holds (request.call env) := by
  refine keeps_request env lasts.ingest request ?_ (lasts.stopLoadTest env) ?_ ?_
  · exact fun targetRps scenario _ => lasts.startLoadTest env targetRps scenario
  · exact fun cfg same => lasts.updateConfig env (restarted cfg same)
  · exact fun same => absurd same other

/-- Every callback of a timer other than the end of a shutdown. -/
theorem callback (task : Task) (other : task ≠ .reset) : Keeps holds (task.callback env) := by
  refine keeps_callback env lasts.ingest task (fun _ => lasts.workerTick env) ?_ ?_ ?_ ?_
  · exact fun _ => lasts.update fun _ => rfl
  · exact fun _ => keeps_bind keeps_engine fun _ => keeps_onlyIf (lasts.triggerFlush env _)
  · exact lasts.update fun _ => rfl
  · exact fun same => absurd same other

section Shutdowns

variable (flagged : ∀ (p : Process) (flag : Bool), holds p →
  holds { p with engine := { p.engine with isShuttingDown := flag } })

include flagged

/-- Every request, if the property lasts through a shutdown as well. -/
theorem any_request (reset : Keeps holds (setTimer .reset 2000 none)) (request : Request)
    (restarted : ∀ cfg, request = .updateConfig cfg → restartsTicker cfg = true →
      Keeps holds startBatchTicker) : Keeps holds (request.call env) := by
  by_cases shuts : request = .simulateGracefulShutdown
  · subst shuts
    have shutdown : Keeps holds (simulateGracefulShutdown env) :=
      fun p held => lasts.shutdown env reset (flagged p true held)
    exact keeps_bind shutdown fun _ => keeps_emit _
  · exact lasts.request env request shuts restarted

/-- Every callback of a timer, if the property lasts through the end of a shutdown as well. -/
theorem any_callback (task : Task) : Keeps holds (task.callback env) := by
  by_cases ends : task = .reset
  · subst ends
    exact keeps_update fun p held => flagged p false held
  · exact lasts.callback env task ends

end Shutdowns

end Lasts

namespace Endures

variable {holds : Process → Prop} (endures : Endures holds) (env : Env)

include endures

/-- A call of `simulateGracefulShutdown`, once its flag is set. -/
theorem shutdown (reset : Keeps holds (setTimer .reset 2000 none)) {p : Process}
    (held : holds { p with engine := { p.engine with isShuttingDown := true } }) :
    holds ((simulateGracefulShutdown env).run p).state := endures.toLasts.shutdown env reset held

/-- Every request other than a shutdown. -/
theorem request (request : Request) (other : request ≠ .simulateGracefulShutdown) :
    Keeps holds (request.call env) :=
  endures.toLasts.request env request other fun _ _ _ => endures.restarted

/-- Every callback of a timer other than the end of a shutdown. -/
theorem callback (task : Task) (other : task ≠ .reset) : Keeps holds (task.callback env) :=
  endures.toLasts.callback env task other

section Shutdowns

variable (flagged : ∀ (p : Process) (flag : Bool), holds p →
  holds { p with engine := { p.engine with isShuttingDown := flag } })

include flagged

/-- Every request, if the property endures a shutdown as well. -/
theorem any_request (reset : Keeps holds (setTimer .reset 2000 none)) (request : Request) :
    Keeps holds (request.call env) :=
  endures.toLasts.any_request env flagged reset request fun _ _ _ => endures.restarted

/-- Every callback of a timer, if the property endures the end of a shutdown as well. -/
theorem any_callback (task : Task) : Keeps holds (task.callback env) :=
  endures.toLasts.any_callback env flagged task

end Shutdowns

end Endures

/-! ### The timers over a run -/

/-- That the timers are sound endures every method. -/
theorem sound_endures : Endures Process.TimersSound where
  assigned := by
    intro p e same sound
    simp only [Engine.handles, Prod.mk.injEq] at same
    obtain ⟨flush, load, active, _⟩ := same
    unfold Process.TimersSound at sound ⊢
    rw [flush, load, active]
    exact sound
  restarted := fun _ sound => sound.restart_flush
  stopped := fun _ sound => sound.stop_load
  started := by
    intro p eventsPerTick stopped sound
    unfold Process.TimersSound at sound
    rw [stopped] at sound
    exact sound.start_load eventsPerTick
  released := fun _ sound => sound.set_other .release (by simp) (fun _ => by simp) 8

/-- Every step leaves the timers sound. -/
theorem step_sound {p after : Process} {action : Act} {out : List Obs} (sound : p.TimersSound)
    (stepped : step p action = some (after, out)) : after.TimersSound := by
  cases step_cases stepped with
  | @request env request alive =>
    have reset : Keeps Process.TimersSound (setTimer .reset 2000 none) :=
      fun _ sound => sound.set_other .reset (by simp) (fun _ => by simp) 2000
    rw [respond_state]
    apply sound_endures.any_request env (fun _ _ held => held) reset request
    exact TimersSound.advance sound env.clock
  | @fire env timer alive live =>
    have fired : (p.fired env timer).TimersSound := (TimersSound.advance sound env.clock).fire live
    have left := sound_endures.any_callback env (fun _ _ held => held) timer.task
      (p.fired env timer) fired
    obtain ⟨loop, engine⟩ := finish_state ((timer.task.callback env).run (p.fired env timer))
    unfold Process.TimersSound at left ⊢
    rw [loop, engine]
    exact left

/-- In every run the timers are sound. -/
theorem run_sound (env : Env) {guard : Process → Act → Prop} {seen : List Obs} {p : Process}
    (run : system.Run guard (.start env) seen p) : p.TimersSound :=
  run.state_invariant Process.TimersSound (start_sound env)
    fun _ _ _ _ sound _ stepped => step_sound sound stepped

end IngestionEngine.Server
