import IngestionEngine.Server.Reports
import IngestionEngine.Server.Shutdown

/-!
# The batch buffer

Only the workers and a shutdown put events into the buffer, and only flushes take them out. After a
tick that moves events the buffer is below the threshold, since otherwise it has been flushed. What
a flush writes is what the buffer held by then.
-/

namespace IngestionEngine.Server

open Systems Program

/-- The buffer, and the counters of what goes through it. -/
def Engine.processing (e : Engine) : List TelemetryEvent × Nat × Nat :=
  (e.batchBuffer, e.totalEventsFlushed, e.totalProcessed)

/-- The buffer has events, and as many as the threshold. -/
def Engine.Full (e : Engine) : Prop :=
  e.batchBuffer.length ≠ 0 ∧ e.batchThreshold.le (.ofNat e.batchBuffer.length) = true

/-! ### What is not about the buffer -/

section Others

variable (env : Env) {value : List TelemetryEvent × Nat × Nat}

/-- A call of `stopLoadTest`. -/
theorem processing_stopLoadTest :
    Keeps (fun p => p.engine.processing = value) (stopLoadTest env) :=
  keeps_stopLoadTest env (fun _ _ _ _ held => held) fun _ _ held => held

/-- A call of `startLoadTest`. -/
theorem processing_startLoadTest (targetRps : JsNum) (scenario : String) :
    Keeps (fun p => p.engine.processing = value) (startLoadTest env targetRps scenario) := by
  refine keeps_bind (processing_stopLoadTest env) fun _ => ?_
  refine keeps_bind (keeps_update fun _ held => held) fun _ => ?_
  refine keeps_bind (keeps_addLog fun _ _ held => held) fun _ => ?_
  exact keeps_bind (fun _ held => held) fun _ => keeps_update fun _ held => held

/-- Every request but a shutdown. -/
theorem processing_request {request : Request} (other : request ≠ .simulateGracefulShutdown) :
    Keeps (fun p => p.engine.processing = value) (request.call env) := by
  refine keeps_request env (fun _ => Iff.rfl) request ?_ (processing_stopLoadTest env) ?_ ?_
  · exact fun targetRps scenario _ => processing_startLoadTest env targetRps scenario
  · exact fun cfg _ =>
      keeps_of_view Process.exceptConfig (fun _ => Iff.rfl) fun _ => keeps_updateConfig env cfg
  · exact fun same => absurd same other

/-- Every callback but the two that flush. -/
theorem processing_callback {task : Task} (other : task ≠ .workers ∧ task ≠ .flush) :
    Keeps (fun p => p.engine.processing = value) (task.callback env) := by
  have assigns {change : Engine → Engine} (same : ∀ e, (change e).processing = e.processing) :
      Keeps (fun p => p.engine.processing = value) (update change) :=
    keeps_update fun p held => (same p.engine).trans held
  refine keeps_callback env (fun _ => Iff.rfl) task ?_ ?_ ?_ ?_ ?_
  · exact fun same => absurd same other.1
  · exact fun _ => assigns fun _ => rfl
  · exact fun same => absurd same other.2
  · exact assigns fun _ => rfl
  · exact fun _ => assigns fun _ => rfl

end Others

/-! ### The ticks that flush -/

section Ticks

variable (env : Env) {p : Process}

/-- A tick that fills the buffer flushes it. -/
theorem run_workerTick_full (ticks : p.engine.Ticks) (full : p.engine.moved.Full) :
    ∃ q entry, (workerTick env).run p = ⟨q, [.moved env.clock p.engine.items,
        .flushed env.clock .countThreshold (p.engine.totalBatchesFlushed + 1)
          p.engine.moved.batchBuffer (env.failure.val < 1 / 10000), .logged entry], .ok ()⟩ ∧
      q.engine.batchBuffer = [] := by
  obtain ⟨some, reached⟩ := full
  obtain ⟨entry, shown, _⟩ := triggerFlush_logged env .countThreshold
    (p := { p with engine := p.engine.moved }) some
  have returned := triggerFlush_returns env .countThreshold { p with engine := p.engine.moved }
  have empties : ((triggerFlush env .countThreshold).run
      { p with engine := p.engine.moved }).state.engine.batchBuffer = [] :=
    (triggerFlush_empties .countThreshold).1
  rw [run_workerTick_moves env ticks, run_bind, countFlush, onlyIf, if_pos reached]
  generalize (triggerFlush env .countThreshold).run { p with engine := p.engine.moved } = outcome
    at shown returned empties
  obtain ⟨q, out, result⟩ := outcome
  obtain rfl : result = .ok () := returned
  obtain rfl : out = _ := shown
  simp only [run_bind, run_setTimer, run_pure, andThen_ok, after_mk]
  exact ⟨_, entry, rfl, empties⟩

/-- A tick that does not fill it only moves events. -/
theorem run_workerTick_short (ticks : p.engine.Ticks) (short : ¬ p.engine.moved.Full) :
    (workerTick env).run p = ⟨{ p with
      engine := p.engine.moved
      loop := p.loop.set .release 8 none }, [.moved env.clock p.engine.items], .ok ()⟩ := by
  have quiet : (countFlush env p.engine.moved).run { p with engine := p.engine.moved } =
      ⟨{ p with engine := p.engine.moved }, [], .ok ()⟩ := by
    rw [countFlush, run_onlyIf]
    split
    · rename_i reached
      have empty : p.engine.moved.batchBuffer.length = 0 := by
        by_contra some
        exact short ⟨some, reached⟩
      simp only [triggerFlush, run_bind, run_engine, andThen_ok, if_pos empty]
      rfl
    · rfl
  rw [run_workerTick_moves env ticks, run_bind, quiet]
  rfl

/-- A tick of the ticker flushes what the buffer holds, or does nothing. -/
theorem flushTick_flushes : ((flushTick env).run p).state.engine.batchBuffer =
    p.engine.batchBuffer ∨ ((flushTick env).run p).state.engine.batchBuffer = [] := by
  rw [flushTick, run_bind, run_engine, andThen_ok, after_state, run_onlyIf]
  split
  · exact .inr (triggerFlush_empties .windowTimeout).1
  · exact .inl rfl

end Ticks

/-! ### What a step does to the buffer -/

section Steps

variable {p after : Process} {action : Act} {out : List Obs}

/-- An empty buffer is not full. -/
theorem not_full_of_empty {e : Engine} (empty : e.batchBuffer = []) : ¬ e.Full := by
  intro full
  exact full.1 (by rw [empty]; rfl)

/-- A step leaves the buffer as it was, or not full. -/
theorem step_buffer (stepped : step p action = some (after, out)) :
    after.engine.batchBuffer = p.engine.batchBuffer ∨ ¬ after.engine.Full := by
  cases step_cases stepped with
  | @request env request alive =>
    rw [respond_state]
    by_cases shuts : request = .simulateGracefulShutdown
    · subst shuts
      by_cases fits : p.engine.queue.length ≤ env.spreadLimit
      · obtain ⟨q, shown, report, ran, _, empty⟩ := run_shutdown_fits (p := p.begin env) fits
        rw [Request.call, run_bind, ran]
        exact .inr (not_full_of_empty empty)
      · obtain ⟨q, first, second, ran, _, core, _⟩ :=
          run_shutdown_long (p := p.begin env) (Nat.not_le.mp fits)
        rw [Request.call, run_bind, ran]
        exact .inl (congrArg Core.batchBuffer core)
    · exact .inl (congrArg Prod.fst (processing_request env shuts (p.begin env) rfl))
  | @fire env timer alive live =>
    rw [(finish_state _).2]
    cases task : timer.task with
    | workers =>
      rw [Task.callback]
      by_cases ticks : (p.fired env timer).engine.Ticks
      · by_cases full : (p.fired env timer).engine.moved.Full
        · obtain ⟨q, entry, ran, empty⟩ := run_workerTick_full env ticks full
          rw [ran]
          exact .inr (not_full_of_empty empty)
        · rw [run_workerTick_short env ticks full]
          exact .inr full
      · rw [run_workerTick_idle env ticks]
        exact .inl rfl
    | flush =>
      exact (flushTick_flushes env).imp id not_full_of_empty
    | release | metrics | loadTest | reset =>
      rw [← task]
      have other : timer.task ≠ .workers ∧ timer.task ≠ .flush := by simp [task]
      exact .inl (congrArg Prod.fst (processing_callback env other (p.fired env timer) rfl))

/-- What a step flushes: the buffer that a tick of the workers has filled, the buffer as the ticker
found it, or what a shutdown flushes. -/
inductive Flushes (p : Process) (action : Act) (events : List TelemetryEvent) :
    FlushReason → Prop where
  /-- The workers have filled the buffer. -/
  | count {env : Env} {timer : Timer Task} (live : timer ∈ p.loop.timers)
      (task : timer.task = .workers) (fires : action = .fire env timer.id)
      (ticks : p.engine.Ticks) (full : p.engine.moved.Full)
      (batch : events = p.engine.moved.batchBuffer) : Flushes p action events .countThreshold
  /-- The ticker flushes the buffer. -/
  | window (some : p.engine.batchBuffer.length ≠ 0) (batch : events = p.engine.batchBuffer) :
      Flushes p action events .windowTimeout
  /-- A shutdown flushes. -/
  | shutdown : Flushes p action events .gracefulShutdown

/-- Only a flush shows that a batch was flushed. -/
theorem shows_flushed {change : Change} {clock : Int} {reason : FlushReason} {batchId : Nat}
    {events : List TelemetryEvent} {failed : Bool}
    (shows : change.Shows (.flushed clock reason batchId events failed)) :
    ∃ env, change = .flush env reason := by
  cases change with
  | touch | refill | refuseBatch | drop | setRps | setBurst | capTokens => exact shows.elim
  | spend | refuse | push => contradiction
  | move | drain => obtain ⟨_, same⟩ := shows; contradiction
  | flush env given =>
    obtain ⟨_, _, _, same⟩ := shows
    exact ⟨env, by rw [(Obs.flushed.inj same).2.1]⟩
  | finish shown =>
    obtain ⟨rfl, ends⟩ := shows
    contradiction

/-- What the tick of the workers shows of flushes. -/
theorem workerTick_flushes {env : Env} {clock : Int} {reason : FlushReason} {batchId : Nat}
    {events : List TelemetryEvent} {failed : Bool}
    (member : .flushed clock reason batchId events failed ∈ ((workerTick env).run p).out) :
    p.engine.Ticks ∧ p.engine.moved.Full ∧ events = p.engine.moved.batchBuffer := by
  by_cases ticks : p.engine.Ticks
  · by_cases full : p.engine.moved.Full
    · obtain ⟨q, entry, ran, _⟩ := run_workerTick_full env ticks full
      rw [ran] at member
      simp only [List.mem_cons, reduceCtorEq, Obs.flushed.injEq, List.not_mem_nil, or_false,
        false_or] at member
      exact ⟨ticks, full, member.2.2.2.1⟩
    · rw [run_workerTick_short env ticks full] at member
      simp at member
  · rw [run_workerTick_idle env ticks] at member
    contradiction

/-- What the tick of the ticker shows of flushes. -/
theorem flushTick_shows {env : Env} {clock : Int} {reason : FlushReason} {batchId : Nat}
    {events : List TelemetryEvent} {failed : Bool}
    (member : .flushed clock reason batchId events failed ∈ ((flushTick env).run p).out) :
    p.engine.batchBuffer.length ≠ 0 ∧ events = p.engine.batchBuffer := by
  simp only [flushTick, run_bind, run_engine, andThen_ok, run_onlyIf] at member
  split at member
  · rename_i passed
    have some : p.engine.batchBuffer.length ≠ 0 := Nat.ne_of_gt passed.1
    obtain ⟨entry, shown, _⟩ := triggerFlush_logged env .windowTimeout some
    have inside : .flushed clock reason batchId events failed ∈
        ((triggerFlush env .windowTimeout).run p).out := member
    rw [shown] at inside
    simp only [List.mem_cons, reduceCtorEq, Obs.flushed.injEq, List.not_mem_nil,
      or_false] at inside
    exact ⟨some, inside.2.2.2.1⟩
  · contradiction

/-- What a timer's callback shows apart from its failure. -/
theorem finish_shows {outcome : Outcome Process Obs JsError Unit} {obs : Obs}
    (member : obs ∈ (finish outcome).2) (other : ∀ thrown, obs ≠ .crashed thrown) :
    obs ∈ outcome.out := by
  unfold finish at member
  split at member
  · exact member
  · rcases List.mem_append.mp member with shown | failed
    · exact shown
    · exact absurd (List.mem_singleton.mp failed) (other _)

/-- A step shows the flushes that it makes. -/
theorem step_flushes (stepped : step p action = some (after, out)) {clock : Int}
    {reason : FlushReason} {batchId : Nat} {events : List TelemetryEvent} {failed : Bool}
    (member : .flushed clock reason batchId events failed ∈ out) :
    Flushes p action events reason := by
  obtain ⟨change, made, shows⟩ := step_made stepped
    (List.mem_flatMap.mpr ⟨_, member, List.mem_cons_self⟩)
  obtain ⟨env, rfl⟩ := shows_flushed shows
  cases made with
  | still quiet => contradiction
  | batch _ inside | loadTest _ _ _ _ inside =>
    rcases push_batchChanges inside with same | ⟨position, ev, _, same⟩ <;> contradiction
  | @threshold _ timer live task =>
    have ran := fire_workers live task stepped
    rw [(Prod.mk.inj ran).2] at member
    obtain ⟨ticks, full, batch⟩ := workerTick_flushes (finish_shows member (by simp))
    exact .count live task rfl ticks full batch
  | @window _ timer live task =>
    have ran := fire_flush live task stepped
    rw [(Prod.mk.inj ran).2] at member
    obtain ⟨some, batch⟩ := flushTick_shows (finish_shows member (by simp))
    exact .window some batch
  | last => exact .shutdown

end Steps

end IngestionEngine.Server
