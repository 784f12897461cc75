import IngestionEngine.Server.Timers

/-!
# The tick of the workers and their release

A tick either does nothing, or moves a chunk of the queue into the buffer, perhaps flushes
it, and leaves a release pending. How many events the chunk has depends on the workers that
are not active.
-/

namespace IngestionEngine.Server

open Systems Program

namespace Engine

/-- `availableWorkers` of a tick. -/
def availableWorkers (e : Engine) : JsNum := e.workerCount.sub e.activeWorkers

/-- `chunkSize` of a tick. -/
def chunkSize (e : Engine) : JsNum := (e.availableWorkers.mul 25).min (.ofNat e.queue.length)

/-- A tick gets past all its conditions. -/
def Ticks (e : Engine) : Prop :=
  ¬ (e.isShuttingDown = true ∨ e.isPaused = true) ∧
    ¬ (e.availableWorkers.le 0 = true ∨ e.queue.length = 0) ∧ JsNum.lt 0 e.chunkSize = true

/-- `items` of a tick. -/
def items (e : Engine) : List TelemetryEvent :=
  e.queue.take (e.chunkSize.spliceCount e.queue.length)

/-- The engine when a tick has moved its items. -/
def moved (e : Engine) : Engine :=
  { e with
    activeWorkers := e.workerCount.min ((((JsNum.ofNat e.queue.length).div 50).ceil).add 1)
    queue := e.queue.drop (e.chunkSize.spliceCount e.queue.length)
    batchBuffer := e.batchBuffer ++ e.items
    totalProcessed := e.totalProcessed + e.items.length }

/-- The items and what stays are the queue. -/
theorem items_append (e : Engine) : e.items ++ e.moved.queue = e.queue := List.take_append_drop ..

end Engine

variable (env : Env)

/-- A flush does not throw. -/
theorem triggerFlush_returns (reason : FlushReason) (p : Process) :
    ((triggerFlush env reason).run p).result = .ok () := by
  simp only [triggerFlush, run_bind, run_engine, andThen_ok, after_result]
  split
  · rfl
  · simp only [run_bind, run_update, andThen_ok, after_result]
    split <;> simp only [run_bind, run_update, run_emit, run_addLog, andThen_ok, after_mk]

/-- A tick that does not get past its conditions does nothing. -/
theorem run_workerTick_idle {p : Process} (idle : ¬ p.engine.Ticks) :
    (workerTick env).run p = ⟨p, [], .ok ()⟩ := by
  simp only [workerTick, run_bind, run_engine, andThen_ok]
  by_cases stopped : p.engine.isShuttingDown = true ∨ p.engine.isPaused = true
  · rw [if_pos stopped]
    rfl
  · rw [if_neg stopped]
    by_cases nothing : p.engine.availableWorkers.le 0 = true ∨ p.engine.queue.length = 0
    · unfold Engine.availableWorkers at nothing
      rw [if_pos nothing]
      rfl
    · have none : ¬ JsNum.lt 0 p.engine.chunkSize = true :=
        fun some => idle ⟨stopped, nothing, some⟩
      unfold Engine.availableWorkers at nothing
      unfold Engine.chunkSize Engine.availableWorkers at none
      rw [if_neg nothing, if_neg none]
      rfl

/-- The flush of a tick that has filled the buffer. -/
def countFlush (e : Engine) : Js Unit :=
  onlyIf (e.batchThreshold.le (.ofNat e.batchBuffer.length) = true)
    (triggerFlush env .countThreshold)

/-- A tick that gets past its conditions moves its items, may flush them, and leaves a release
pending. -/
theorem run_workerTick_moves {p : Process} (ticks : p.engine.Ticks) :
    (workerTick env).run p =
      ((countFlush env p.engine.moved >>= fun _ => do
        let _ ← setTimer .release 8 none).run { p with engine := p.engine.moved }).after
          [.moved env.clock p.engine.items] := by
  obtain ⟨running, available, chunk⟩ := ticks
  unfold Engine.availableWorkers at available
  unfold Engine.chunkSize Engine.availableWorkers at chunk
  simp only [workerTick, run_bind, run_engine, andThen_ok]
  rw [if_neg running, if_neg available, if_pos chunk]
  rfl

/-- Whatever else the flush does, the tick ends with the release pending. -/
theorem run_workerTick_busy {p : Process} (ticks : p.engine.Ticks) :
    ∃ (q : Process) (out : List Obs),
      q.exceptFlush = ({ p with engine := p.engine.moved } : Process).exceptFlush ∧
        (workerTick env).run p =
          ⟨{ q with loop := q.loop.set .release 8 none }, .moved env.clock p.engine.items :: out,
            .ok ()⟩ := by
  have frame (middle : Process) :
      ((countFlush env p.engine.moved).run middle).state.exceptFlush = middle.exceptFlush :=
    view_kept (fun value => keeps_onlyIf (keeps_triggerFlush env _ value)) middle
  have returned (middle : Process) :
      ((countFlush env p.engine.moved).run middle).result = .ok () := by
    rw [countFlush, run_onlyIf]
    split
    · exact triggerFlush_returns env _ _
    · rfl
  have kept := frame { p with engine := p.engine.moved }
  have ended := returned { p with engine := p.engine.moved }
  have ran := run_workerTick_moves env ticks
  rw [run_bind] at ran
  generalize (countFlush env p.engine.moved).run { p with engine := p.engine.moved } = outcome
    at kept ended ran
  obtain ⟨state, out, result⟩ := outcome
  obtain rfl : result = .ok () := ended
  refine ⟨state, out, kept, ran.trans ?_⟩
  simp only [run_bind, run_setTimer, run_pure, andThen_ok, after_mk, List.append_nil,
    List.cons_append, List.nil_append]

/-- A tick does not throw. -/
theorem workerTick_returns (p : Process) : ((workerTick env).run p).result = .ok () := by
  by_cases ticks : p.engine.Ticks
  · obtain ⟨_, _, _, ran⟩ := run_workerTick_busy env ticks
    rw [ran]
  · rw [run_workerTick_idle env ticks]

/-- A tick keeps what its moves, a flush and a pending release keep. -/
theorem keeps_workerTick {holds : Process → Prop}
    (moves : ∀ p : Process, holds p → holds { p with engine := p.engine.moved })
    (flush : Keeps holds (triggerFlush env .countThreshold))
    (release : Keeps holds (setTimer .release 8 none)) : Keeps holds (workerTick env) := by
  intro p held
  by_cases ticks : p.engine.Ticks
  · have flushed : Keeps holds (countFlush env p.engine.moved) := keeps_onlyIf flush
    have tick := keeps_bind flushed fun _ => keeps_bind release fun _ => keeps_pure ()
    rw [run_workerTick_moves env ticks, after_state]
    exact tick { p with engine := p.engine.moved } (moves p held)
  · rw [run_workerTick_idle env ticks]
    exact held

/-! ### The timers at both ends -/

/-- A callback that ends leaves the timers as it has set them. -/
theorem finish_state (outcome : Outcome Process Obs JsError Unit) :
    (finish outcome).1.loop = outcome.state.loop ∧
      (finish outcome).1.engine = outcome.state.engine := by
  unfold finish
  split <;> exact ⟨rfl, rfl⟩

/-- At most it ends the process. -/
theorem finish_crashed (outcome : Outcome Process Obs JsError Unit) :
    ∃ crashed, (finish outcome).1 = { outcome.state with crashed } := by
  unfold finish
  split
  · exact ⟨outcome.state.crashed, rfl⟩
  · exact ⟨true, rfl⟩

/-- The timers that the constructor sets. -/
theorem start_timers : (Process.start env).loop.timers =
    [⟨0, .workers, env.clock + 10, some 10⟩, ⟨1, .flush, env.clock + 50, some 50⟩,
      ⟨2, .metrics, env.clock + 1000, some 1000⟩] := rfl

/-- The constructor leaves the timers sound. -/
theorem start_sound : (Process.start env).TimersSound := by
  refine ⟨?_, ⟨0, ?_⟩, fun id => ?_, fun id => ?_, rfl⟩
  · simp [EventLoop.All, start_timers, Task.period]
  · simp [EventLoop.Runs, start_timers]
  · have handle : (Process.start env).engine.flushIntervalId = some 1 := rfl
    simp [EventLoop.Runs, start_timers, handle]
  · have handle : (Process.start env).engine.loadTestTimer = none := rfl
    simp [EventLoop.Runs, start_timers, handle]

end IngestionEngine.Server
