import IngestionEngine.Server.Frame

/-!
# The timers of the engine

The handles of the engine name the timers that run its tickers: one ticker flushes, and one
runs the load test as long as it is active. The tickers never stop, and a timeout fires once.
-/

namespace IngestionEngine.Server

open Systems Program

/-- The period of the timers of a task. -/
def Task.period : Task → Option Int
  | .workers => some 10
  | .flush => some 50
  | .metrics => some 1000
  | .loadTest _ => some 25
  | .release | .reset => none

/-- The handles name the tickers, and no ticker runs without a handle. -/
structure TimersSound (loop : EventLoop Task) (flush load : Option Nat) (active : Bool) :
    Prop where
  /-- Every timer has the period of its task. -/
  periods : loop.All fun task period => period = task.period
  /-- The workers have a tick. -/
  workers : ∃ id, loop.Runs id .workers
  /-- `flushIntervalId` is the ticker that flushes. -/
  flushing : ∀ id, loop.Runs id .flush ↔ flush = some id
  /-- `loadTestTimer` is the ticker of the load test. -/
  loading : ∀ id, (∃ eventsPerTick, loop.Runs id (.loadTest eventsPerTick)) ↔ load = some id
  /-- `loadTestActive` says whether there is one. -/
  active : active = load.isSome

/-- The timers of the process are sound. -/
def Process.TimersSound (p : Process) : Prop :=
  Server.TimersSound p.loop p.engine.flushIntervalId p.engine.loadTestTimer p.engine.loadTestActive

namespace TimersSound

variable {loop : EventLoop Task} {flush load : Option Nat} {active : Bool}

/-- A callback may start. -/
theorem advance (sound : TimersSound loop flush load active) (time : Int) :
    TimersSound (loop.advance time) flush load active :=
  ⟨sound.periods, sound.workers, sound.flushing, sound.loading, sound.active⟩

/-- A timer that is not one of the tickers may be set. -/
theorem set_other (task : Task) (sound : TimersSound loop flush load active)
    (flushes : task ≠ .flush) (loads : ∀ eventsPerTick, task ≠ .loadTest eventsPerTick)
    (delay : Int) : TimersSound (loop.set task delay task.period) flush load active := by
  obtain ⟨id, ticking⟩ := sound.workers
  refine ⟨sound.periods.set rfl delay, ⟨id, EventLoop.runs_set.mpr (.inl ticking)⟩, ?_, ?_,
    sound.active⟩
  · intro id
    rw [EventLoop.runs_set, ← sound.flushing id]
    exact or_iff_left fun new => flushes new.2.symm
  · intro id
    rw [← sound.loading id]
    refine exists_congr fun eventsPerTick => ?_
    rw [EventLoop.runs_set]
    exact or_iff_left fun new => loads eventsPerTick new.2.symm

/-- Replacing the ticker that flushes leaves the timers of the other tasks. -/
theorem runs_restart (sound : TimersSound loop flush load active) (task : Task)
    (other : task ≠ .flush) (id : Nat) :
    ((loop.clear flush).set .flush 50 (some 50)).Runs id task ↔ loop.Runs id task := by
  rw [EventLoop.runs_set, EventLoop.runs_clear]
  constructor
  · rintro (⟨runs, _⟩ | ⟨_, new⟩)
    · exact runs
    · exact absurd new other
  · intro runs
    refine .inl ⟨runs, fun same => ?_⟩
    exact other (runs.unique ((sound.flushing id).mpr same))

/-- The ticker that flushes may be replaced. -/
theorem restart_flush (sound : TimersSound loop flush load active) :
    TimersSound ((loop.clear flush).set .flush 50 (some 50)) (some loop.nextId) load active := by
  obtain ⟨id, ticking⟩ := sound.workers
  refine ⟨(sound.periods.clear _).set rfl _, ⟨id, ?_⟩, ?_, ?_, sound.active⟩
  · exact (sound.runs_restart .workers nofun id).mpr ticking
  · intro id
    rw [EventLoop.runs_set, EventLoop.runs_clear, sound.flushing id]
    simp only [and_not_self, false_or, and_true, Option.some.injEq, ne_eq]
    exact eq_comm
  · intro id
    rw [← sound.loading id]
    exact exists_congr fun eventsPerTick => sound.runs_restart (.loadTest eventsPerTick) nofun id

/-- Stopping the load test leaves the timers of the other tasks. -/
theorem runs_stop (sound : TimersSound loop flush load active) (task : Task)
    (other : ∀ eventsPerTick, task ≠ .loadTest eventsPerTick) (id : Nat) :
    (loop.clear load).Runs id task ↔ loop.Runs id task := by
  rw [EventLoop.runs_clear]
  refine and_iff_left_of_imp fun runs same => ?_
  obtain ⟨eventsPerTick, loads⟩ := (sound.loading id).mpr same
  exact other eventsPerTick (runs.unique loads)

/-- The load test may be stopped. -/
theorem stop_load (sound : TimersSound loop flush load active) :
    TimersSound (loop.clear load) flush none false := by
  obtain ⟨id, ticking⟩ := sound.workers
  refine ⟨sound.periods.clear _, ⟨id, ?_⟩, ?_, ?_, rfl⟩
  · exact (sound.runs_stop .workers (fun _ => nofun) id).mpr ticking
  · intro id
    rw [sound.runs_stop .flush (fun _ => nofun) id]
    exact sound.flushing id
  · intro id
    refine iff_of_false ?_ nofun
    rintro ⟨eventsPerTick, runs⟩
    rw [EventLoop.runs_clear] at runs
    exact runs.2 ((sound.loading id).mp ⟨eventsPerTick, runs.1⟩)

/-- The load test may be started when it is stopped. -/
theorem start_load (sound : TimersSound loop flush none active) (eventsPerTick : JsNum) :
    TimersSound (loop.set (.loadTest eventsPerTick) 25 (some 25)) flush (some loop.nextId)
      true := by
  obtain ⟨id, ticking⟩ := sound.workers
  refine ⟨sound.periods.set rfl _, ⟨id, EventLoop.runs_set.mpr (.inl ticking)⟩, ?_, ?_, rfl⟩
  · intro id
    rw [EventLoop.runs_set, ← sound.flushing id]
    refine or_iff_left fun new => ?_
    cases new.2
  · intro id
    have stopped (given : JsNum) : ¬ loop.Runs id (.loadTest given) := by
      intro runs
      cases (sound.loading id).mp ⟨given, runs⟩
    simp only [EventLoop.runs_set, stopped, false_or, Task.loadTest.injEq, Option.some.injEq]
    constructor
    · rintro ⟨_, same, _⟩
      exact same.symm
    · intro same
      exact ⟨eventsPerTick, same.symm, rfl⟩

/-- Firing leaves the tickers. -/
theorem runs_fire {timer : Timer Task} (sound : TimersSound loop flush load active)
    (live : timer ∈ loop.timers) (task : Task) (other : timer.task = task → task.period ≠ none)
    (id : Nat) : (loop.fire timer).Runs id task ↔ loop.Runs id task := by
  rw [EventLoop.runs_fire]
  refine and_iff_left_of_imp fun runs => ?_
  rintro once rfl
  have same : timer.task = task := EventLoop.Runs.unique ⟨timer, live, rfl, rfl⟩ runs
  have ticker := other same
  rw [← same, ← sound.periods timer live] at ticker
  exact ticker once

/-- A timer may fire. -/
theorem fire {timer : Timer Task} (sound : TimersSound loop flush load active)
    (live : timer ∈ loop.timers) : TimersSound (loop.fire timer) flush load active := by
  obtain ⟨id, ticking⟩ := sound.workers
  refine ⟨sound.periods.fire timer, ⟨id, ?_⟩, ?_, ?_, sound.active⟩
  · exact (sound.runs_fire live .workers (fun _ => Option.some_ne_none 10) id).mpr ticking
  · intro id
    rw [sound.runs_fire live .flush (fun _ => Option.some_ne_none 50) id]
    exact sound.flushing id
  · intro id
    rw [← sound.loading id]
    exact exists_congr fun eventsPerTick =>
      sound.runs_fire live (.loadTest eventsPerTick) (fun _ => Option.some_ne_none 25) id

end TimersSound

/-! ### What the methods keep -/

/-- The timers are sound, the pending releases are those given, and the numbers of workers are
related as given. -/
def Process.Steady (releases : Nat → Prop) (workers : JsNum → JsNum → Prop) (p : Process) : Prop :=
  p.TimersSound ∧ (∀ id, p.loop.Runs id .release ↔ releases id) ∧
    workers p.engine.workerCount p.engine.activeWorkers

section Steady

variable {releases : Nat → Prop} {workers : JsNum → JsNum → Prop} (env : Env)

/-- A call of `startBatchTicker`. -/
theorem steady_startBatchTicker :
    Keeps (Process.Steady releases workers) startBatchTicker := by
  rintro p ⟨sound, pending, related⟩
  refine ⟨sound.restart_flush, fun id => ?_, related⟩
  exact (sound.runs_restart .release nofun id).trans (pending id)

/-- A call of `stopLoadTest`. -/
theorem steady_stopLoadTest : Keeps (Process.Steady releases workers) (stopLoadTest env) := by
  rintro p ⟨sound, pending, related⟩
  simp only [stopLoadTest, run_bind, run_update, run_engine, run_clearTimer, run_addLog,
    andThen_ok, after_state]
  refine ⟨sound.stop_load, fun id => ?_, related⟩
  exact (sound.runs_stop .release (fun _ => nofun) id).trans (pending id)

/-- A call of `startLoadTest`. -/
theorem steady_startLoadTest (targetRps : JsNum) (scenario : String) :
    Keeps (Process.Steady releases workers) (startLoadTest env targetRps scenario) := by
  rintro p ⟨sound, pending, related⟩
  simp only [startLoadTest, stopLoadTest, run_bind, run_update, run_engine, run_clearTimer,
    run_addLog, run_setTimer, andThen_ok, after_mk]
  refine ⟨sound.stop_load.start_load _, fun id => ?_, related⟩
  rw [EventLoop.runs_set, sound.runs_stop .release (fun _ => nofun) id, pending id]
  exact or_iff_left fun new => absurd new.2 nofun

/-- A new log entry. -/
theorem steady_addLog {level : LogLevel} {msg caller : String} {fields : JsValue} :
    Keeps (Process.Steady releases workers) (addLog env level msg caller fields) :=
  keeps_addLog fun _ _ held => held

/-- A timer that ends a shutdown. -/
theorem steady_setReset :
    Keeps (Process.Steady releases workers) (setTimer .reset 2000 none) := by
  rintro p ⟨sound, pending, related⟩
  refine ⟨sound.set_other .reset nofun (fun _ => nofun) _, fun id => ?_, related⟩
  rw [run_setTimer, EventLoop.runs_set, pending id]
  exact or_iff_left fun new => absurd new.2 nofun

/-- A flush. -/
theorem steady_triggerFlush (reason : FlushReason) :
    Keeps (Process.Steady releases workers) (triggerFlush env reason) :=
  keeps_of_view Process.exceptFlush (fun _ => Iff.rfl) (keeps_triggerFlush env reason)

/-- A call of `simulateGracefulShutdown`. -/
theorem steady_shutdown :
    Keeps (Process.Steady releases workers) (simulateGracefulShutdown env) :=
  fun _ held => leaves_shutdown env (fun _ _ _ _ held => held) (steady_stopLoadTest env)
    (steady_triggerFlush env _) steady_setReset held

/-- A field of the configuration whose assignment keeps the relation. -/
theorem steady_assignClamped {cfg : JsValue} {name : String} {low high : JsNum}
    {assign : JsNum → Engine → Engine} {afterwards : Js Unit}
    (kept : ∀ (p : Process) value, p.Steady releases workers →
      Process.Steady releases workers { p with engine := assign value p.engine })
    (rest : Keeps (Process.Steady releases workers) afterwards) :
    Keeps (Process.Steady releases workers)
      (assignClamped cfg name low high assign afterwards) := by
  refine keeps_bind (keeps_lift _) fun _ => keeps_ite ?_ (keeps_pure ())
  exact keeps_bind (keeps_lift _) fun _ => keeps_bind (keeps_update fun p => kept p _) fun _ => rest

/-- A call of `updateConfig`, after its first step. -/
theorem steady_updateConfig {cfg : JsValue} {p : Process}
    (first : ((updateWorkerCount cfg).run p).state.Steady releases workers) :
    ((updateConfig env cfg).run p).state.Steady releases workers := by
  refine leaves_bind first fun _ => ?_
  refine keeps_bind (steady_assignClamped (fun _ _ held => held) (keeps_pure ())) fun _ => ?_
  refine keeps_bind (steady_assignClamped (fun _ _ held => held) (keeps_pure ())) fun _ => ?_
  refine keeps_bind (steady_assignClamped (fun _ _ held => held) steady_startBatchTicker)
    fun _ => ?_
  refine keeps_bind ?_ fun _ => keeps_bind ?_ fun _ => steady_addLog env
  · exact keeps_bind (keeps_lift _) fun _ => keeps_onlyIf (keeps_update fun _ held => held)
  · refine keeps_bind (keeps_lift _) fun _ => keeps_ite ?_ (keeps_pure ())
    refine keeps_bind (keeps_update fun _ held => held) fun _ => ?_
    exact keeps_bind (keeps_lift _) fun _ => keeps_update fun _ held => held

/-- A request that does not change the configuration. -/
theorem steady_request (request : Request) (other : ∀ cfg, request ≠ .updateConfig cfg) :
    Keeps (Process.Steady releases workers) (request.call env) := by
  refine keeps_request env (fun _ => Iff.rfl) request ?_ (steady_stopLoadTest env) ?_ ?_
  · exact fun targetRps scenario _ => steady_startLoadTest env targetRps scenario
  · exact fun cfg same => absurd same (other cfg)
  · exact fun _ => steady_shutdown env

/-- A callback of neither the workers nor their release. -/
theorem steady_callback (task : Task) (other : task ≠ .workers ∧ task ≠ .release) :
    Keeps (Process.Steady releases workers) (task.callback env) := by
  refine keeps_callback env (fun _ => Iff.rfl) task ?_ ?_ ?_ ?_ ?_
  · exact fun same => absurd same other.1
  · exact fun same => absurd same other.2
  · exact fun _ => keeps_bind keeps_engine fun _ => keeps_onlyIf (steady_triggerFlush env _)
  · exact keeps_update fun _ held => held
  · exact fun _ => keeps_update fun _ held => held

end Steady

end IngestionEngine.Server
