import IngestionEngine.Server.Ticker

/-!
# One ticker of each kind

`startLoadTest` stops the load test before it starts it, a shutdown stops it, and `updateConfig`
clears the ticker that flushes before it sets the new one. So in every run one ticker flushes, the
one that the engine knows, and one runs the load test if it is active and none if it is not.
-/

namespace IngestionEngine.Server

open Systems

/-- The tick of `startBatchTicker`. -/
def Task.isFlush : Task → Bool
  | .flush => true
  | .workers | .release | .metrics | .loadTest _ | .reset => false

/-- The tick of `startLoadTest`. -/
def Task.isLoadTest : Task → Bool
  | .loadTest _ => true
  | .workers | .release | .flush | .metrics | .reset => false

/-- A flushing task is the tick of `startBatchTicker`. -/
theorem isFlush_eq {task : Task} : task.isFlush = true ↔ task = .flush := by
  cases task <;> simp [Task.isFlush]

/-- A task of the load test has its number of events. -/
theorem isLoadTest_eq {task : Task} :
    task.isLoadTest = true ↔ ∃ eventsPerTick, task = .loadTest eventsPerTick := by
  cases task <;> simp [Task.isLoadTest]

namespace TimersSound

variable {loop : EventLoop Task} {flush load : Option Nat} {active : Bool} {ticker : Timer Task}

/-- A ticker that flushes is the only one, and its handle names it. -/
theorem sole_flush (sound : TimersSound loop flush load active) (live : ticker ∈ loop.timers)
    (flushes : ticker.task = .flush) :
    loop.timers.filter (·.task.isFlush) = [ticker] ∧ flush = some ticker.id := by
  apply EventLoop.sole_named live (isFlush_eq.mpr flushes)
  intro id task own runs
  rw [isFlush_eq.mp own] at runs
  exact (sound.flushing id).mp runs

/-- A ticker of the load test is the only one, and its handle names it. -/
theorem sole_load (sound : TimersSound loop flush load active) (live : ticker ∈ loop.timers)
    (loads : ticker.task.isLoadTest = true) :
    loop.timers.filter (·.task.isLoadTest) = [ticker] ∧ load = some ticker.id := by
  apply EventLoop.sole_named live loads
  intro id task own runs
  obtain ⟨eventsPerTick, rfl⟩ := isLoadTest_eq.mp own
  exact (sound.loading id).mp ⟨eventsPerTick, runs⟩

/-- There is a ticker of the load test exactly when it is active. -/
theorem load_live (sound : TimersSound loop flush load active) :
    (∃ ticker ∈ loop.timers, ticker.task.isLoadTest = true) ↔ active = true := by
  rw [sound.active, Option.isSome_iff_exists]
  constructor
  · rintro ⟨ticker, live, loads⟩
    exact ⟨ticker.id, (sound.sole_load live loads).2⟩
  · rintro ⟨id, named⟩
    obtain ⟨eventsPerTick, ticker, live, _, task⟩ := (sound.loading id).mpr named
    exact ⟨ticker, live, isLoadTest_eq.mpr ⟨eventsPerTick, task⟩⟩

end TimersSound

/-- In every run a ticker flushes. -/
theorem run_flushes {env : Env} {seen : List Obs} {p : Process}
    (run : system.AnyRun (.start env) seen p) : ∃ ticker ∈ p.loop.timers, ticker.task = .flush := by
  have both : p.TimersSound ∧ ∃ ticker ∈ p.loop.timers, ticker.task = .flush := by
    refine run.state_invariant
      (fun p => p.TimersSound ∧ ∃ ticker ∈ p.loop.timers, ticker.task = .flush) ?_ ?_
    · refine ⟨start_sound env, ⟨1, .flush, env.clock + 50, some 50⟩, ?_, rfl⟩
      simp [start_timers]
    · rintro p action after out ⟨sound, ticker, live, flushes⟩ _ stepped
      obtain ⟨next, pending, again, _⟩ := step_ticker sound live flushes stepped
      exact ⟨step_sound sound stepped, next, pending, again⟩
  exact both.2

/-- In every run one ticker flushes, which is the one in `flushIntervalId`. One runs the load test
exactly when `loadTestActive` is set, and then it is the only one and the one in `loadTestTimer`. -/
theorem tickers_unique {env : Env} {seen : List Obs} {p : Process}
    (run : system.AnyRun (.start env) seen p) :
    (∃ ticker, p.loop.timers.filter (·.task.isFlush) = [ticker] ∧ ticker.period = some 50 ∧
      p.engine.flushIntervalId = some ticker.id) ∧
    ((∃ ticker ∈ p.loop.timers, ticker.task.isLoadTest = true) ↔
      p.engine.loadTestActive = true) ∧
    (p.engine.loadTestActive = true →
      ∃ ticker, p.loop.timers.filter (·.task.isLoadTest) = [ticker] ∧ ticker.period = some 25 ∧
        p.engine.loadTestTimer = some ticker.id) := by
  have sound : p.TimersSound := run_sound env run
  refine ⟨?_, sound.load_live, fun active => ?_⟩
  · obtain ⟨ticker, live, flushes⟩ := run_flushes run
    obtain ⟨sole, named⟩ := sound.sole_flush live flushes
    have period := sound.periods ticker live
    rw [flushes] at period
    exact ⟨ticker, sole, period, named⟩
  · obtain ⟨ticker, live, loads⟩ := sound.load_live.mpr active
    obtain ⟨sole, named⟩ := sound.sole_load live loads
    obtain ⟨eventsPerTick, task⟩ := isLoadTest_eq.mp loads
    have period := sound.periods ticker live
    rw [task] at period
    exact ⟨ticker, sole, period, named⟩

/-- The load test is started twice, the ticker restarted, a shutdown stops the load test and it is
started again: one ticker of each kind is left. -/
theorem tickers_unique_restarted : ∃ seen p, system.AnyRun (.start (.calm 0)) seen p ∧
    p.engine.loadTestActive = true ∧
    (∃ ticker, p.loop.timers.filter (·.task.isFlush) = [ticker] ∧ ticker.period = some 50 ∧
      p.engine.flushIntervalId = some ticker.id) ∧
    ∃ ticker, p.loop.timers.filter (·.task.isLoadTest) = [ticker] ∧ ticker.period = some 25 ∧
      p.engine.loadTestTimer = some ticker.id := by
  obtain ⟨seen, p, run, passed⟩ := System.exec_witness system System.unguarded (.start (.calm 0))
    [.request (.calm 1) (.startLoadTest 100 "steady"),
      .request (.calm 2) (.startLoadTest 200 "burst"),
      .request (.calm 3) (.updateConfig (.obj [("batchFlushWindowMs", .nat 100)])),
      .request (.calm 4) .simulateGracefulShutdown,
      .request (.calm 5) (.startLoadTest 300 "steady")]
    (fun last => last.1.engine.loadTestActive) (by decide +kernel)
  obtain ⟨flushes, _, loads⟩ := tickers_unique run
  exact ⟨seen, p, run, passed, flushes, loads passed⟩

end IngestionEngine.Server
