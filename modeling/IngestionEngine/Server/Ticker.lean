import IngestionEngine.Server.Shutdown

/-!
# The ticker that flushes

The ticker is due 50 ms after it has fired, and 50 ms after `updateConfig` has restarted it. Nothing
else moves it. The time of the last flush is that of the last step in which a batch was flushed.
-/

namespace IngestionEngine.Server

open Systems Program

/-- The action restarts the ticker that flushes. -/
def Act.restarts : Act → Bool
  | .request _ (.updateConfig cfg) => restartsTicker cfg
  | .request _ _ | .fire _ _ => false

/-! ### When the ticker is due -/

/-- The ticker that flushes is due at a time that is allowed. -/
structure Ticking (time : Int) (allowed : Int → Prop) (p : Process) : Prop where
  /-- The timers are sound. -/
  sound : p.TimersSound
  /-- The callback has started at the given time. -/
  now : p.loop.time = time
  /-- The ticker. -/
  ticker : ∃ ticker ∈ p.loop.timers, ticker.task = .flush ∧ allowed ticker.due

section Ticking

variable {time : Int} {allowed : Int → Prop}

/-- That the ticker is due endures every method that does not restart it. -/
theorem ticking_lasts : Lasts (Ticking time allowed) where
  assigned := by
    intro p e same ticking
    have sound : ({ p with engine := e } : Process).TimersSound :=
      sound_endures.assigned p e same ticking.sound
    exact ⟨sound, ticking.now, ticking.ticker⟩
  stopped := by
    intro p ticking
    obtain ⟨ticker, live, flushes, due⟩ := ticking.ticker
    have other : p.engine.loadTestTimer ≠ some ticker.id := by
      intro same
      obtain ⟨eventsPerTick, loads⟩ := (ticking.sound.loading ticker.id).mpr same
      have both := EventLoop.Runs.unique ⟨ticker, live, rfl, flushes⟩ loads
      contradiction
    refine ⟨sound_endures.stopped p ticking.sound, ticking.now, ticker, ?_, flushes, due⟩
    exact EventLoop.mem_clear.mpr ⟨live, other⟩
  started := by
    intro p eventsPerTick stopped ticking
    obtain ⟨ticker, live, flushes, due⟩ := ticking.ticker
    have sound := sound_endures.started p eventsPerTick stopped ticking.sound
    exact ⟨sound, ticking.now, ticker, EventLoop.mem_set.mpr (.inl live), flushes, due⟩
  released := by
    intro p ticking
    obtain ⟨ticker, live, flushes, due⟩ := ticking.ticker
    have sound := sound_endures.released p ticking.sound
    exact ⟨sound, ticking.now, ticker, EventLoop.mem_set.mpr (.inl live), flushes, due⟩

/-- A shutdown leaves its end pending beside the ticker. -/
theorem ticking_reset : Keeps (Ticking time allowed) (setTimer .reset 2000 none) := by
  intro p ticking
  obtain ⟨ticker, live, flushes, due⟩ := ticking.ticker
  have sound := ticking.sound.set_other .reset (by simp) (fun _ => by simp) 2000
  exact ⟨sound, ticking.now, ticker, EventLoop.mem_set.mpr (.inl live), flushes, due⟩

/-- A restart leaves the ticker due 50 ms later. -/
theorem ticking_restarted (later : allowed (time + 50)) :
    Keeps (Ticking time allowed) startBatchTicker := by
  intro p ticking
  have new : allowed (p.loop.time + 50) := by
    rw [ticking.now]
    exact later
  refine ⟨ticking.sound.restart_flush, ticking.now, ?_⟩
  exact ⟨⟨p.loop.nextId, .flush, p.loop.time + 50, some 50⟩, EventLoop.mem_set.mpr (.inr rfl), rfl,
    new⟩

/-- A firing of the ticker leaves it due 50 ms later, and the firing of another timer leaves it as
it is. -/
theorem fired_ticking {env : Env} {p : Process} {ticker timer : Timer Task}
    (sound : p.TimersSound) (live : ticker ∈ p.loop.timers) (flushes : ticker.task = .flush)
    (fires : timer ∈ p.loop.timers) (again : timer.id = ticker.id → allowed (env.clock + 50))
    (other : timer.id ≠ ticker.id → allowed ticker.due) :
    Ticking env.clock allowed (p.fired env timer) := by
  refine ⟨(TimersSound.advance sound env.clock).fire fires, fire_time _ timer, ?_⟩
  by_cases same : timer.id = ticker.id
  · have one := EventLoop.eq_of_id fires live same
    subst one
    have interval : timer.period = some 50 := by
      rw [sound.periods timer live, flushes]
      rfl
    have advanced : timer ∈ (p.loop.advance env.clock).timers := live
    exact ⟨_, EventLoop.mem_fire_again advanced interval, flushes, again rfl⟩
  · refine ⟨ticker, ?_, flushes, other same⟩
    exact EventLoop.mem_fire live fun different => same different.symm

/-- After a step the ticker is due when it was, or 50 ms later if it has fired or was restarted. -/
theorem step_ticker {p after : Process} {action : Act} {out : List Obs} {ticker : Timer Task}
    (sound : p.TimersSound) (live : ticker ∈ p.loop.timers) (flushes : ticker.task = .flush)
    (stepped : step p action = some (after, out)) :
    ∃ next ∈ after.loop.timers, next.task = .flush ∧ (next.due = ticker.due ∨
      next.due = action.clock + 50 ∧
        (action.fires ticker.id = true ∨ action.restarts = true)) := by
  let due (time : Int) : Prop := time = ticker.due ∨
    time = action.clock + 50 ∧ (action.fires ticker.id = true ∨ action.restarts = true)
  suffices left : Ticking action.clock due after from left.ticker
  have flagged (p : Process) (flag : Bool) (ticking : Ticking action.clock due p) :
      Ticking action.clock due
        { p with engine := { p.engine with isShuttingDown := flag } } :=
    ⟨ticking.sound, ticking.now, ticking.ticker⟩
  cases step_cases stepped with
  | @request env request alive =>
    rw [respond_state]
    have begun : Ticking env.clock due (p.begin env) :=
      ⟨TimersSound.advance sound env.clock, rfl, ticker, live, flushes, .inl rfl⟩
    refine ticking_lasts.any_request env flagged ticking_reset request ?_ _ begun
    rintro cfg rfl restarts
    exact ticking_restarted (.inr ⟨rfl, .inr restarts⟩)
  | @fire env timer alive fires =>
    have begun : Ticking env.clock due (p.fired env timer) :=
      fired_ticking sound live flushes fires
        (fun same => .inr ⟨rfl, .inl (decide_eq_true same)⟩) fun _ => .inl rfl
    have left := ticking_lasts.any_callback env flagged timer.task _ begun
    obtain ⟨loop, engine⟩ := finish_state ((timer.task.callback env).run (p.fired env timer))
    obtain ⟨sound, now, pending⟩ := left
    unfold Process.TimersSound at sound
    rw [← loop, ← engine] at sound
    rw [← loop] at now pending
    exact ⟨sound, now, pending⟩

end Ticking

/-! ### When the last batch was flushed -/

section Flushes

variable (env : Env)

/-- A flush of a buffer that is not empty leaves its time, and one more batch. -/
theorem triggerFlush_leaves {p : Process} (reason : FlushReason)
    (some : p.engine.batchBuffer.length ≠ 0) :
    ((triggerFlush env reason).run p).state.engine.lastFlushTime = env.clock ∧
      ((triggerFlush env reason).run p).state.engine.totalBatchesFlushed =
        p.engine.totalBatchesFlushed + 1 := by
  simp only [triggerFlush, run_bind, run_engine, andThen_ok, if_neg some, run_update]
  split <;> simp only [run_bind, run_emit, run_update, run_addLog, andThen_ok, after_mk, and_self]

/-- The last flush was at a time and left a number of batches, or it is one of this callback. -/
def LastFlush (time : Int) (batches : Nat) (e : Engine) : Prop :=
  (e.lastFlushTime = time ∧ e.totalBatchesFlushed = batches) ∨
    (e.lastFlushTime = env.clock ∧ batches < e.totalBatchesFlushed)

variable {env} {time : Int} {batches : Nat}

/-- Flushes keep that. -/
theorem lastFlush_settles : Settles env (LastFlush env time batches) where
  assigned := by
    intro e after same held
    simp only [Engine.settled, Prod.mk.injEq] at same
    obtain ⟨_, _, last, count⟩ := same
    unfold LastFlush
    rw [last, count]
    exact held
  flushed := by
    intro reason p held
    by_cases empty : p.engine.batchBuffer.length = 0
    · simp only [triggerFlush, run_bind, run_engine, andThen_ok, if_pos empty]
      exact held
    · obtain ⟨last, count⟩ := triggerFlush_leaves env reason empty
      have before : batches ≤ p.engine.totalBatchesFlushed := by
        rcases held with ⟨_, same⟩ | ⟨_, more⟩ <;> omega
      refine .inr ⟨last, ?_⟩
      rw [count]
      omega

/-- `updateConfig` keeps it too. -/
theorem lastFlush_updateConfig (cfg : JsValue) :
    Keeps (fun p => LastFlush env time batches p.engine) (updateConfig env cfg) :=
  keeps_of_view Process.exceptConfig (fun _ => Iff.rfl) fun _ => keeps_updateConfig env cfg

end Flushes

/-- A step leaves the time of the last flush and the number of batches, or it flushes. -/
theorem step_lastFlush {p after : Process} {action : Act} {out : List Obs}
    (stepped : step p action = some (after, out)) :
    LastFlush action.env p.engine.lastFlushTime p.engine.totalBatchesFlushed after.engine := by
  have before : LastFlush action.env p.engine.lastFlushTime p.engine.totalBatchesFlushed
      p.engine := .inl ⟨rfl, rfl⟩
  cases step_cases stepped with
  | @request env request alive =>
    rw [respond_state]
    by_cases config : ∃ cfg, request = .updateConfig cfg
    · obtain ⟨cfg, rfl⟩ := config
      exact lastFlush_updateConfig cfg (p.begin env) before
    · have other : ∀ cfg, request ≠ .updateConfig cfg := fun cfg same => config ⟨cfg, same⟩
      exact lastFlush_settles.request other (p.begin env) before
  | @fire env timer alive live =>
    rw [(finish_state _).2]
    exact lastFlush_settles.callback timer.task (p.fired env timer) before

/-- The ticker is due within 50 ms of the last step, and the last flush is not after it. -/
structure Process.Paced (p : Process) : Prop where
  /-- The timers are sound. -/
  sound : p.TimersSound
  /-- The last flush. -/
  last : p.engine.lastFlushTime ≤ p.loop.time
  /-- The ticker. -/
  ticker : ∃ ticker ∈ p.loop.timers, ticker.task = .flush ∧ ticker.due ≤ p.loop.time + 50

/-- A step that does not go back in time keeps that. -/
theorem step_paced {p after : Process} {action : Act} {out : List Obs} (paced : p.Paced)
    (onward : Onward p action) (stepped : step p action = some (after, out)) : after.Paced := by
  have now : after.loop.time = action.clock := step_time stepped
  have later : p.loop.time ≤ action.clock := onward
  have before := paced.last
  refine ⟨step_sound paced.sound stepped, ?_, ?_⟩
  · have clock : action.env.clock = action.clock := by
      cases action <;> rfl
    rcases step_lastFlush stepped with ⟨last, _⟩ | ⟨last, _⟩
    · rw [last, now]
      omega
    · rw [last, now, clock]
  · obtain ⟨ticker, live, flushes, due⟩ := paced.ticker
    obtain ⟨next, pending, again, moved⟩ := step_ticker paced.sound live flushes stepped
    refine ⟨next, pending, again, ?_⟩
    rw [now]
    rcases moved with same | ⟨new, _⟩ <;> omega

/-- In every run whose clock does not go back the ticker is due within 50 ms. -/
theorem run_paced {env : Env} {seen : List Obs} {p : Process}
    (run : system.Run Onward (.start env) seen p) : p.Paced := by
  refine run.state_invariant Process.Paced ?_ fun _ _ _ _ => step_paced
  refine ⟨start_sound env, le_rfl, ⟨1, .flush, env.clock + 50, some 50⟩, ?_, rfl, le_rfl⟩
  simp [start_timers]

end IngestionEngine.Server
