import IngestionEngine.Server.Intervals
import IngestionEngine.Server.Memory

/-!
# The pace of the workers

The workers tick every 10 ms, and the release that a tick leaves pending comes before the next one.
As long as every release and every configuration leave a whole worker free, a tick takes at least 25
events of the queue, or all of them.
-/

namespace IngestionEngine.Server

open Systems Program

/-- Timers fire on time, and releases and configurations leave room for whole workers. -/
def Scheduled (p : Process) (action : Act) : Prop :=
  (Punctual p action ∧ Timely p action) ∧ LeavesRoom p action ∧ IntegerConfig p action

instance (p : Process) (action : Act) : Decidable (Scheduled p action) :=
  inferInstanceAs (Decidable ((Punctual p action ∧ Timely p action) ∧
    LeavesRoom p action ∧ IntegerConfig p action))

/-! ### Releases -/

/-- Every release that is pending was pending before, or it has been set since. -/
structure Releases (before : EventLoop Task) (time : Int) (p : Process) : Prop where
  /-- The callback has started at the given time. -/
  now : p.loop.time = time
  /-- Identifiers are not given out again. -/
  used : before.nextId ≤ p.loop.nextId
  /-- The releases. -/
  pending : ∀ timer ∈ p.loop.timers, timer.task = .release →
    timer ∈ before.timers ∨ before.nextId ≤ timer.id ∧ timer.due = time + 8

section Releases

variable {before : EventLoop Task} {time : Int}

/-- A timer may be set. -/
theorem releases_set (new : Task) (delay : Int) (period : Option Int)
    (soon : new = .release → delay = 8) :
    Keeps (Releases before time) (setTimer new delay period) := by
  intro p held
  refine ⟨held.now, Nat.le_succ_of_le held.used, fun timer live releases => ?_⟩
  rcases EventLoop.mem_set.mp live with old | rfl
  · exact held.pending timer old releases
  · refine .inr ⟨held.used, ?_⟩
    rw [soon releases, held.now]

/-- A timer may be cleared. -/
theorem Releases.clear {p : Process} (held : Releases before time p) (handle : Option Nat) :
    Releases before time { p with loop := p.loop.clear handle } :=
  ⟨held.now, held.used, fun timer live => held.pending timer (EventLoop.mem_clear.mp live).1⟩

/-- What is known of the releases endures every method. -/
theorem releases_endures : Endures (Releases before time) where
  assigned := fun _ _ _ held => ⟨held.now, held.used, held.pending⟩
  stopped := fun p held => ⟨held.now, held.used, (held.clear p.engine.loadTestTimer).pending⟩
  started := by
    intro p eventsPerTick _ held
    have started := releases_set (.loadTest eventsPerTick) 25 (some 25) (by simp) p held
    exact ⟨started.now, started.used, started.pending⟩
  released := fun p held => releases_set .release 8 none (fun _ => rfl) p held
  restarted := by
    intro p held
    have set := releases_set .flush 50 (some 50) (by simp) _
      (held.clear p.engine.flushIntervalId)
    exact ⟨set.now, set.used, set.pending⟩

/-- A step leaves no releases but those that were pending and a new one. -/
theorem step_releases {p after : Process} {action : Act} {out : List Obs} (sound : p.TimersSound)
    (stepped : step p action = some (after, out)) : Releases p.loop action.clock after := by
  cases step_cases stepped with
  | @request env request alive =>
    rw [respond_state]
    exact releases_endures.any_request env (fun _ _ held => ⟨held.now, held.used, held.pending⟩)
      (releases_set .reset 2000 none (by simp)) request (p.begin env)
      ⟨rfl, le_rfl, fun timer live _ => .inl live⟩
  | @fire env timer alive live =>
    have fired : Releases p.loop env.clock (p.fired env timer) := by
      refine ⟨fire_time _ timer, ?_, fun other pending releases => ?_⟩
      · show _ ≤ ((p.begin env).loop.fire timer).nextId
        rw [EventLoop.fire]
        cases timer.period <;> exact le_rfl
      · rcases EventLoop.of_mem_fire pending with old | ⟨interval, old, inside, same, task⟩
        · exact .inl old
        · -- an interval is due again, and no interval is a release
          have one : old ∈ p.loop.timers := inside
          obtain rfl := EventLoop.eq_of_id one live same
          have period := sound.periods old inside
          rw [← task, releases] at period
          exact absurd period interval
    have left := releases_endures.any_callback env
      (fun _ _ held => ⟨held.now, held.used, held.pending⟩) timer.task _ fired
    obtain ⟨now, used, pending⟩ := left
    rw [← (finish_state ((timer.task.callback env).run (p.fired env timer))).1] at now used pending
    exact ⟨now, used, pending⟩

end Releases

/-! ### The tick of the workers -/

/-- Nothing sets `isPaused`. -/
theorem step_awake {p after : Process} {action : Act} {out : List Obs}
    (awake : p.engine.isPaused = false) (stepped : step p action = some (after, out)) :
    after.engine.isPaused = false := by
  let holds (q : Process) : Prop := q.engine.isPaused = false
  have stop (env : Env) : Keeps holds (stopLoadTest env) :=
    keeps_stopLoadTest env (fun _ _ _ _ held => held) fun _ _ held => held
  have flush (env : Env) (reason : FlushReason) : Keeps holds (triggerFlush env reason) :=
    keeps_of_view Process.exceptFlush (fun _ => Iff.rfl) (keeps_triggerFlush env reason)
  cases step_cases stepped with
  | @request env request alive =>
    have kept : Keeps holds (request.call env) := by
      refine keeps_request env (fun _ => Iff.rfl) request ?_ (stop env) ?_ ?_
      · rintro targetRps scenario -
        refine keeps_bind (stop env) fun _ => ?_
        refine keeps_bind (keeps_update fun _ held => held) fun _ => ?_
        refine keeps_bind (keeps_addLog fun _ _ held => held) fun _ => ?_
        refine keeps_bind (fun _ held => held) fun _ => ?_
        exact keeps_update fun _ held => held
      · exact fun cfg _ => keeps_of_view Process.exceptConfig (fun _ => Iff.rfl) fun _ =>
          keeps_updateConfig env cfg
      · exact fun _ p held => leaves_shutdown env (fun _ _ _ _ held => held) (stop env)
          (flush env _) (fun _ held => held) held
    rw [respond_state]
    exact kept (p.begin env) awake
  | @fire env timer alive live =>
    have kept : Keeps holds (timer.task.callback env) := by
      refine keeps_callback env (fun _ => Iff.rfl) timer.task ?_ ?_ ?_ ?_ ?_
      · exact fun _ => keeps_workerTick env (fun _ held => held) (flush env _) fun _ held => held
      · exact fun _ => keeps_update fun _ held => held
      · exact fun _ => keeps_bind keeps_engine fun _ => keeps_onlyIf (flush env _)
      · exact keeps_update fun _ held => held
      · exact fun _ => keeps_update fun _ held => held
    rw [(finish_state _).2]
    exact kept (p.fired env timer) awake

/-- A whole worker is free. -/
def Engine.Free (e : Engine) : Prop :=
  ∃ count active : ℤ, e.workerCount = .fin count ∧ e.activeWorkers = .fin active ∧ active < count

/-- With whole workers, room for one event is a free worker. -/
theorem free_of_room {e : Engine} {count active : ℤ} (isCount : e.workerCount = .fin count)
    (isActive : e.activeWorkers = .fin active) (room : Room e.workerCount e.activeWorkers) :
    e.Free := by
  rw [isCount, isActive, room_fin] at room
  refine ⟨count, active, isCount, isActive, ?_⟩
  by_contra full
  have none : ((count : ℚ) - active) * 25 ≤ 0 := by
    have above : (count : ℚ) ≤ active := by exact_mod_cast not_lt.mp full
    linarith
  linarith

/-- A free worker is room. -/
theorem room_of_free {e : Engine} (free : e.Free) : Room e.workerCount e.activeWorkers := by
  obtain ⟨count, active, isCount, isActive, less⟩ := free
  have whole : (active : ℚ) + 1 ≤ count := by exact_mod_cast less
  rw [isCount, isActive, room_fin]
  linarith

/-- A tick that finds a free worker takes 25 events, or all there are. -/
theorem tick_takes {e : Engine} (free : e.Free) (running : e.isShuttingDown = false)
    (awake : e.isPaused = false) (waiting : e.queue ≠ []) :
    e.Ticks ∧ min 25 e.queue.length ≤ e.items.length := by
  have room := room_of_free free
  obtain ⟨count, active, isCount, isActive, less⟩ := free
  refine ⟨((ticks_iff_room isCount isActive waiting running awake).mpr room).1, ?_⟩
  have chunk : e.chunkSize = .fin (min (((count : ℚ) - active) * 25) e.queue.length) := by
    rw [Engine.chunkSize, Engine.availableWorkers, isCount, isActive, JsNum.sub_fin,
      JsNum.literal_fin, JsNum.mul_fin, JsNum.ofNat_fin, JsNum.min_fin]
  have whole : (active : ℚ) + 1 ≤ count := by exact_mod_cast less
  have worker : (25 : ℚ) ≤ ((count : ℚ) - active) * 25 := by linarith
  have taken : ((min 25 e.queue.length : ℕ) : ℤ) ≤
      ⌊min (((count : ℚ) - active) * 25) e.queue.length⌋ := by
    rw [Int.le_floor]
    push_cast
    exact min_le_min_right _ worker
  rw [Engine.items, List.length_take, chunk, JsNum.spliceCount]
  show _ ≤ min (min _ _) _
  omega

/-- A step that leaves room leaves a release pending, or a whole worker free. -/
theorem step_free {p after : Process} {action : Act} {out : List Obs} (numeric : p.Numeric)
    (integral : p.engine.config.Integral) (free : p.ReleasePending ∨ p.engine.Free)
    (room : LeavesRoom p action) (integers : IntegerConfig p action)
    (stepped : step p action = some (after, out)) : after.ReleasePending ∨ after.engine.Free := by
  obtain ⟨_, effect⟩ := step_workers numeric room.1 stepped
  have keeps := room.2
  obtain ⟨count, clamped, _⟩ := step_integral integral integers stepped .workerCount
  have isCount : after.engine.workerCount = .fin ((count : ℤ) : ℚ) := clamped
  rw [releasePending_iff] at free ⊢
  cases effect with
  | quiet _ _ pending same active =>
    rw [exists_congr pending, Engine.Free, same, active]
    exact free
  | configured pending same active =>
    rw [exists_congr pending]
    rcases free with old | ⟨_, busy, _, isActive, _⟩
    · exact .inl old
    · rcases keeps with old | room
      · exact .inl (releasePending_iff.mp old)
      · rw [← same, ← active] at room
        exact .inr (free_of_room isCount (active.trans isActive) room)
  | ticked _ pending => exact .inl ⟨_, pending⟩
  | released live pending same active =>
    rcases keeps live with ⟨timer, other, different, releases⟩ | short
    · exact .inl ⟨timer.id, (pending _).mpr ⟨⟨timer, other, rfl, releases⟩, different⟩⟩
    · have before : p.engine.workerCount = .fin ((count : ℤ) : ℚ) := same.symm.trans isCount
      have isActive : after.engine.activeWorkers =
          .fin ((max 0 (min (count : ℤ) ⌈(p.engine.queue.length : ℚ) / 50⌉) : ℤ) : ℚ) := by
        rw [active, busyWorkers_fin before]
        push_cast
        rfl
      have room := (busyWorkers_room before).mpr short
      rw [← same, ← active] at room
      exact .inr (free_of_room isCount isActive room)

/-- In a tick the events that are moved are seen first. -/
theorem tick_moves {p after : Process} {env : Env} {ticker : Timer Task} {out : List Obs}
    (live : ticker ∈ p.loop.timers) (task : ticker.task = .workers) (free : p.engine.Free)
    (running : p.engine.isShuttingDown = false) (awake : p.engine.isPaused = false)
    (stepped : step p (.fire env ticker.id) = some (after, out)) :
    p.engine.queue = [] ∨ ∃ rest, out = .moved env.clock p.engine.items :: rest ∧
      min 25 p.engine.queue.length ≤ p.engine.items.length := by
  by_cases waiting : p.engine.queue = []
  · exact .inl waiting
  · obtain ⟨ticks, taken⟩ := tick_takes free running awake waiting
    have ran := fire_workers live task stepped
    obtain ⟨q, rest, _, moves⟩ := run_workerTick_busy env
      (show (p.fired env ticker).engine.Ticks from ticks)
    rw [finish_ok (workerTick_returns env _), moves] at ran
    exact .inr ⟨rest, (Prod.mk.inj ran).2, taken⟩

/-! ### When the workers tick -/

/-- The timer of the workers. -/
def workersTimer (next : Int) : Timer Task := ⟨0, .workers, next, some 10⟩

/-- When the workers tick after an action. -/
def Act.nextTick (action : Act) (next : Int) : Int := if action.fires 0 then next + 10 else next

/-- The workers tick next at the given time, and find a worker free. -/
structure Serving (next : Int) (p : Process) : Prop where
  /-- Their timer. -/
  live : workersTimer next ∈ p.loop.timers
  /-- There is no other. -/
  sole : p.Sole .workers 0
  /-- The tick has not passed. -/
  waits : p.loop.time ≤ next
  /-- It comes within its period. -/
  soon : next ≤ p.loop.time + 10
  /-- The releases come before it. -/
  releases : ∀ timer ∈ p.loop.timers, timer.task = .release → timer.due + 2 ≤ next
  /-- The numbers are finite. -/
  numeric : p.Numeric
  /-- The configured numbers are integers. -/
  integral : p.engine.config.Integral
  /-- A release is pending, or a worker is free. -/
  free : p.ReleasePending ∨ p.engine.Free
  /-- The engine is not paused. -/
  awake : p.engine.isPaused = false

/-- Only a tick of the workers leaves a release that was not pending. -/
theorem release_before {p after : Process} {action : Act} (effect : WorkerStep p after action)
    (sole : p.Sole .workers 0) (other : action.fires 0 = false) {id : Nat}
    (runs : after.loop.Runs id .release) : p.loop.Runs id .release := by
  cases effect with
  | quiet _ _ pending => exact (pending id).mp runs
  | configured pending => exact (pending id).mp runs
  | released _ pending => exact ((pending id).mp runs).1
  | @ticked env fired _ ticker =>
    have own : (Act.fire env fired).fires 0 = true := decide_eq_true (sole fired ticker)
    rw [own] at other
    contradiction

section Serving

variable {next : Int} {p after : Process} {action : Act} {out : List Obs}

/-- A step on schedule keeps that, with the next tick one period later after a tick. -/
theorem step_serving (serving : Serving next p) (scheduled : Scheduled p action)
    (stepped : step p action = some (after, out)) : Serving (action.nextTick next) after := by
  obtain ⟨live, sole, waits, soon, releases, numeric, integral, free, awake⟩ := serving
  obtain ⟨⟨punctual, timely⟩, room, whole⟩ := scheduled
  have now := step_time stepped
  have onward : p.loop.time ≤ action.clock := punctual.1
  have held := step_holds (by simp [workersTimer]) numeric.1 live rfl stepped
  have pending := held.pending (.inl (by unfold Act.renewed; split <;> simp [workersTimer]))
  have left := step_releases numeric.1 stepped
  obtain ⟨numbers, effect⟩ := step_workers numeric room.1 stepped
  have integers := step_integral integral whole stepped
  have freed := step_free numeric integral free room whole stepped
  rw [Act.nextTick]
  cases fires : action.fires 0 with
  | true =>
    have due : action.clock = next := punctual_due punctual live rfl fires
    have renewed : action.renewed (workersTimer next) 10 = workersTimer (next + 10) := by
      have own : action.fires (workersTimer next).id = true := fires
      rw [Act.renewed, if_pos own, due]
      rfl
    rw [renewed] at pending
    rw [if_pos rfl]
    refine ⟨pending, step_sole rfl sole stepped, ?_, ?_, fun timer live task => ?_, numbers,
      integers, freed, step_awake awake stepped⟩
    · omega
    · omega
    · rcases left.pending timer live task with old | ⟨_, later⟩
      · have before := releases timer old task
        omega
      · omega
  | false =>
    have due : action.clock ≤ next := (punctual.2 _ live (Option.some_ne_none _)).1
    have same : action.renewed (workersTimer next) 10 = workersTimer next :=
      if_neg fun own => Bool.false_ne_true (fires.symm.trans own)
    rw [same] at pending
    rw [if_neg Bool.false_ne_true]
    refine ⟨pending, step_sole rfl sole stepped, ?_, ?_, fun timer live task => ?_, numbers,
      integers, freed, step_awake awake stepped⟩
    · omega
    · omega
    · rcases left.pending timer live task with old | ⟨new, _⟩
      · exact releases timer old task
      · have before := (release_before effect sole fires ⟨timer, live, rfl, task⟩).fresh
        omega

/-- No release is pending when the workers tick. -/
theorem tick_free (serving : Serving next p) (timely : Timely p action)
    (due : action.clock = next) : p.engine.Free := by
  refine serving.free.resolve_left ?_
  rintro ⟨timer, live, releases⟩
  have once : timer.period = none := by
    rw [serving.numeric.1.periods timer live, releases]
    rfl
  have before := (timely.2 timer live once).1
  have soon := serving.releases timer live releases
  omega

/-- The constructor leaves the workers to tick 10 ms later. -/
theorem start_serving (env : Env) : Serving (env.clock + 10) (.start env) := by
  refine ⟨?_, (start_sole env).1, ?_, le_rfl, ?_, start_numeric env, (start_bounded env).integral,
    .inr ⟨32, 0, JsNum.literal_fin 32, JsNum.zero_fin, by norm_num⟩, rfl⟩
  · simp [start_timers, workersTimer]
  · show env.clock ≤ env.clock + 10
    omega
  · intro timer live releases
    simp only [start_timers, List.mem_cons, List.not_mem_nil, or_false] at live
    rcases live with rfl | rfl | rfl <;> contradiction

end Serving

end IngestionEngine.Server
