import IngestionEngine.Server.Numeric

/-!
# Whether the workers stall

A tick takes events only while the workers that are not active have room for one. The release
that follows a tick computes the active workers anew, from the queue it finds: with a long
queue it leaves every worker active, and from then on no tick does anything. A change of the
worker count can do the same. Nothing else does.
-/

namespace IngestionEngine.Server

open Systems Program

/-- The workers that are not active can take an event. -/
def Room (workerCount activeWorkers : JsNum) : Prop :=
  JsNum.le 1 ((workerCount.sub activeWorkers).mul 25) = true

instance (workerCount activeWorkers : JsNum) : Decidable (Room workerCount activeWorkers) :=
  inferInstanceAs (Decidable (_ = true))

/-- A release of the workers is pending. -/
def Process.ReleasePending (p : Process) : Prop := ∃ timer ∈ p.loop.timers, timer.task = .release

instance (p : Process) : Decidable p.ReleasePending :=
  inferInstanceAs (Decidable (∃ timer ∈ p.loop.timers, timer.task = .release))

/-- The action leaves a release pending, or room: a release finds a queue that is short for
the worker count, and a configuration asks for enough workers. -/
def KeepsRoom (p : Process) : Act → Prop
  | .request _ (.updateConfig cfg) =>
    p.ReleasePending ∨
      Room (configuredWorkers cfg p.engine.workerCount) p.engine.activeWorkers
  | .fire _ id =>
    (∃ timer ∈ p.loop.timers, timer.id = id ∧ timer.task = .release) →
      (∃ timer ∈ p.loop.timers, timer.id ≠ id ∧ timer.task = .release) ∨
        Room p.engine.workerCount ((JsNum.ofNat p.engine.queue.length).div 50).ceil
  | .request _ _ => True

instance (p : Process) (action : Act) : Decidable (NumericConfig p action) :=
  match action with
  | .request _ (.updateConfig cfg) => inferInstanceAs (Decidable (numericConfig cfg = true))
  | .fire _ _ => inferInstanceAs (Decidable True)
  | .request _ (.ingestSingle _) | .request _ (.ingestBatch _) | .request _ .getMetrics
  | .request _ (.startLoadTest _ _) | .request _ .stopLoadTest
  | .request _ .simulateGracefulShutdown => inferInstanceAs (Decidable True)

/-- The configuration is numeric and the action keeps room. -/
def LeavesRoom (p : Process) (action : Act) : Prop := NumericConfig p action ∧ KeepsRoom p action

instance (p : Process) (action : Act) : Decidable (LeavesRoom p action) :=
  match action with
  | .request _ (.updateConfig cfg) =>
    inferInstanceAs (Decidable (numericConfig cfg = true ∧ (p.ReleasePending ∨
      Room (configuredWorkers cfg p.engine.workerCount) p.engine.activeWorkers)))
  | .fire _ id =>
    inferInstanceAs (Decidable (True ∧
      ((∃ timer ∈ p.loop.timers, timer.id = id ∧ timer.task = .release) →
        (∃ timer ∈ p.loop.timers, timer.id ≠ id ∧ timer.task = .release) ∨
          Room p.engine.workerCount ((JsNum.ofNat p.engine.queue.length).div 50).ceil)))
  | .request _ (.ingestSingle _) | .request _ (.ingestBatch _) | .request _ .getMetrics
  | .request _ (.startLoadTest _ _) | .request _ .stopLoadTest
  | .request _ .simulateGracefulShutdown => inferInstanceAs (Decidable (True ∧ True))

/-- Events of a process that has not ended wait for the next tick. -/
def Process.Waiting (p : Process) : Prop :=
  p.engine.queue ≠ [] ∧ p.engine.isShuttingDown = false ∧ p.engine.isPaused = false ∧
    ¬ p.ReleasePending ∧ p.crashed = false

/-- There is a next tick of the workers, and it moves an event from the queue to the buffer. -/
def Process.TickMoves (p : Process) : Prop :=
  (∃ id, p.loop.Runs id .workers) ∧
    ∀ id, p.loop.Runs id .workers → ∀ env, ∃ (after : Process) (out : List Obs)
      (items : List TelemetryEvent), step p (.fire env id) = some (after, out) ∧ items ≠ [] ∧
        p.engine.queue = items ++ after.engine.queue ∧ .moved env.clock items ∈ out

section Numbers

/-- Room between finite numbers. -/
theorem room_fin (count active : ℚ) :
    Room (.fin count) (.fin active) ↔ 1 ≤ (count - active) * 25 := by
  rw [Room, JsNum.one_fin, JsNum.sub_fin, JsNum.literal_fin, JsNum.mul_fin, JsNum.le_fin]

/-- A tick gets past its conditions and takes an event exactly when there is room. -/
theorem ticks_iff_room {e : Engine} {count active : ℚ} (isCount : e.workerCount = .fin count)
    (isActive : e.activeWorkers = .fin active) (waiting : e.queue ≠ [])
    (running : e.isShuttingDown = false) (awake : e.isPaused = false) :
    (e.Ticks ∧ e.items ≠ []) ↔ Room e.workerCount e.activeWorkers := by
  have available : e.availableWorkers = .fin (count - active) := by
    rw [Engine.availableWorkers, isCount, isActive, JsNum.sub_fin]
  have chunk : e.chunkSize = .fin (min ((count - active) * 25) e.queue.length) := by
    rw [Engine.chunkSize, available, JsNum.literal_fin, JsNum.mul_fin, JsNum.ofNat_fin,
      JsNum.min_fin]
  have long : 1 ≤ e.queue.length := List.length_pos_iff.mpr waiting
  have longer : (1 : ℚ) ≤ e.queue.length := by exact_mod_cast long
  rw [isCount, isActive, room_fin]
  constructor
  · rintro ⟨_, taken⟩
    by_contra full
    have small : min ((count - active) * 25) (e.queue.length : ℚ) < 1 :=
      min_lt_of_left_lt (not_le.mp full)
    have floor : ⌊min ((count - active) * 25) (e.queue.length : ℚ)⌋ ≤ 0 := by
      have below := Int.floor_lt.mpr (by exact_mod_cast small :
        min ((count - active) * 25) (e.queue.length : ℚ) < ((1 : ℤ) : ℚ))
      omega
    have none : e.chunkSize.spliceCount e.queue.length = 0 := by
      rw [chunk, JsNum.spliceCount, Int.toNat_eq_zero.mpr floor]
      exact Nat.zero_min _
    exact taken (by rw [Engine.items, none, List.take_zero])
  · intro room
    have large : (1 : ℚ) ≤ min ((count - active) * 25) e.queue.length := le_min room longer
    have floor : 1 ≤ ⌊min ((count - active) * 25) (e.queue.length : ℚ)⌋ :=
      Int.le_floor.mpr (by exact_mod_cast large)
    have some : 1 ≤ e.chunkSize.spliceCount e.queue.length := by
      rw [chunk, JsNum.spliceCount]
      exact le_min (by omega) long
    refine ⟨⟨by simp [running, awake], ?_, ?_⟩, ?_⟩
    · rw [available, JsNum.zero_fin, JsNum.le_fin]
      rintro (none | empty)
      · linarith only [none, room]
      · omega
    · rw [chunk, JsNum.zero_fin, JsNum.lt_fin]
      linarith only [large]
    · intro nothing
      have length := congrArg List.length nothing
      rw [Engine.items, List.length_take, List.length_nil] at length
      omega

/-- The release leaves room exactly when the queue it finds is short for the worker count. -/
theorem busyWorkers_room {e : Engine} {count : ℚ} (isCount : e.workerCount = .fin count) :
    Room e.workerCount (busyWorkers e) ↔
      Room e.workerCount ((JsNum.ofNat e.queue.length).div 50).ceil := by
  have divisor : (50 : ℚ) ≠ 0 := by norm_num
  have wanted : ((JsNum.ofNat e.queue.length).div 50).ceil =
      .fin ((⌈(e.queue.length : ℚ) / 50⌉ : ℤ) : ℚ) := by
    rw [JsNum.ofNat_fin, JsNum.literal_fin, JsNum.div_fin divisor]
    rfl
  have positive : (0 : ℚ) ≤ ((⌈(e.queue.length : ℚ) / 50⌉ : ℤ) : ℚ) := by
    have bound : 0 ≤ ⌈(e.queue.length : ℚ) / 50⌉ := Int.ceil_nonneg (by positivity)
    exact_mod_cast bound
  rw [busyWorkers_fin isCount, wanted, isCount, room_fin, room_fin]
  by_cases fits : ((⌈(e.queue.length : ℚ) / 50⌉ : ℤ) : ℚ) ≤ count
  · rw [min_eq_right fits, max_eq_right positive]
  · have least : min count ((⌈(e.queue.length : ℚ) / 50⌉ : ℤ) : ℚ) = count :=
      min_eq_left (not_le.mp fits).le
    have most : count ≤ max 0 (min count ((⌈(e.queue.length : ℚ) / 50⌉ : ℤ) : ℚ)) := by
      rw [least]
      exact le_max_right _ _
    constructor
    · intro room
      linarith only [room, most]
    · intro room
      linarith only [room, not_le.mp fits]

end Numbers

/-- A release is pending when an identifier runs one. -/
theorem releasePending_iff {p : Process} : p.ReleasePending ↔ ∃ id, p.loop.Runs id .release := by
  constructor
  · rintro ⟨timer, live, releases⟩
    exact ⟨timer.id, timer, live, rfl, releases⟩
  · rintro ⟨_, timer, live, _, releases⟩
    exact ⟨timer, live, releases⟩

/-- While events wait, the next tick moves one exactly when there is room. -/
theorem tickMoves_iff (env : Env) {p : Process} (numeric : p.Numeric) (waiting : p.Waiting) :
    p.TickMoves ↔ Room p.engine.workerCount p.engine.activeWorkers := by
  obtain ⟨events, running, awake, _, alive⟩ := waiting
  obtain ⟨count, active, isCount, isActive⟩ := numeric.2.2
  have exactly := ticks_iff_room isCount isActive events running awake
  have fires (env : Env) {timer : Timer Task} (live : timer ∈ p.loop.timers)
      (ticker : timer.task = .workers) : step p (.fire env timer.id) =
        some (finish ((workerTick env).run (p.fired env timer))) := by
    rw [step_fire alive live, ticker]
    rfl
  constructor
  · rintro ⟨⟨id, runs⟩, moves⟩
    obtain ⟨after, out, items, stepped, taken, split, _⟩ := moves id runs env
    obtain ⟨timer, live, rfl, ticker⟩ := runs
    rw [fires env live ticker, finish_ok (workerTick_returns env _)] at stepped
    obtain ⟨rfl, rfl⟩ := Prod.mk.inj (Option.some.inj stepped)
    refine exactly.mp ?_
    by_cases ticks : p.engine.Ticks
    · refine ⟨ticks, fun nothing => taken ?_⟩
      obtain ⟨q, out, frame, ran⟩ := run_workerTick_busy env (show (p.fired env timer).engine.Ticks
        from ticks)
      have left : q.engine.queue = p.engine.moved.queue :=
        congrArg (fun view => view.engine.queue) frame
      have whole := p.engine.items_append
      rw [nothing, List.nil_append] at whole
      rw [ran, left, whole] at split
      exact List.self_eq_append_left.mp split
    · rw [run_workerTick_idle env (show ¬ (p.fired env timer).engine.Ticks from ticks)] at split
      exact absurd (List.self_eq_append_left.mp split) taken
  · intro room
    obtain ⟨ticks, taken⟩ := exactly.mpr room
    refine ⟨numeric.1.workers, fun id runs env => ?_⟩
    obtain ⟨timer, live, rfl, ticker⟩ := runs
    obtain ⟨q, out, frame, ran⟩ := run_workerTick_busy env (show (p.fired env timer).engine.Ticks
      from ticks)
    have left : q.engine.queue = p.engine.moved.queue :=
      congrArg (fun view => view.engine.queue) frame
    rw [fires env live ticker, finish_ok (workerTick_returns env _), ran]
    refine ⟨_, _, p.engine.items, rfl, taken, ?_, List.mem_cons_self ..⟩
    rw [left, p.engine.items_append]

/-! ### Runs that keep room -/

/-- A step that keeps room leaves a release pending or room. -/
theorem step_room {p after : Process} {action : Act} {out : List Obs} (numeric : p.Numeric)
    (room : p.ReleasePending ∨ Room p.engine.workerCount p.engine.activeWorkers)
    (permitted : LeavesRoom p action) (stepped : step p action = some (after, out)) :
    after.ReleasePending ∨ Room after.engine.workerCount after.engine.activeWorkers := by
  obtain ⟨_, effect⟩ := step_workers numeric permitted.1 stepped
  have keeps := permitted.2
  rw [releasePending_iff] at room ⊢
  cases effect with
  | quiet _ _ pending count active =>
    rw [count, active, exists_congr pending]
    exact room
  | configured pending count active =>
    rw [count, active, exists_congr pending, ← releasePending_iff]
    exact keeps
  | @ticked _ _ release _ pending => exact .inl ⟨release, pending⟩
  | released live pending count active =>
    obtain ⟨workers, _, isCount, _⟩ := numeric.2.2
    rcases keeps live with ⟨timer, other, different, releases⟩ | short
    · exact .inl ⟨timer.id, (pending _).mpr ⟨⟨timer, other, rfl, releases⟩, different⟩⟩
    · rw [count, active]
      exact .inr ((busyWorkers_room isCount).mpr short)

/-- In a run that keeps room, a release is pending or there is room. -/
theorem run_room (env : Env) {seen : List Obs} {p : Process}
    (run : system.Run LeavesRoom (.start env) seen p) :
    p.Numeric ∧ (p.ReleasePending ∨ Room p.engine.workerCount p.engine.activeWorkers) := by
  refine run.state_invariant (fun p => p.Numeric ∧
    (p.ReleasePending ∨ Room p.engine.workerCount p.engine.activeWorkers)) ?_ ?_
  · exact ⟨start_numeric env, .inr (show Room 32 0 by decide +kernel)⟩
  · intro p action after out held permitted stepped
    exact ⟨(step_workers held.1 permitted.1 stepped).1, step_room held.1 held.2 permitted stepped⟩

/-- A step that does not keep room leaves none. -/
theorem step_full {p after : Process} {action : Act} {out : List Obs} (numeric : p.Numeric)
    (permitted : NumericConfig p action) (fills : ¬ KeepsRoom p action)
    (stepped : step p action = some (after, out)) :
    ¬ Room after.engine.workerCount after.engine.activeWorkers := by
  obtain ⟨_, effect⟩ := step_workers numeric permitted stepped
  cases effect with
  | quiet notConfig notRelease =>
    refine absurd ?_ fills
    cases action with
    | request env request =>
      cases request with
      | updateConfig cfg => exact absurd rfl (notConfig env cfg)
      | ingestSingle | ingestBatch | getMetrics | startLoadTest | stopLoadTest
      | simulateGracefulShutdown => trivial
    | fire env id => exact fun release => absurd release (notRelease env id rfl)
  | configured _ count active =>
    rw [count, active]
    exact fun room => fills (.inr room)
  | ticked ticker =>
    refine absurd (fun release => ?_) fills
    exact absurd (ticker.unique release) nofun
  | released _ _ count active =>
    obtain ⟨workers, _, isCount, _⟩ := numeric.2.2
    rw [count, active, busyWorkers_room isCount]
    exact fun room => fills fun _ => .inr room

/-- As long as every release finds a queue that is short for the worker count, and every
configuration asks for enough workers, the next tick moves an event whenever events wait. After
a step that does not, it moves none when events wait. -/
theorem waiting_ticks_move (env : Env) :
    (∀ (seen : List Obs) (p : Process), system.Run LeavesRoom (.start env) seen p →
        p.Waiting → p.TickMoves) ∧
      ∀ (seen out : List Obs) (p after : Process) (action : Act),
        system.Run NumericConfig (.start env) seen p → NumericConfig p action →
        ¬ KeepsRoom p action → step p action = some (after, out) → after.Waiting →
        ¬ after.TickMoves := by
  constructor
  · intro seen p run waiting
    obtain ⟨numeric, room⟩ := run_room env run
    exact (tickMoves_iff env numeric waiting).mpr (room.resolve_left waiting.2.2.2.1)
  · intro seen out p after action run permitted fills stepped waiting
    have numeric := run_numeric env (fun _ _ permitted => permitted) run
    have next := (step_workers numeric permitted stepped).1
    rw [tickMoves_iff env next waiting]
    exact step_full numeric permitted fills stepped

/-- An event with what `ingestBatch` asks for. -/
def plainEvent : JsValue := .obj [("service", .str "auth-svc"), ("message", .str "login")]

/-- Two workers take 50 of 60 events; the release finds ten and leaves one worker active, and
the next tick goes on. -/
theorem waiting_ticks_move_short :
    ∃ seen p, system.Run LeavesRoom (.start (.calm 0)) seen p ∧ p.engine.queue.length = 10 ∧
      p.Waiting ∧ p.TickMoves := by
  obtain ⟨seen, p, run, passed⟩ := System.exec_witness system LeavesRoom (.start (.calm 0))
    [.request (.calm 1) (.updateConfig (.obj [("workerCount", .num 2)])),
      .request (.calm 2) (.ingestBatch (List.replicate 60 plainEvent)),
      .fire (.calm 10) 0, .fire (.calm 18) 3]
    (fun (p, _) => p.engine.queue.length = 10 && !p.engine.isShuttingDown &&
      !p.engine.isPaused && decide (¬ p.ReleasePending) && !p.crashed)
    (by decide +kernel)
  simp only [Bool.and_eq_true, decide_eq_true_eq, Bool.not_eq_true'] at passed
  obtain ⟨⟨⟨⟨length, running⟩, awake⟩, idle⟩, alive⟩ := passed
  have waiting : p.Waiting := by
    refine ⟨fun empty => ?_, running, awake, idle, alive⟩
    rw [empty] at length
    contradiction
  exact ⟨seen, p, run, length, waiting, (waiting_ticks_move (.calm 0)).1 seen p run waiting⟩

/-- Two workers take 50 of 101 events; the release finds 51, leaves both workers active, and no
tick moves any of them. Every timer fires when it is due. -/
theorem waiting_ticks_stall :
    ∃ seen p, system.Run NumericConfig (.start (.calm 0)) seen p ∧ p.engine.queue.length = 51 ∧
      p.Waiting ∧ ¬ p.TickMoves := by
  obtain ⟨seen, p, run, passed⟩ := System.exec_witness system NumericConfig (.start (.calm 0))
    [.request (.calm 1) (.updateConfig (.obj [("workerCount", .num 2)])),
      .request (.calm 2) (.ingestBatch (List.replicate 101 plainEvent)),
      .fire (.calm 10) 0, .fire (.calm 18) 3]
    (fun (p, _) => p.engine.queue.length = 51 && !p.engine.isShuttingDown &&
      !p.engine.isPaused && decide (¬ p.ReleasePending) && !p.crashed &&
      decide ¬ Room p.engine.workerCount p.engine.activeWorkers)
    (by decide +kernel)
  simp only [Bool.and_eq_true, decide_eq_true_eq, Bool.not_eq_true'] at passed
  obtain ⟨⟨⟨⟨⟨length, running⟩, awake⟩, idle⟩, alive⟩, full⟩ := passed
  have waiting : p.Waiting := by
    refine ⟨fun empty => ?_, running, awake, idle, alive⟩
    rw [empty] at length
    contradiction
  have numeric := run_numeric (.calm 0) (fun _ _ permitted => permitted) run
  refine ⟨seen, p, run, length, waiting, ?_⟩
  rw [tickMoves_iff (.calm 0) numeric waiting]
  exact full

end IngestionEngine.Server
