import IngestionEngine.Server.Workers

/-!
# Runs with a numeric configuration

As long as `updateConfig` is given numbers, the numbers of workers stay finite, and only a tick, a
release and a change of the worker count assign them.
-/

namespace IngestionEngine.Server

open Systems Program

/-- The value may be a field of a configuration of numbers. -/
def JsValue.isNumeric : JsValue → Bool
  | .undefined | .num _ => true
  | .null | .bool _ | .str _ | .arr _ | .obj _ => false

/-- The fields that `updateConfig` reads. -/
def configFields : List String :=
  ["workerCount", "channelCapacity", "batchThreshold", "batchFlushWindowMs", "rateLimitRps",
    "rateLimitBurst"]

/-- Every field of the configuration that is given is a number. -/
def numericConfig (cfg : JsValue) : Bool :=
  configFields.all fun name =>
    match cfg.get name with
    | .ok given => given.isNumeric
    | .error _ => false

/-- The action is not a call of `updateConfig` with other values than numbers. -/
def NumericConfig (_ : Process) : Act → Prop
  | .request _ (.updateConfig cfg) => numericConfig cfg = true
  | .request _ _ | .fire _ _ => True

/-- The worker count that a configuration asks for. -/
def configuredWorkers (cfg : JsValue) (current : JsNum) : JsNum :=
  match cfg.get "workerCount" with
  | .ok given =>
    if given.truthy then
      match given.toNumber with
      | .ok value => .max 2 (.min 256 value)
      | .error _ => current
    else current
  | .error _ => current

/-- Both numbers of workers are finite. -/
def FiniteWorkers (workerCount activeWorkers : JsNum) : Prop :=
  ∃ count active : ℚ, workerCount = .fin count ∧ activeWorkers = .fin active

/-- A given field of a numeric configuration is a number. -/
theorem numeric_field {cfg given : JsValue} {name : String} (numeric : numericConfig cfg = true)
    (field : name ∈ configFields) (found : cfg.get name = .ok given) :
    given = .undefined ∨ ∃ value, given = .num value := by
  have each := List.all_eq_true.mp numeric name field
  rw [found] at each
  cases given with
  | undefined => exact .inl rfl
  | num value => exact .inr ⟨value, rfl⟩
  | null | bool value | str value | arr items | obj members => contradiction

/-- A numeric configuration sets a finite worker count. -/
theorem configuredWorkers_fin {cfg : JsValue} (numeric : numericConfig cfg = true) (count : ℚ) :
    ∃ next : ℚ, configuredWorkers cfg (.fin count) = .fin next := by
  unfold configuredWorkers
  cases found : cfg.get "workerCount" with
  | error thrown => exact ⟨count, rfl⟩
  | ok given =>
    rcases numeric_field numeric (by decide) found with rfl | ⟨value, rfl⟩
    · exact ⟨count, rfl⟩
    · by_cases set : (JsValue.num value).truthy = true
      · have number : value ≠ .nan := by
          rintro rfl
          exact absurd set (by decide)
        obtain ⟨next, clamped, _⟩ := JsNum.clamp_fin number (by norm_num : (2 : ℚ) ≤ 256)
        exact ⟨next, (if_pos set).trans clamped⟩
      · exact ⟨count, if_neg set⟩

/-- The first step of `updateConfig` with a numeric configuration. -/
theorem run_updateWorkerCount {cfg : JsValue} (numeric : numericConfig cfg = true) (p : Process) :
    ((updateWorkerCount cfg).run p).state =
      { p with
        engine :=
          { p.engine with workerCount := configuredWorkers cfg p.engine.workerCount } } := by
  simp only [updateWorkerCount, assignClamped, configuredWorkers, run_bind, run_lift]
  cases found : cfg.get "workerCount" with
  | error thrown => rfl
  | ok given =>
    rw [andThen_ok, after_state]
    rcases numeric_field numeric (by decide) found with rfl | ⟨value, rfl⟩
    · rfl
    · by_cases set : (JsValue.num value).truthy = true
      · simp only [if_pos set]
        rfl
      · simp only [if_neg set]
        rfl

/-! ### What a step does to the workers -/

/-- The timers are sound and the numbers of workers are finite. -/
def Process.Numeric (p : Process) : Prop :=
  p.Steady (fun id => p.loop.Runs id .release) FiniteWorkers

/-- Everything one step can do to the numbers of workers and to the releases. -/
inductive WorkerStep (p after : Process) : Act → Prop where
  /-- The numbers and the releases stay. -/
  | quiet {action : Act} (notConfig : ∀ env cfg, action ≠ .request env (.updateConfig cfg))
      (notRelease : ∀ env id, action = .fire env id → ¬ p.loop.Runs id .release)
      (pending : ∀ id, after.loop.Runs id .release ↔ p.loop.Runs id .release)
      (count : after.engine.workerCount = p.engine.workerCount)
      (active : after.engine.activeWorkers = p.engine.activeWorkers) : WorkerStep p after action
  /-- The configuration sets the worker count. -/
  | configured {env : Env} {cfg : JsValue}
      (pending : ∀ id, after.loop.Runs id .release ↔ p.loop.Runs id .release)
      (count : after.engine.workerCount = configuredWorkers cfg p.engine.workerCount)
      (active : after.engine.activeWorkers = p.engine.activeWorkers) :
      WorkerStep p after (.request env (.updateConfig cfg))
  /-- A tick leaves a release pending. -/
  | ticked {env : Env} {id release : Nat} (ticker : p.loop.Runs id .workers)
      (pending : after.loop.Runs release .release) : WorkerStep p after (.fire env id)
  /-- A release sets the active workers. -/
  | released {env : Env} {id : Nat} (live : p.loop.Runs id .release)
      (pending : ∀ other, after.loop.Runs other .release ↔ p.loop.Runs other .release ∧ other ≠ id)
      (count : after.engine.workerCount = p.engine.workerCount)
      (active : after.engine.activeWorkers = busyWorkers p.engine) :
      WorkerStep p after (.fire env id)

/-- A call of `updateConfig` with numbers. -/
theorem steady_numericConfig (env : Env) {cfg : JsValue} (numeric : numericConfig cfg = true)
    {p : Process} (held : p.Numeric) :
    ((updateConfig env cfg).run p).state.Steady (fun id => p.loop.Runs id .release)
      (fun count active => count = configuredWorkers cfg p.engine.workerCount ∧
        active = p.engine.activeWorkers) := by
  refine steady_updateConfig env ?_
  rw [run_updateWorkerCount numeric]
  exact ⟨held.1, held.2.1, rfl, rfl⟩

/-- The workers that a release leaves active are finite in number. -/
theorem busyWorkers_fin {e : Engine} {count : ℚ} (finite : e.workerCount = .fin count) :
    busyWorkers e =
      .fin (max 0 (min count (⌈(e.queue.length : ℚ) / 50⌉ : ℤ))) := by
  have divisor : (50 : ℚ) ≠ 0 := by norm_num
  have busy : ((JsNum.ofNat e.queue.length).div 50).ceil =
      .fin ((⌈(e.queue.length : ℚ) / 50⌉ : ℤ) : ℚ) := by
    rw [JsNum.ofNat_fin, JsNum.literal_fin, JsNum.div_fin divisor]
    rfl
  rw [busyWorkers, busy, finite, JsNum.min_fin, JsNum.zero_fin, JsNum.max_fin]

/-- So are those that a tick makes active. -/
theorem moved_fin {e : Engine} {count : ℚ} (finite : e.workerCount = .fin count) :
    ∃ active, e.moved.activeWorkers = .fin active := by
  have divisor : (50 : ℚ) ≠ 0 := by norm_num
  simp only [Engine.moved, finite, JsNum.ofNat_fin, JsNum.literal_fin, JsNum.div_fin divisor,
    JsNum.ceil, JsNum.one_fin, JsNum.add_fin, JsNum.min_fin]
  exact ⟨_, rfl⟩

/-- A steady process with finite numbers is numeric. -/
theorem numeric_of_steady {releases : Nat → Prop} {workers : JsNum → JsNum → Prop} {p : Process}
    (held : p.Steady releases workers)
    (finite : FiniteWorkers p.engine.workerCount p.engine.activeWorkers) : p.Numeric :=
  ⟨held.1, fun _ => Iff.rfl, finite⟩

/-- The numbers do not depend on whether the process has ended. -/
theorem numeric_crashed {p : Process} {crashed : Bool} (held : p.Numeric) :
    Process.Numeric { p with crashed } := held

/-- Neither does what a step does to them. -/
theorem workerStep_crashed {p after : Process} {crashed : Bool} {action : Act}
    (effect : WorkerStep p after action) : WorkerStep p { after with crashed } action := by
  cases effect with
  | quiet notConfig notRelease pending count active =>
    exact .quiet notConfig notRelease pending count active
  | configured pending count active => exact .configured pending count active
  | ticked ticker pending => exact .ticked ticker pending
  | released live pending count active => exact .released live pending count active

variable {p after : Process} (env : Env)

/-- A request is not a timer that fires. -/
theorem request_ne_fire {env other : Env} {request : Request} {id : Nat} :
    Act.request env request ≠ .fire other id := nofun

/-- A request of a numeric run. -/
theorem request_workers {request : Request} (held : p.Numeric)
    (permitted : NumericConfig p (.request env request)) :
    ((request.call env).run (p.begin env)).state.Numeric ∧
      WorkerStep p ((request.call env).run (p.begin env)).state (.request env request) := by
  have begun : (p.begin env).Numeric := ⟨TimersSound.advance held.1 _, held.2⟩
  obtain ⟨count, active, isCount, isActive⟩ := held.2.2
  by_cases config : ∃ cfg, request = .updateConfig cfg
  · obtain ⟨cfg, rfl⟩ := config
    have kept := steady_numericConfig env permitted begun
    obtain ⟨next, isNext⟩ := configuredWorkers_fin permitted count
    have same := kept.2.2
    refine ⟨numeric_of_steady kept ⟨next, active, ?_, same.2.trans isActive⟩, ?_⟩
    · rw [← isNext, ← isCount]
      exact same.1
    · exact .configured kept.2.1 same.1 same.2
  · have other : ∀ cfg, request ≠ .updateConfig cfg := fun cfg same => config ⟨cfg, same⟩
    have steady : (p.begin env).Steady (fun id => p.loop.Runs id .release)
        (fun workerCount activeWorkers => workerCount = p.engine.workerCount ∧
          activeWorkers = p.engine.activeWorkers) := ⟨begun.1, fun _ => Iff.rfl, rfl, rfl⟩
    have kept := steady_request env request other _ steady
    have same := kept.2.2
    refine ⟨numeric_of_steady kept ?_, .quiet ?_ (fun _ _ same => absurd same request_ne_fire)
      kept.2.1 same.1 same.2⟩
    · exact ⟨count, active, same.1.trans isCount, same.2.trans isActive⟩
    · intro env' cfg same
      injection same with _ called
      exact other cfg called

/-- A timer of another task is not a release. -/
theorem not_release {id : Nat} {task : Task} (runs : p.loop.Runs id task) (other : task ≠ .release)
    (env' : Env) (fired : Nat) (same : Act.fire env id = .fire env' fired) :
    ¬ p.loop.Runs fired .release := by
  injection same with _ named
  rw [← named]
  exact fun release => other (runs.unique release)

/-- A tick of the workers in a numeric run. -/
theorem tick_workers {timer : Timer Task} (held : p.Numeric) (live : timer ∈ p.loop.timers)
    (ticker : timer.task = .workers) :
    ((workerTick env).run (p.fired env timer)).state.Numeric ∧
      WorkerStep p ((workerTick env).run (p.fired env timer)).state (.fire env timer.id) := by
  have sound : (p.fired env timer).TimersSound := (TimersSound.advance held.1 _).fire live
  obtain ⟨count, active, isCount, isActive⟩ := held.2.2
  by_cases ticks : (p.fired env timer).engine.Ticks
  · obtain ⟨q, out, frame, ran⟩ := run_workerTick_busy env ticks
    have middle : ({ p.fired env timer with engine := (p.fired env timer).engine.moved } :
        Process).exceptFlush.Numeric := by
      obtain ⟨next, isNext⟩ := moved_fin isCount
      exact ⟨sound, fun _ => Iff.rfl, count, next, isCount, isNext⟩
    rw [← frame] at middle
    rw [ran]
    obtain ⟨middleSound, _, related⟩ := middle
    have after := middleSound.set_other .release nofun (fun _ => nofun) 8
    refine ⟨⟨after, fun _ => Iff.rfl, related⟩, ?_⟩
    exact .ticked ⟨timer, live, rfl, ticker⟩ (EventLoop.runs_set.mpr (.inr ⟨rfl, rfl⟩))
  · rw [run_workerTick_idle env ticks]
    have runs : p.loop.Runs timer.id .workers := ⟨timer, live, rfl, ticker⟩
    refine ⟨⟨sound, fun _ => Iff.rfl, held.2.2⟩,
      .quiet (fun _ _ => request_ne_fire.symm) (not_release env runs nofun) (fun id => ?_) rfl rfl⟩
    refine (TimersSound.advance held.1 env.clock).runs_fire live .release ?_ id
    rw [ticker]
    exact nofun

/-- A callback of a timer in a numeric run. -/
theorem callback_workers {timer : Timer Task} (held : p.Numeric) (live : timer ∈ p.loop.timers) :
    ((timer.task.callback env).run (p.fired env timer)).state.Numeric ∧
      WorkerStep p ((timer.task.callback env).run (p.fired env timer)).state
        (.fire env timer.id) := by
  have sound : (p.fired env timer).TimersSound := (TimersSound.advance held.1 _).fire live
  obtain ⟨count, active, isCount, isActive⟩ := held.2.2
  by_cases ticker : timer.task = .workers
  · rw [ticker]
    exact tick_workers env held live ticker
  · by_cases releasing : timer.task = .release
    · have finite : FiniteWorkers p.engine.workerCount (busyWorkers p.engine) :=
        ⟨count, _, isCount, busyWorkers_fin isCount⟩
      rw [releasing]
      refine ⟨⟨sound, fun _ => Iff.rfl, finite⟩, ?_⟩
      refine .released ⟨timer, live, rfl, releasing⟩ (fun id => ?_) rfl rfl
      have once : timer.period = none := by
        rw [held.1.periods timer live, releasing]
        rfl
      have fires := @EventLoop.runs_fire _ (p.loop.advance env.clock) timer id .release
      exact fires.trans (and_congr_right' (imp_iff_right once))
    · have steady : (p.fired env timer).Steady (fun id => p.loop.Runs id .release)
          (fun workerCount activeWorkers => workerCount = p.engine.workerCount ∧
            activeWorkers = p.engine.activeWorkers) := by
        refine ⟨sound, fun id => ?_, rfl, rfl⟩
        exact (TimersSound.advance held.1 env.clock).runs_fire live .release
          (fun same => absurd same releasing) id
      have kept := steady_callback env timer.task ⟨ticker, releasing⟩ _ steady
      have same := kept.2.2
      have named : p.loop.Runs timer.id timer.task := ⟨timer, live, rfl, rfl⟩
      refine ⟨numeric_of_steady kept ?_,
        .quiet (fun _ _ => request_ne_fire.symm) (not_release env named releasing) kept.2.1 same.1
          same.2⟩
      exact ⟨count, active, same.1.trans isCount, same.2.trans isActive⟩

/-- A step of a numeric run, which does nothing else to the workers. -/
theorem step_workers {action : Act} {out : List Obs} (held : p.Numeric)
    (permitted : NumericConfig p action) (stepped : step p action = some (after, out)) :
    after.Numeric ∧ WorkerStep p after action := by
  cases step_cases stepped with
  | @request env request alive =>
    rw [respond_state]
    exact request_workers env held permitted
  | @fire env timer alive live =>
    obtain ⟨numeric, effect⟩ := callback_workers env held live
    obtain ⟨crashed, left⟩ := finish_crashed ((timer.task.callback env).run (p.fired env timer))
    rw [left]
    exact ⟨numeric_crashed numeric, workerStep_crashed effect⟩

/-- The constructor leaves a numeric process. -/
theorem start_numeric : (Process.start env).Numeric := by
  refine ⟨start_sound env, fun _ => Iff.rfl, 32, 0, ?_, ?_⟩
  · exact JsNum.literal_fin 32
  · exact JsNum.zero_fin

/-- Every numeric run keeps the process numeric. -/
theorem run_numeric {guard : Process → Act → Prop} {seen : List Obs}
    (numeric : ∀ p action, guard p action → NumericConfig p action)
    (run : system.Run guard (.start env) seen p) : p.Numeric :=
  run.state_invariant Process.Numeric (start_numeric env)
    fun _ _ _ _ held permitted stepped => (step_workers held (numeric _ _ permitted) stepped).1

end IngestionEngine.Server
