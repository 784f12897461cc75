import IngestionEngine.Server.Atomicity
import IngestionEngine.Server.Shutdown

/-!
# The ticks of the load test

The loop of a tick counts up to a bound that comes from the rate that was asked for, and pushes an
event into an array in every round. The rate is not checked, so the bound may be infinite, or larger
than any array, and then a push throws and the process ends.
-/

namespace IngestionEngine.Server

open Systems Program

/-- The rate that a body of `/api/v1/benchmark/start` asks for. -/
def benchmarkRps (body : JsValue) : Except JsError JsNum := do
  let rps ← body.get "rps"
  match rps with
  | .undefined => JsValue.toNumber (.num 2500)
  | given => given.toNumber

/-- The call that the route makes, with the text of the scenario. -/
def benchmarkStart (body : JsValue) (scenario : String) : Except JsError Request :=
  (benchmarkRps body).map fun targetRps => .startLoadTest targetRps scenario

/-- An array of at most as many elements as given can hold the events of a tick, at a rate, in a
scenario, and at a value of the sine. -/
def BatchFits (limit : Nat) (targetRps : JsNum) (scenario : String) (sine : ℚ) : Prop :=
  match targetRps with
  | .fin rps =>
    if scenario = "burst" then max 10 ⌊(⌈rps / 40⌉ : ℚ) * (1 + sine * (9 / 10))⌋ ≤ (limit : ℤ)
    else if scenario = "dos_attack" then 4 * ⌈rps / 40⌉ ≤ (limit : ℤ)
    else ⌈rps / 40⌉ ≤ (limit : ℤ)
  | .posInf => False
  | .negInf => scenario = "burst" → 10 ≤ limit
  | .nan => True

/-- The rates of the limiter can be read as numbers. -/
def Process.ReadsRates (p : Process) : Prop :=
  ∃ rps burst, p.engine.rateLimitRps.toNumber = .ok rps ∧
    p.engine.rateLimitBurst.toNumber = .ok burst

/-- The callback of a timer returns, and does not throw. -/
def Process.TickReturns (p : Process) (env : Env) (id : Nat) : Prop :=
  ∃ after out, step p (.fire env id) = some (after, out) ∧ after.crashed = false

/-- The load test of the engine. -/
def Engine.loading (e : Engine) : Option Nat × Bool × String :=
  (e.loadTestTimer, e.loadTestActive, e.loadTestScenario)

/-- An identifier has been given out, and only a task of some kind runs under it. -/
def Process.Reserved (id : Nat) (kind : Task → Prop) (p : Process) : Prop :=
  id < p.loop.nextId ∧ ∀ task, p.loop.Runs id task → kind task

/-! ### The bound of the loop -/

section Bounds

variable (env : Env) (scenario : String)

/-- The loop pushes as many events as its bound says, if an array can hold them. -/
theorem pushCount_int (bound : ℤ) : pushCount env (.fin bound) =
    if bound ≤ (env.arrayLimit.val : ℤ) then some bound.toNat else none := by
  have short := env.arrayLimit.property
  have counted : (JsNum.fin bound).loopCount =
      if bound ≤ (2 ^ 53 : ℤ) then some bound.toNat else none := by
    have cast : (bound : ℚ) ≤ 2 ^ 53 ↔ bound ≤ (2 ^ 53 : ℤ) := by
      rw [← Int.cast_le (R := ℚ)]
      push_cast
      exact Iff.rfl
    simp only [JsNum.loopCount, cast, Int.ceil_intCast]
  rw [pushCount, counted]
  by_cases fits : bound ≤ (env.arrayLimit.val : ℤ)
  · have reached : bound ≤ (2 ^ 53 : ℤ) := by omega
    have room : bound.toNat ≤ env.arrayLimit.val := by omega
    rw [if_pos fits, if_pos reached, Option.filter_some, decide_eq_true room]
    rfl
  · rw [if_neg fits]
    by_cases reached : bound ≤ (2 ^ 53 : ℤ)
    · have full : ¬ bound.toNat ≤ env.arrayLimit.val := by omega
      rw [if_pos reached, Option.filter_some, decide_eq_false full]
      rfl
    · rw [if_neg reached]
      rfl

/-- It can be built exactly when the bound is not above the limit. -/
theorem pushCount_fits (bound : ℤ) :
    (pushCount env (.fin bound)).isSome = true ↔ bound ≤ (env.arrayLimit.val : ℤ) := by
  rw [pushCount_int]
  by_cases fits : bound ≤ (env.arrayLimit.val : ℤ) <;> simp [fits]

/-- The events of a tick, at a finite rate. -/
theorem ceil_ticks (rps : ℚ) : ((JsNum.fin rps).div 40).ceil = .fin (⌈rps / 40⌉ : ℤ) := by
  have divisor : (40 : ℚ) ≠ 0 := by norm_num
  rw [JsNum.literal_fin, JsNum.div_fin divisor]
  rfl

/-- The bound of an attack, at a finite rate. -/
theorem attack_count (rps : ℚ) : tickBatchCount env "dos_attack" ((JsNum.fin rps).div 40).ceil =
    .fin (4 * ⌈rps / 40⌉ : ℤ) := by
  have other : "dos_attack" ≠ "burst" := by decide
  rw [ceil_ticks, tickBatchCount, if_neg other, if_pos rfl, JsNum.literal_fin, JsNum.mul_fin,
    mul_comm]
  push_cast
  rfl

/-- The bound of a burst, at a finite rate. -/
theorem burst_count (rps : ℚ) : tickBatchCount env "burst" ((JsNum.fin rps).div 40).ceil =
    .fin (max 10 ⌊(⌈rps / 40⌉ : ℚ) * (1 + env.sine.val * (9 / 10))⌋ : ℤ) := by
  have larger (bound : ℤ) : JsNum.max 10 (.fin bound) = .fin (max 10 bound : ℤ) := by
    rw [JsNum.literal_fin, JsNum.max_fin]
    push_cast
    rfl
  rw [ceil_ticks, tickBatchCount, if_pos rfl]
  exact larger _

/-- The events can be pushed exactly when they fit into an array. -/
theorem pushCount_batch (targetRps : JsNum) :
    (pushCount env (tickBatchCount env scenario (targetRps.div 40).ceil)).isSome = true ↔
      BatchFits env.arrayLimit.val targetRps scenario env.sine.val := by
  have factor : 0 < 1 + env.sine.val * (9 / 10) := by
    have low := env.sine.property.1
    linarith only [low]
  cases targetRps with
  | fin rps =>
    by_cases burst : scenario = "burst"
    · rw [BatchFits, if_pos burst, burst, burst_count, pushCount_fits]
    · by_cases attack : scenario = "dos_attack"
      · rw [BatchFits, if_neg burst, if_pos attack, attack, attack_count, pushCount_fits]
      · rw [ceil_ticks, tickBatchCount, BatchFits, if_neg burst, if_neg attack, if_neg burst,
          if_neg attack, pushCount_fits]
  | posInf =>
    have ticks : (JsNum.posInf.div 40).ceil = .posInf := by decide +kernel
    have scaled : JsNum.posInf.mul (.fin (1 + env.sine.val * (9 / 10))) = .posInf := by
      simp [JsNum.mul, JsNum.infinite, factor, factor.ne']
    have quadruple : JsNum.posInf.mul 4 = .posInf := by decide +kernel
    have endless : tickBatchCount env scenario .posInf = .posInf := by
      unfold tickBatchCount
      rw [scaled, quadruple]
      split
      · rfl
      · split <;> rfl
    rw [ticks, endless]
    exact iff_of_false (by simp [pushCount, JsNum.loopCount]) id
  | negInf =>
    have ticks : (JsNum.negInf.div 40).ceil = .negInf := by decide +kernel
    have scaled : JsNum.negInf.mul (.fin (1 + env.sine.val * (9 / 10))) = .negInf := by
      simp [JsNum.mul, JsNum.infinite, factor, factor.ne']
    have quadruple : JsNum.negInf.mul 4 = .negInf := by decide +kernel
    have least : JsNum.max 10 JsNum.negInf.floor = .fin (10 : ℤ) := by decide +kernel
    have none : (pushCount env .negInf).isSome = true := by simp [pushCount, JsNum.loopCount]
    rw [ticks, tickBatchCount, BatchFits, scaled, quadruple, least]
    split
    · rename_i burst
      rw [pushCount_fits, imp_iff_right burst]
      exact_mod_cast Iff.rfl
    · rename_i burst
      refine iff_of_true ?_ fun same => absurd same burst
      split <;> exact none
  | nan =>
    have ticks : (JsNum.nan.div 40).ceil = .nan := rfl
    have scaled : JsNum.nan.mul (.fin (1 + env.sine.val * (9 / 10))) = .nan := rfl
    have same : tickBatchCount env scenario .nan = .nan := by
      unfold tickBatchCount
      rw [scaled]
      split
      · rfl
      · split <;> rfl
    rw [ticks, same]
    exact iff_of_true (by simp [pushCount, JsNum.loopCount]) trivial

end Bounds

/-! ### One tick -/

section Ticks

variable (env : Env) {p : Process}

/-- The tokens can be computed exactly when the rates can be read. -/
theorem tokensAt_reads (clock : Int) :
    (∃ tokens, p.core.tokensAt clock = .ok tokens) ↔ p.ReadsRates := by
  have computed : p.core.tokensAt clock = p.engine.rateLimitRps.toNumber.bind fun rps =>
      p.engine.rateLimitBurst.toNumber.bind fun burst =>
        .ok (burst.min (p.core.availableTokens.add
          ((JsNum.fin ((clock - p.core.lastRefillTime : Int) / 1000)).mul rps))) := rfl
  unfold Process.ReadsRates
  rw [computed]
  cases p.engine.rateLimitRps.toNumber with
  | error thrown => simp [Except.bind]
  | ok rps =>
    cases p.engine.rateLimitBurst.toNumber with
    | error thrown => simp [Except.bind]
    | ok burst => simp [Except.bind]

/-- The loop of `ingestBatch` does not throw on objects. -/
theorem ingestEvents_returns (events : List JsValue)
    (objects : ∀ event ∈ events, ∃ members, event = .obj members)
    (index accepted dropped : Nat) (p : Process) :
    ∃ counts, ((ingestEvents env events index accepted dropped).run p).result = .ok counts := by
  induction events generalizing index accepted dropped p with
  | nil => exact ⟨_, rfl⟩
  | cons event rest ih =>
    obtain ⟨members, rfl⟩ := objects event (List.mem_cons_self ..)
    have others : ∀ event ∈ rest, ∃ members, event = .obj members :=
      fun event member => objects event (List.mem_cons_of_mem _ member)
    simp only [ingestEvents, run_bind, run_lift, JsValue.asObject, run_engine, andThen_ok,
      after_result]
    split
    · simp only [run_bind, run_update, run_emit, andThen_ok, after_result]
      exact ih others _ _ _ _
    · simp only [run_bind, run_update, andThen_ok, after_result]
      exact ih others _ _ _ _

/-- A batch of objects is answered exactly when the rates can be read. -/
theorem ingestBatch_answers {events : List JsValue}
    (objects : ∀ event ∈ events, ∃ members, event = .obj members) :
    (∃ result, ((ingestBatch env events).run p).result = .ok result) ↔ p.ReadsRates := by
  obtain ⟨changes, result, ⟨_, ended⟩, shape⟩ := ingestBatch_makes env p events
  rw [ended, ← tokensAt_reads env.clock]
  have decided {changes : List Change} {allowed : Bool}
      (limits : Limits p.core env.clock (batchCost events.length) changes (.ok allowed)) :
      ∃ tokens, p.core.tokensAt env.clock = .ok tokens := by
    cases limits with
    | admitted looked => exact ⟨_, looked⟩
    | refused looked => exact ⟨_, looked⟩
  cases shape with
  | throws limits =>
    cases limits with
    | throws failed =>
      rw [failed]
      simp
  | refused limits => exact iff_of_true ⟨_, rfl⟩ (decided limits)
  | broken limits =>
    have affords := limits.affords.mp rfl
    obtain ⟨q, _, _, _, result⟩ := batch_admitted env p events affords
    obtain ⟨counts, returned⟩ := ingestEvents_returns env events objects 0 0 0 q
    rw [ended, returned] at result
    contradiction
  | admitted limits => exact iff_of_true ⟨_, rfl⟩ (decided limits)

/-- A tick of an active load test returns exactly when an array can hold its batch and the rates
can be read. -/
theorem loadTestTick_answers (active : p.engine.loadTestActive = true) (eventsPerTick : JsNum) :
    ((loadTestTick env eventsPerTick).run p).result = .ok () ↔
      (loadTestCount env p.engine eventsPerTick).isSome = true ∧ p.ReadsRates := by
  cases ticks : loadTestCount env p.engine eventsPerTick with
  | none =>
    rw [run_loadTestTick_overflows env active ticks]
    simp
  | some count =>
    have objects : ∀ event ∈ (List.range count).map (mockEvent env),
        ∃ members, event = .obj members := by
      intro event member
      obtain ⟨index, _, rfl⟩ := List.mem_map.mp member
      exact ⟨_, rfl⟩
    rw [run_loadTestTick_fits env active ticks, ← ingestBatch_answers env objects, run_bind]
    generalize (ingestBatch env ((List.range count).map (mockEvent env))).run p = outcome
    obtain ⟨state, out, result⟩ := outcome
    cases result with
    | error thrown => simp [Outcome.andThen]
    | ok result => simp

/-- A tick of the load test returns exactly when an array can hold its batch and the rates can be
read. -/
theorem tick_returns (sound : p.TimersSound) (alive : p.crashed = false) {timer : Timer Task}
    (live : timer ∈ p.loop.timers) {targetRps : JsNum}
    (task : timer.task = .loadTest (targetRps.div 40).ceil) :
    p.TickReturns env timer.id ↔
      BatchFits env.arrayLimit.val targetRps p.engine.loadTestScenario env.sine.val ∧
        p.ReadsRates := by
  have runs : p.loop.Runs timer.id (.loadTest (targetRps.div 40).ceil) := ⟨timer, live, rfl, task⟩
  have active : p.engine.loadTestActive = true := by
    rw [sound.active, (sound.loading timer.id).mp ⟨_, runs⟩]
    rfl
  have answers := loadTestTick_answers env (p := p.fired env timer) active (targetRps.div 40).ceil
  have counted : loadTestCount env (p.fired env timer).engine (targetRps.div 40).ceil =
      pushCount env (tickBatchCount env p.engine.loadTestScenario (targetRps.div 40).ceil) :=
    if_pos active
  have reads : (p.fired env timer).ReadsRates ↔ p.ReadsRates := Iff.rfl
  rw [counted, pushCount_batch, reads] at answers
  rw [← answers]
  have kept : ((loadTestTick env (targetRps.div 40).ceil).run (p.fired env timer)).state.crashed =
      false :=
    (congrArg Process.crashed (view_kept (fun _ => keeps_loadTestTick env (targetRps.div 40).ceil)
      (p.fired env timer))).trans alive
  have stepped : step p (.fire env timer.id) =
      some (finish ((timer.task.callback env).run (p.fired env timer))) := step_fire alive live
  rw [task, Task.callback] at stepped
  simp only [Process.TickReturns, stepped]
  generalize (loadTestTick env (targetRps.div 40).ceil).run (p.fired env timer) = outcome at kept ⊢
  obtain ⟨state, out, result⟩ := outcome
  cases result with
  | error thrown => simp [finish]
  | ok value => simpa [finish] using kept

end Ticks

/-! ### The timer of a load test -/

section Timers

variable {id : Nat} {kind : Task → Prop} {p after : Process}

/-- A new timer has another identifier. -/
theorem reserved_set (reserved : p.Reserved id kind) (engine : Engine) (task : Task) (delay : Int)
    (period : Option Int) :
    Process.Reserved id kind { p with engine, loop := p.loop.set task delay period } := by
  refine ⟨Nat.lt_succ_of_lt reserved.1, fun other runs => ?_⟩
  rcases EventLoop.runs_set.mp runs with old | ⟨same, _⟩
  · exact reserved.2 other old
  · have different : id ≠ p.loop.nextId := Nat.ne_of_lt reserved.1
    contradiction

/-- A timer that is cleared runs nothing. -/
theorem reserved_clear (reserved : p.Reserved id kind) (engine : Engine) (handle : Option Nat) :
    Process.Reserved id kind { p with engine, loop := p.loop.clear handle } :=
  ⟨reserved.1, fun other runs => reserved.2 other (EventLoop.runs_clear.mp runs).1⟩

/-- No method puts another task under an identifier that has been given out. -/
theorem reserved_endures : Endures (Process.Reserved id kind) where
  assigned := fun _ _ _ reserved => reserved
  stopped := fun _ reserved => reserved_clear reserved _ _
  started := fun _ _ _ reserved => reserved_set reserved _ _ 25 (some 25)
  released := fun p reserved => reserved_set reserved p.engine .release 8 none
  restarted := by
    intro p reserved
    have cleared := reserved_clear reserved p.engine p.engine.flushIntervalId
    exact reserved_set cleared _ .flush 50 (some 50)

/-- Neither does any step. -/
theorem step_reserved {action : Act} {out : List Obs} (reserved : p.Reserved id kind)
    (stepped : step p action = some (after, out)) : after.Reserved id kind := by
  cases step_cases stepped with
  | @request env request alive =>
    have reset : Keeps (Process.Reserved id kind) (setTimer .reset 2000 none) :=
      fun q held => reserved_set held q.engine .reset 2000 none
    rw [respond_state]
    apply reserved_endures.any_request env (fun _ _ held => held) reset request
    exact reserved
  | @fire env timer alive live =>
    have fired : (p.fired env timer).Reserved id kind := by
      refine ⟨?_, fun task runs => reserved.2 task ?_⟩
      · show id < ((p.begin env).loop.fire timer).nextId
        rw [EventLoop.fire]
        cases timer.period <;> exact reserved.1
      · exact (EventLoop.runs_fire.mp runs).1
    have left := reserved_endures.any_callback env (fun _ _ held => held) timer.task
      (p.fired env timer) fired
    unfold Process.Reserved at left ⊢
    rw [(finish_state _).1]
    exact left

end Timers

/-! ### The scenario of a load test -/

section Scenario

variable (env : Env) {value : String}

/-- A call of `stopLoadTest`. -/
theorem scenario_stopLoadTest :
    Keeps (fun p => p.engine.loadTestScenario = value) (stopLoadTest env) :=
  keeps_stopLoadTest env (fun _ _ _ _ held => held) fun _ _ held => held

/-- A flush. -/
theorem scenario_triggerFlush (reason : FlushReason) :
    Keeps (fun p => p.engine.loadTestScenario = value) (triggerFlush env reason) :=
  keeps_of_view Process.exceptFlush (fun _ => Iff.rfl) (keeps_triggerFlush env reason)

/-- A call of `simulateGracefulShutdown`. -/
theorem scenario_shutdown :
    Keeps (fun p => p.engine.loadTestScenario = value) (simulateGracefulShutdown env) :=
  fun _ held => leaves_shutdown env (fun _ _ _ _ held => held) (scenario_stopLoadTest env)
    (scenario_triggerFlush env _) (fun _ held => held) held

/-- Every request that does not start a load test. -/
theorem scenario_request {request : Request}
    (other : ∀ targetRps scenario, request ≠ .startLoadTest targetRps scenario) :
    Keeps (fun p => p.engine.loadTestScenario = value) (request.call env) := by
  refine keeps_request env (fun _ => Iff.rfl) request ?_ (scenario_stopLoadTest env) ?_ ?_
  · exact fun targetRps scenario same => absurd same (other targetRps scenario)
  · exact fun cfg _ =>
      keeps_of_view Process.exceptConfig (fun _ => Iff.rfl) fun _ => keeps_updateConfig env cfg
  · exact fun _ => scenario_shutdown env

/-- Every callback, of a property of the load test and the timers that a pending release keeps. -/
theorem loading_callback {holds : Process → Prop}
    (assigned : ∀ (p : Process) (e : Engine), e.loading = p.engine.loading → holds p →
      holds { p with engine := e })
    (released : ∀ p : Process, holds p → holds { p with loop := p.loop.set .release 8 none })
    (task : Task) : Keeps holds (task.callback env) := by
  have ingest (p : Process) : holds p.exceptIngest ↔ holds p :=
    ⟨assigned p.exceptIngest p.engine rfl, assigned p p.exceptIngest.engine rfl⟩
  have forgets (p : Process) : holds p.exceptFlush ↔ holds p :=
    ⟨assigned p.exceptFlush p.engine rfl, assigned p p.exceptFlush.engine rfl⟩
  have flush (reason : FlushReason) : Keeps holds (triggerFlush env reason) :=
    keeps_of_view Process.exceptFlush forgets (keeps_triggerFlush env reason)
  have assigns {change : Engine → Engine} (same : ∀ e, (change e).loading = e.loading) :
      Keeps holds (update change) := keeps_update fun p held => assigned p _ (same p.engine) held
  refine keeps_callback env ingest task ?_ ?_ ?_ ?_ ?_
  · exact fun _ => keeps_workerTick env (fun p held => assigned p _ rfl held) (flush _) released
  · exact fun _ => assigns fun _ => rfl
  · exact fun _ => keeps_bind keeps_engine fun _ => keeps_onlyIf (flush _)
  · exact assigns fun _ => rfl
  · exact fun _ => assigns fun _ => rfl

/-- Every step that does not start a load test. -/
theorem step_scenario {p after : Process} {action : Act} {out : List Obs}
    (stepped : step p action = some (after, out))
    (other : ∀ env targetRps scenario, action ≠ .request env (.startLoadTest targetRps scenario)) :
    after.engine.loadTestScenario = p.engine.loadTestScenario := by
  cases step_cases stepped with
  | @request env request alive =>
    have requested : ∀ targetRps scenario, request ≠ .startLoadTest targetRps scenario := by
      intro targetRps scenario same
      exact other env targetRps scenario (congrArg (Act.request env) same)
    rw [respond_state]
    exact scenario_request env requested (p.begin env) rfl
  | @fire env timer alive live =>
    have kept : Keeps (fun q => q.engine.loadTestScenario = p.engine.loadTestScenario)
        (timer.task.callback env) := by
      refine loading_callback env (fun q e same held => ?_) (fun _ held => held) timer.task
      have scenario : e.loadTestScenario = q.engine.loadTestScenario :=
        congrArg (fun loading => loading.2.2) same
      exact scenario.trans held
    rw [(finish_state _).2]
    exact kept (p.fired env timer) rfl

end Scenario

/-! ### The ticks of a load test over a run -/

section Runs

variable {id : Nat} {env : Env} {targetRps : JsNum} {scenario : String} {p after : Process}
  {out : List Obs}

/-- An identifier runs at most the ticks of a load test with a rate and a scenario. -/
def Process.Loads (id : Nat) (targetRps : JsNum) (scenario : String) (p : Process) : Prop :=
  p.Reserved id fun task =>
    task = .loadTest (targetRps.div 40).ceil ∧ p.engine.loadTestScenario = scenario

/-- A call of `startLoadTest` sets the timer of the load test. -/
theorem start_loads
    (started : step p (.request env (.startLoadTest targetRps scenario)) = some (after, out)) :
    after.engine.loadTestTimer = some p.loop.nextId ∧
      after.Loads p.loop.nextId targetRps scenario := by
  have left : after = ((startLoadTest env targetRps scenario).run (p.begin env)).state := by
    cases step_cases started with
    | request alive => rw [respond_state, Request.call]
  simp only [startLoadTest, stopLoadTest, run_bind, run_update, run_engine, run_clearTimer,
    run_addLog, run_setTimer, andThen_ok, after_mk] at left
  subst left
  refine ⟨rfl, Nat.lt_succ_self _, fun task runs => ⟨?_, rfl⟩⟩
  rcases EventLoop.runs_set.mp runs with old | ⟨_, new⟩
  · have fresh := (EventLoop.runs_clear.mp old).1.fresh
    exact absurd fresh (Nat.lt_irrefl _)
  · exact new

/-- A step leaves the load test as it is, or ends it. -/
theorem step_loads {action : Act} (sound : p.TimersSound) (loads : p.Loads id targetRps scenario)
    (stepped : step p action = some (after, out)) : after.Loads id targetRps scenario := by
  have reserved := step_reserved loads stepped
  refine ⟨reserved.1, fun task runs => ?_⟩
  obtain ⟨rfl, same⟩ := reserved.2 task runs
  refine ⟨rfl, ?_⟩
  by_cases starts : ∃ env targetRps scenario,
      action = .request env (.startLoadTest targetRps scenario)
  · -- The new load test has another timer, and the old one is cleared.
    obtain ⟨env, newRps, newScenario, rfl⟩ := starts
    have fresh := (start_loads stepped).1
    have load := ((step_sound sound stepped).loading id).mp ⟨_, runs⟩
    rw [fresh] at load
    have used : id < p.loop.nextId := loads.1
    rw [Option.some.inj load] at used
    exact absurd used (Nat.lt_irrefl _)
  · have other := step_scenario stepped fun env targetRps scenario requested =>
      starts ⟨env, targetRps, scenario, requested⟩
    rw [other]
    exact same

/-- A run leaves the load test as it is, or ends it. -/
theorem run_loads (sound : p.TimersSound) (loads : p.Loads id targetRps scenario)
    {seen : List Obs} {q : Process} (run : system.AnyRun p seen q) :
    q.TimersSound ∧ q.Loads id targetRps scenario :=
  run.state_invariant (fun q => q.TimersSound ∧ q.Loads id targetRps scenario) ⟨sound, loads⟩
    fun _ _ _ _ held _ stepped =>
      ⟨step_sound held.1 stepped, step_loads held.1 held.2 stepped⟩

end Runs

/-- Every tick of a load test returns exactly when an array can hold its events, at the rate that
the body asked for, and the rates of the limiter can be read. -/
theorem loadTest_ticks_return {start env : Env} {before seen : List Obs} {p after q : Process}
    {body : JsValue} {scenario : String} {request : Request} {out : List Obs}
    (reached : system.AnyRun (.start start) before p)
    (asked : benchmarkStart body scenario = .ok request)
    (started : step p (.request env request) = some (after, out))
    (run : system.AnyRun after seen q) (alive : q.crashed = false) {timer : Timer Task}
    (own : after.engine.loadTestTimer = some timer.id) (live : timer ∈ q.loop.timers)
    (later : Env) : ∃ targetRps, benchmarkRps body = .ok targetRps ∧
      (q.TickReturns later timer.id ↔
        BatchFits later.arrayLimit.val targetRps scenario later.sine.val ∧ q.ReadsRates) := by
  cases rate : benchmarkRps body with
  | error thrown =>
    rw [benchmarkStart, rate] at asked
    contradiction
  | ok targetRps =>
    refine ⟨targetRps, rfl, ?_⟩
    rw [benchmarkStart, rate] at asked
    obtain rfl := Except.ok.inj asked
    have sound := step_sound (run_sound start reached) started
    obtain ⟨loading, loads⟩ := start_loads started
    rw [own] at loading
    rw [← Option.some.inj loading] at loads
    obtain ⟨timers, loaded⟩ := run_loads sound loads run
    obtain ⟨task, same⟩ := loaded.2 timer.task ⟨timer, live, rfl, rfl⟩
    rw [tick_returns later timers alive live task, same]

/-- An attack with 1000 events in a second ticks. -/
theorem loadTest_ticks_return_attack : ∃ after out timer,
    step (.start (.calm 0)) (.request (.calm 0) (.startLoadTest 1000 "dos_attack")) =
        some (after, out) ∧ timer ∈ after.loop.timers ∧
      after.engine.loadTestTimer = some timer.id ∧ after.TickReturns (.calm 25) timer.id := by
  have ran : (step (.start (.calm 0)) (.request (.calm 0) (.startLoadTest 1000 "dos_attack"))).any
      (fun last => !last.1.crashed && last.1.engine.loadTestTimer = some 3 &&
        (last.1.loop.find 3).isSome && (last.1.core.tokensAt 0).isOk) = true := by decide +kernel
  obtain ⟨⟨after, out⟩, started, passed⟩ := (Option.any_eq_true _ _).mp ran
  simp only [Bool.and_eq_true, Bool.not_eq_true', decide_eq_true_eq] at passed
  obtain ⟨⟨⟨alive, own⟩, found⟩, rated⟩ := passed
  obtain ⟨timer, finds⟩ := Option.isSome_iff_exists.mp found
  obtain ⟨live, named⟩ := EventLoop.find_some finds
  rw [← named] at own
  have asked : benchmarkStart (.obj [("rps", .num 1000)]) "dos_attack" =
      .ok (.startLoadTest 1000 "dos_attack") := rfl
  obtain ⟨targetRps, rate, returns⟩ :=
    loadTest_ticks_return .start asked started .start alive own live (.calm 25)
  obtain rfl : 1000 = targetRps := Except.ok.inj rate
  refine ⟨after, out, timer, started, live, own, returns.mpr ⟨?_, ?_⟩⟩
  · exact (pushCount_batch (.calm 25) "dos_attack" 1000).mp (by decide +kernel)
  · refine (tokensAt_reads 0).mp ?_
    cases looked : after.core.tokensAt 0 with
    | error thrown =>
      rw [looked] at rated
      contradiction
    | ok tokens => exact ⟨tokens, rfl⟩

/-- A literal that is too large for a number is infinite. -/
theorem literal_overflows : JsNum.literal (10 ^ 999) = .posInf := by
  have eight : (2 : ℚ) ^ 3 = 8 := by norm_num
  refine if_pos ?_
  calc (2 : ℚ) ^ 1024 - 2 ^ 970 ≤ 2 ^ 1024 := sub_le_self _ (by positivity)
    _ ≤ 2 ^ (3 * 999) := pow_le_pow_right₀ one_le_two (by decide)
    _ = 8 ^ 999 := by rw [pow_mul, eight]
    _ ≤ 10 ^ 999 := pow_le_pow_left₀ (by norm_num) (by norm_num) 999

/-- A body with the rate 1e999 asks for infinitely many events. The first tick pushes until the
array is full; the next push throws, and the process ends. -/
theorem loadTest_tick_crashes : ∃ after out timer last shown,
    benchmarkStart (.obj [("rps", .num (.literal (10 ^ 999)))]) "steady" =
        .ok (.startLoadTest .posInf "steady") ∧
      step (.start (.calm 0)) (.request (.calm 0) (.startLoadTest .posInf "steady")) =
        some (after, out) ∧ timer ∈ after.loop.timers ∧
      after.engine.loadTestTimer = some timer.id ∧ after.crashed = false ∧
      step after (.fire (.calm 25) timer.id) = some (last, shown) ∧
      .crashed .rangeError ∈ shown ∧ ¬ after.TickReturns (.calm 25) timer.id := by
  have ran : (step (.start (.calm 0)) (.request (.calm 0) (.startLoadTest .posInf "steady"))).any
      (fun last => !last.1.crashed && last.1.engine.loadTestTimer = some 3 &&
        (last.1.loop.find 3).any (fun timer => timer.task = .loadTest .posInf) &&
        last.1.engine.loadTestActive && last.1.engine.loadTestScenario = "steady") = true := by
    decide +kernel
  obtain ⟨⟨after, out⟩, started, passed⟩ := (Option.any_eq_true _ _).mp ran
  simp only [Bool.and_eq_true, Bool.not_eq_true', decide_eq_true_eq] at passed
  obtain ⟨⟨⟨⟨alive, own⟩, found⟩, active⟩, steady⟩ := passed
  obtain ⟨timer, finds, task⟩ := (Option.any_eq_true _ _).mp found
  obtain ⟨live, named⟩ := EventLoop.find_some finds
  have infinite : loadTestCount (.calm 25) after.engine .posInf = none := by
    rw [loadTestCount, if_pos active, steady]
    rfl
  have overflows : (timer.task.callback (.calm 25)).run (after.fired (.calm 25) timer) =
      ⟨after.fired (.calm 25) timer, [], .error .rangeError⟩ := by
    rw [of_decide_eq_true task]
    exact run_loadTestTick_overflows (.calm 25) active infinite
  have throws : step after (.fire (.calm 25) timer.id) =
      some (finish ((timer.task.callback (.calm 25)).run (after.fired (.calm 25) timer))) :=
    step_fire alive live
  rw [overflows] at throws
  rw [← named] at own
  refine ⟨after, out, timer, _, _, ?_, started, live, own, alive, throws, ?_, ?_⟩
  · rw [literal_overflows]
    rfl
  · exact List.mem_singleton.mpr rfl
  · rintro ⟨last, shown, returned, ended⟩
    obtain ⟨rfl, _⟩ := Prod.mk.inj (Option.some.inj (throws.symm.trans returned))
    contradiction

end IngestionEngine.Server
