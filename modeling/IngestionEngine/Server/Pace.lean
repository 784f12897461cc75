import IngestionEngine.Server.LoadTest
import IngestionEngine.Server.Throughput

/-!
# The pace of a load test

A load test builds its events 40 times a second, each time a fortieth of its target rounded up. As
long as it is not stopped or started again and its interval fires on time, it keeps that pace,
whatever the limiter and the queue do with the events.
-/

namespace IngestionEngine.Server

open Systems Program

/-- The events of a tick without a scenario. -/
def perTick (rps : ℚ) : ℕ := ⌈rps / 40⌉.toNat

/-- The fewest events of a tick. -/
def leastTick (scenario : String) (rps : ℚ) : ℕ :=
  if scenario = "burst" then max 10 (perTick rps / 10)
  else if scenario = "dos_attack" then 4 * perTick rps
  else perTick rps

/-- The most events of a tick. -/
def mostTick (scenario : String) (rps : ℚ) : ℕ :=
  if scenario = "burst" then max 10 (perTick rps * 19 / 10)
  else if scenario = "dos_attack" then 4 * perTick rps
  else perTick rps

/-! ### One tick -/

section Ticks

variable {env : Env} {e : Engine} {rps : ℚ} {count : ℕ}

/-- How many events a loop with an integer bound pushes. -/
theorem pushCount_toNat {bound : ℤ} (counted : pushCount env (.fin bound) = some count) :
    count = bound.toNat := by
  rw [pushCount_int] at counted
  split at counted
  · exact (Option.some.inj counted).symm
  · contradiction

/-- A factor between a tenth and nineteen tenths. -/
theorem burst_bounds (ticks : ℤ) {sine : ℚ} (low : -1 ≤ sine) (high : sine ≤ 1) :
    max 10 (ticks.toNat / 10) ≤ (max 10 ⌊(ticks : ℚ) * (1 + sine * (9 / 10))⌋).toNat ∧
      (max 10 ⌊(ticks : ℚ) * (1 + sine * (9 / 10))⌋).toNat ≤ max 10 (ticks.toNat * 19 / 10) := by
  have below := Int.floor_le ((ticks : ℚ) * (1 + sine * (9 / 10)))
  rcases le_or_gt 0 ticks with nonneg | negative
  · lift ticks to ℕ using nonneg
    have nonneg : (0 : ℚ) ≤ ticks := Nat.cast_nonneg ticks
    rw [Int.cast_natCast] at below ⊢
    have most : 10 * ⌊(ticks : ℚ) * (1 + sine * (9 / 10))⌋ ≤ 19 * ticks := by
      have scaled : 10 * (⌊(ticks : ℚ) * (1 + sine * (9 / 10))⌋ : ℚ) ≤ 19 * ticks := by nlinarith
      exact_mod_cast scaled
    have least : ((ticks / 10 : ℕ) : ℤ) ≤ ⌊(ticks : ℚ) * (1 + sine * (9 / 10))⌋ := by
      have tenth : ((ticks / 10 : ℕ) : ℚ) * 10 ≤ ticks := by
        exact_mod_cast Nat.div_mul_le_self ticks 10
      rw [Int.le_floor, Int.cast_natCast]
      nlinarith
    omega
  · have none : ⌊(ticks : ℚ) * (1 + sine * (9 / 10))⌋ ≤ 0 := by
      have negative : (ticks : ℚ) ≤ 0 := by exact_mod_cast negative.le
      have scaled : (⌊(ticks : ℚ) * (1 + sine * (9 / 10))⌋ : ℚ) ≤ 0 := by nlinarith
      exact_mod_cast scaled
    omega

/-- The number of events that a tick builds. -/
theorem tick_bounds (active : e.loadTestActive = true)
    (counted : loadTestCount env e ((JsNum.fin rps).div 40).ceil = some count) :
    leastTick e.loadTestScenario rps ≤ count ∧ count ≤ mostTick e.loadTestScenario rps := by
  rw [loadTestCount, if_pos active] at counted
  by_cases burst : e.loadTestScenario = "burst"
  · rw [burst, burst_count] at counted
    rw [leastTick, mostTick, if_pos burst, if_pos burst, pushCount_toNat counted]
    exact burst_bounds _ env.sine.property.1 env.sine.property.2
  · by_cases attack : e.loadTestScenario = "dos_attack"
    · rw [attack, attack_count] at counted
      simp only [leastTick, mostTick, if_neg burst, if_pos attack, pushCount_toNat counted, perTick]
      omega
    · rw [ceil_ticks, tickBatchCount, if_neg burst, if_neg attack] at counted
      simp only [leastTick, mostTick, if_neg burst, if_neg attack, pushCount_toNat counted, perTick]
      exact ⟨le_rfl, le_rfl⟩

/-- Ticks every 25 ms make up a target, less one tick and plus 40 events a second at most. -/
theorem target_met {start time : Int} {ticks events : ℕ} (nonneg : 0 ≤ rps)
    (begun : start + 25 * ticks ≤ time) (lasts : time ≤ start + 25 * (ticks + 1))
    (all : events = ticks * perTick rps) :
    rps * (time - start - 25) ≤ 1000 * events ∧ 1000 * events ≤ (rps + 40) * (time - start) := by
  have positive : (0 : ℤ) ≤ ⌈rps / 40⌉ := Int.ceil_nonneg (by positivity)
  have cast : ((perTick rps : ℕ) : ℚ) = (⌈rps / 40⌉ : ℚ) := by
    rw [perTick, ← Int.cast_natCast, Int.toNat_of_nonneg positive]
  have enough : rps ≤ 40 * perTick rps := by
    have above := Int.le_ceil (rps / 40)
    rw [cast]
    linarith
  have close : 40 * (perTick rps : ℚ) ≤ rps + 40 := by
    have below := Int.ceil_lt_add_one (rps / 40)
    rw [cast]
    linarith
  have total : (events : ℚ) = ticks * perTick rps := by exact_mod_cast all
  have early : (25 : ℚ) * ticks ≤ time - start := by
    have shifted : 25 * (ticks : ℤ) ≤ time - start := by omega
    exact_mod_cast shifted
  have late : (time - start - 25 : ℚ) ≤ 25 * ticks := by
    have shifted : time - start - 25 ≤ 25 * (ticks : ℤ) := by omega
    exact_mod_cast shifted
  have ticked : (0 : ℚ) ≤ ticks := Nat.cast_nonneg ticks
  rw [total]
  constructor
  · calc rps * (time - start - 25) ≤ rps * (25 * ticks) := mul_le_mul_of_nonneg_left late nonneg
      _ = 25 * ticks * rps := by ring
      _ ≤ 25 * ticks * (40 * perTick rps) := mul_le_mul_of_nonneg_left enough (by positivity)
      _ = 1000 * (ticks * perTick rps) := by ring
  · calc 1000 * (ticks * perTick rps : ℚ) = 25 * ticks * (40 * perTick rps) := by ring
      _ ≤ 25 * ticks * (rps + 40) := mul_le_mul_of_nonneg_left close (by positivity)
      _ = (rps + 40) * (25 * ticks) := by ring
      _ ≤ (rps + 40) * (time - start) := mul_le_mul_of_nonneg_left early (by positivity)

end Ticks

/-! ### The ticks of a run -/

/-- An observer of the timer of a load test, who notes how many events each tick submits. -/
def watchTicks (id : Nat) (ticks : List ℕ) (p : Process) (action : Act) (_ : List Obs) : List ℕ :=
  if action.fires id then ticks ++ [p.submissions action] else ticks

/-- The action starts or stops a load test. -/
def Act.controls : Act → Bool
  | .request _ (.startLoadTest _ _) | .request _ .stopLoadTest
  | .request _ .simulateGracefulShutdown => true
  | .request _ _ | .fire _ _ => false

/-- A punctual action that leaves the load test alone. -/
def LeftAlone (p : Process) (action : Act) : Prop :=
  Punctual p action ∧ action.controls = false

instance (p : Process) (action : Act) : Decidable (LeftAlone p action) :=
  inferInstanceAs (Decidable (Punctual p action ∧ action.controls = false))

/-- The timer of a load test, with the number of ticks that have passed. -/
def loadTimer (id : Nat) (rps : ℚ) (start : Int) (ticks : Nat) : Timer Task :=
  ⟨id, .loadTest ((JsNum.fin rps).div 40).ceil, start + 25 * (ticks + 1), some 25⟩

/-- It is due again one period later. -/
theorem renewed_load {id : Nat} {rps : ℚ} {start : Int} {ticks : Nat} {action : Act}
    (fires : action.fires id = true) (due : action.clock = start + 25 * (ticks + 1)) :
    action.renewed (loadTimer id rps start ticks) 25 = loadTimer id rps start (ticks + 1) := by
  have own : action.fires (loadTimer id rps start ticks).id = true := fires
  rw [Act.renewed, if_pos own, due, loadTimer, loadTimer, Nat.cast_succ, mul_add _ (_ + 1),
    mul_one, add_assoc]

/-- A load test keeps its pace. -/
structure Paced (id : Nat) (rps : ℚ) (scenario : String) (start : Int) (p : Process)
    (ticks : List ℕ) : Prop where
  /-- The timers are sound. -/
  sound : p.TimersSound
  /-- The load test is active. -/
  loading : p.engine.loading = (some id, true, scenario)
  /-- Its next tick. -/
  live : loadTimer id rps start ticks.length ∈ p.loop.timers
  /-- The last tick has passed. -/
  begun : start + 25 * ticks.length ≤ p.loop.time
  /-- The next has not. -/
  lasts : p.loop.time ≤ start + 25 * (ticks.length + 1)
  /-- What each tick has submitted, if none has ended the process. -/
  submits : p.crashed = false →
    ∀ events ∈ ticks, leastTick scenario rps ≤ events ∧ events ≤ mostTick scenario rps

section Runs

variable {id : Nat} {rps : ℚ} {scenario : String} {start : Int} {p after : Process}
  {ticks : List ℕ} {action : Act} {out : List Obs}

/-- A step that leaves the load test alone. -/
theorem step_loading (alone : action.controls = false)
    (stepped : step p action = some (after, out)) : after.engine.loading = p.engine.loading := by
  let holds (q : Process) : Prop := q.engine.loading = p.engine.loading
  cases step_cases stepped with
  | @request env request alive =>
    have kept : Keeps holds (request.call env) := by
      cases request with
      | ingestSingle event =>
        refine keeps_bind ?_ fun _ => keeps_emit _
        exact keeps_of_view Process.exceptIngest (fun _ => Iff.rfl) fun _ =>
          keeps_ingestSingle env event
      | ingestBatch events =>
        refine keeps_bind ?_ fun _ => keeps_emit _
        exact keeps_of_view Process.exceptIngest (fun _ => Iff.rfl) fun _ =>
          keeps_ingestBatch env events
      | getMetrics =>
        refine keeps_bind ?_ fun _ => keeps_emit _
        exact keeps_of_view Process.exceptTokens (fun _ => Iff.rfl) fun _ => keeps_getMetrics env
      | updateConfig cfg =>
        exact keeps_of_view Process.exceptConfig (fun _ => Iff.rfl) fun _ =>
          keeps_updateConfig env cfg
      | startLoadTest | stopLoadTest | simulateGracefulShutdown => contradiction
    rw [respond_state]
    exact kept (p.begin env) rfl
  | @fire env timer alive live =>
    have kept : Keeps holds (timer.task.callback env) :=
      loading_callback env (fun _ _ same held => same.trans held) (fun _ held => held) timer.task
    rw [(finish_state _).2]
    exact kept (p.fired env timer) rfl

/-- A tick that does not end the process submits a number of events between its bounds. -/
theorem tick_submits (loading : p.engine.loading = (some id, true, scenario)) {count : Nat}
    (live : loadTimer id rps start count ∈ p.loop.timers) (fires : action.fires id = true)
    (stepped : step p action = some (after, out)) (alive : after.crashed = false) :
    leastTick scenario rps ≤ p.submissions action ∧
      p.submissions action ≤ mostTick scenario rps := by
  simp only [Engine.loading, Prod.mk.injEq] at loading
  obtain ⟨_, active, same⟩ := loading
  cases step_cases stepped with
  | request => contradiction
  | @fire env timer _ pending =>
    obtain rfl := EventLoop.eq_of_id pending live (of_decide_eq_true fires)
    have load := load_loadTest env live rfl
    rw [tickLoad, if_pos active] at load
    cases counted : loadTestCount env p.engine ((JsNum.fin rps).div 40).ceil with
    | none =>
      have overflows := run_loadTestTick_overflows env
        (p := p.fired env (loadTimer id rps start count)) active counted
      rw [loadTimer, Task.callback, ← loadTimer, overflows] at alive
      contradiction
    | some events =>
      rw [counted] at load
      have submitted : p.submissions (.fire env (loadTimer id rps start count).id) = events :=
        congrArg Prod.snd load
      rw [submitted, ← same]
      exact tick_bounds active counted

/-- A step keeps the pace. -/
theorem step_pace (paced : Paced id rps scenario start p ticks) (undisturbed : LeftAlone p action)
    (stepped : step p action = some (after, out)) :
    Paced id rps scenario start after (watchTicks id ticks p action out) := by
  obtain ⟨sound, loading, live, begun, lasts, submits⟩ := paced
  obtain ⟨punctual, alone⟩ := undisturbed
  have now := step_time stepped
  have onward : p.loop.time ≤ action.clock := punctual.1
  have held := step_holds (by simp [loadTimer]) sound live rfl stepped
  have still : after.engine.loading = (some id, true, scenario) :=
    (step_loading alone stepped).trans loading
  have before := submits (step_alive stepped)
  rw [watchTicks]
  cases fires : action.fires id with
  | true =>
    have due : action.clock = start + 25 * (ticks.length + 1) :=
      punctual_due punctual live rfl fires
    have longer : (ticks ++ [p.submissions action]).length = ticks.length + 1 := by simp
    rw [renewed_load fires due] at held
    have pending := held.pending (.inr (congrArg Prod.fst still))
    rw [if_pos rfl]
    refine ⟨held.sound, still, by rwa [longer], ?_, ?_, fun alive events member => ?_⟩
    · rw [longer]
      push_cast
      omega
    · rw [longer]
      push_cast
      omega
    · rcases List.mem_append.mp member with old | new
      · exact before events old
      · rw [List.mem_singleton.mp new]
        exact tick_submits loading live fires stepped alive
  | false =>
    have due : action.clock ≤ start + 25 * (ticks.length + 1) :=
      (punctual.2 _ live (Option.some_ne_none _)).1
    have same : action.renewed (loadTimer id rps start ticks.length) 25 =
        loadTimer id rps start ticks.length :=
      if_neg fun own => Bool.false_ne_true (fires.symm.trans own)
    rw [same] at held
    have pending := held.pending (.inr (congrArg Prod.fst still))
    rw [if_neg Bool.false_ne_true]
    refine ⟨held.sound, still, pending, ?_, ?_, fun _ => before⟩ <;> omega

/-- A load test that has been started has its first tick before it. -/
theorem start_paced {env : Env} (sound : p.TimersSound)
    (started : step p (.request env (.startLoadTest (.fin rps) scenario)) = some (after, out)) :
    Paced p.loop.nextId rps scenario env.clock after [] := by
  have now : after.loop.time = env.clock := step_time started
  have left : after = ((startLoadTest env (.fin rps) scenario).run (p.begin env)).state := by
    cases step_cases started with
    | request alive => rw [respond_state, Request.call]
  have later := step_sound sound started
  simp only [startLoadTest, stopLoadTest, run_bind, run_update, run_engine, run_clearTimer,
    run_addLog, run_setTimer, andThen_ok, after_mk] at left
  refine ⟨later, ?_, ?_, ?_, ?_, fun _ => List.forall_mem_nil _⟩
  · rw [left]
    rfl
  · rw [left]
    exact EventLoop.mem_set.mpr (.inr rfl)
  · rw [now]
    simp
  · rw [now]
    simp

end Runs

/-- As long as a load test is not stopped or started again, intervals fire on time and the process
has not ended, it ticks every 25 ms, and each tick submits a number of events between the bounds of
its scenario. Without a scenario the ticks submit what its target asks for, less one tick and plus
40 events a second at most. -/
theorem load_test_paced {init env : Env} {before seen : List Obs} {p q after : Process}
    {out : List Obs} {rps : ℚ} {scenario : String} {ticks : List ℕ}
    (reached : system.AnyRun (.start init) before p)
    (started : step p (.request env (.startLoadTest (.fin rps) scenario)) = some (after, out))
    (run : (system.watched (watchTicks p.loop.nextId)).Run
      (fun state action => LeftAlone state.1 action) (after, []) seen (q, ticks))
    (alive : q.crashed = false) :
    (env.clock + 25 * ticks.length ≤ q.loop.time ∧
        q.loop.time ≤ env.clock + 25 * (ticks.length + 1)) ∧
      (∀ events ∈ ticks, leastTick scenario rps ≤ events ∧ events ≤ mostTick scenario rps) ∧
      (scenario ≠ "burst" → scenario ≠ "dos_attack" → 0 ≤ rps →
        rps * (q.loop.time - env.clock - 25) ≤ 1000 * ticks.sum ∧
          1000 * ticks.sum ≤ (rps + 40) * (q.loop.time - env.clock)) := by
  have paced : Paced p.loop.nextId rps scenario env.clock q ticks := by
    refine run.state_invariant
      (fun state => Paced p.loop.nextId rps scenario env.clock state.1 state.2)
      (start_paced (run_sound init reached) started) ?_
    intro state action after out paced undisturbed stepped
    obtain ⟨moved, watched⟩ := System.watched_step stepped
    rw [watched]
    exact step_pace paced undisturbed moved
  have submits := paced.submits alive
  refine ⟨⟨paced.begun, paced.lasts⟩, submits, fun burst attack nonneg => ?_⟩
  have each : ∀ events ∈ ticks, events = perTick rps := by
    intro events member
    have bounds := submits events member
    rw [leastTick, mostTick, if_neg burst, if_neg burst, if_neg attack] at bounds
    exact le_antisymm bounds.2 bounds.1
  exact target_met nonneg paced.begun paced.lasts (List.sum_eq_card_nsmul ticks _ each)

/-- The first 50 ms of a load test, with a call of another client. -/
def firstTicks : List Act :=
  [.fire (.calm 10) 0, .request (.calm 12) (.ingestSingle plainEvent), .fire (.calm 20) 0,
    .fire (.calm 25) 3, .fire (.calm 30) 0, .fire (.calm 40) 0, .fire (.calm 50) 0,
    .fire (.calm 50) 1, .fire (.calm 50) 3]

/-- A load test of 100 events a second submits three in each of its first two ticks. -/
theorem load_test_paced_hundred : ∃ after out seen q ticks,
    step (.start (.calm 0)) (.request (.calm 0) (.startLoadTest (.fin 100) "steady")) =
        some (after, out) ∧
      (system.watched (watchTicks (Process.start (.calm 0)).loop.nextId)).Run
        (fun state action => LeftAlone state.1 action) (after, []) seen (q, ticks) ∧
      q.loop.time = 50 ∧ ticks = [3, 3] ∧
      (100 : ℚ) * (q.loop.time - 0 - 25) ≤ 1000 * ticks.sum := by
  have ran : (step (.start (.calm 0))
      (.request (.calm 0) (.startLoadTest (.fin 100) "steady"))).any (fun last =>
        ((system.watched (watchTicks (Process.start (.calm 0)).loop.nextId)).exec
          (fun state action => LeftAlone state.1 action) (last.1, []) firstTicks).any
            fun last => last.1.1.loop.time = 50 && last.1.2 = [3, 3] && !last.1.1.crashed) =
      true := by
    decide +kernel
  obtain ⟨⟨after, out⟩, started, passed⟩ := (Option.any_eq_true _ _).mp ran
  obtain ⟨⟨⟨q, ticks⟩, seen⟩, executed, checked⟩ := (Option.any_eq_true _ _).mp passed
  simp only [Bool.and_eq_true, decide_eq_true_eq, Bool.not_eq_true'] at checked
  obtain ⟨⟨now, submitted⟩, alive⟩ := checked
  have run := System.exec_run executed
  obtain ⟨_, _, target⟩ := load_test_paced .start started run alive
  have met := (target (by decide) (by decide) (by norm_num)).1
  exact ⟨after, out, seen, q, ticks, started, run, now, submitted, by exact_mod_cast met⟩

end IngestionEngine.Server
