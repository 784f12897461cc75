import IngestionEngine.Server.Accounting
import IngestionEngine.Server.Intervals
import Mathlib.Algebra.Group.Prod

/-!
# The rates that are reported

Every call that ingests counts its request and its events before it asks the limiter, so what is
refused, rejected or dropped counts as well. A tick once a second reports these counts and starts
again.
-/

namespace IngestionEngine.Server

open Systems Program

/-- What has been counted since the last tick of the metrics, and what this tick has left. -/
def Engine.rates (e : Engine) : (ℕ × ℕ) × (ℕ × ℕ) :=
  ((e.rpsCounter, e.epsCounter), (e.currentRPS, e.currentEPS))

/-- These counts have a value. -/
def Process.Counts (value : (ℕ × ℕ) × (ℕ × ℕ)) (p : Process) : Prop := p.engine.rates = value

/-- The action is a tick of the metrics. -/
def Process.ticksMetrics (p : Process) : Act → Bool
  | .request _ _ => false
  | .fire _ id => (p.loop.find id).any fun timer => timer.task = .metrics

/-- The calls that ingest in an action, and the events that they submit. -/
def Process.load (p : Process) (action : Act) : ℕ × ℕ :=
  ((action.isSingle || (p.batch action).isSome).toNat, p.submissions action)

/-! ### What a step counts -/

section Rates

variable {env : Env} {value : (ℕ × ℕ) × (ℕ × ℕ)}

/-- An assignment of other fields. -/
theorem rates_update {change : Engine → Engine} (same : ∀ e, (change e).rates = e.rates) :
    Keeps (Process.Counts value) (update change) :=
  keeps_update fun p held => (same p.engine).trans held

/-- A latency. -/
theorem rates_recordLatency (ms : ℚ) :
    Keeps (Process.Counts value) (recordLatency ms) := by
  refine keeps_bind (rates_update fun _ => rfl) fun _ => keeps_bind keeps_engine fun _ => ?_
  exact keeps_onlyIf (rates_update fun _ => rfl)

/-- The limiter. -/
theorem rates_limiter (count : JsNum) :
    Keeps (Process.Counts value) (allowRateLimit env count) :=
  keeps_limiter env (fun _ _ _ _ held => held) count

/-- The loop of `ingestBatch`. -/
theorem rates_ingestEvents (events : List JsValue) (index accepted dropped : Nat) :
    Keeps (Process.Counts value) (ingestEvents env events index accepted dropped) := by
  induction events generalizing index accepted dropped with
  | nil => exact keeps_pure _
  | cons event rest ih =>
    refine keeps_bind (keeps_lift _) fun _ => keeps_bind keeps_engine fun _ => keeps_ite ?_ ?_
    · refine keeps_bind (rates_update fun _ => rfl) fun _ => ?_
      refine keeps_bind (rates_update fun _ => rfl) fun _ => ?_
      exact keeps_bind (keeps_emit _) fun _ => ih _ _ _
    · exact keeps_bind (rates_update fun _ => rfl) fun _ => ih _ _ _

/-- A flush. -/
theorem rates_triggerFlush (reason : FlushReason) :
    Keeps (Process.Counts value) (triggerFlush env reason) :=
  keeps_of_view Process.exceptFlush (fun _ => Iff.rfl) (keeps_triggerFlush env reason)

/-- A call of `stopLoadTest`. -/
theorem rates_stopLoadTest : Keeps (Process.Counts value) (stopLoadTest env) :=
  keeps_stopLoadTest env (fun _ _ _ _ held => held) fun _ _ held => held

variable (env) in
/-- A call of `ingestBatch` counts its request and its events. -/
theorem ingestBatch_rates (events : List JsValue) (p : Process) :
    Process.Counts (p.engine.rates.1 + (1, events.length), p.engine.rates.2)
      ((ingestBatch env events).run p).state := by
  refine leaves_bind rfl fun _ => ?_
  refine keeps_bind (rates_limiter _) fun _ => keeps_ite ?_ ?_
  · exact keeps_bind (rates_update fun _ => rfl) fun _ => keeps_pure _
  · refine keeps_bind (rates_ingestEvents _ _ _ _) fun _ => ?_
    refine keeps_bind (rates_recordLatency _) fun _ => keeps_bind (keeps_emit _) fun _ => ?_
    exact keeps_pure _

/-- A call of `ingestSingle` counts its request and its event. -/
theorem ingestSingle_rates (event : JsValue) (p : Process) :
    Process.Counts (p.engine.rates.1 + (1, 1), p.engine.rates.2)
      ((ingestSingle env event).run p).state := by
  refine leaves_bind rfl fun _ => ?_
  refine keeps_bind (rates_limiter _) fun _ => keeps_ite (keeps_pure _) ?_
  refine keeps_bind (keeps_lift _) fun _ => keeps_ite (keeps_pure _) ?_
  refine keeps_bind (keeps_lift _) fun _ => keeps_bind keeps_engine fun _ => keeps_ite ?_ ?_
  · refine keeps_bind (rates_update fun _ => rfl) fun _ => ?_
    exact keeps_bind (keeps_addLog fun _ _ held => held) fun _ => keeps_pure _
  · refine keeps_bind (rates_update fun _ => rfl) fun _ => ?_
    refine keeps_bind (rates_update fun _ => rfl) fun _ => keeps_bind (keeps_emit _) fun _ => ?_
    refine keeps_bind (rates_recordLatency _) fun _ => keeps_bind (keeps_emit _) fun _ => ?_
    exact keeps_pure _

/-- A request counts what it ingests. -/
theorem request_rates (request : Request) (p : Process) :
    Process.Counts (p.engine.rates.1 + p.load (.request env request), p.engine.rates.2)
      ((request.call env).run p).state := by
  have rest : Process.Counts (p.engine.rates.1 + 0, p.engine.rates.2) p :=
    congrArg (Prod.mk · p.engine.rates.2) (add_zero _).symm
  cases request with
  | ingestSingle event => exact leaves_bind (ingestSingle_rates event p) fun _ => keeps_emit _
  | ingestBatch events => exact leaves_bind (ingestBatch_rates env events p) fun _ => keeps_emit _
  | getMetrics =>
    have kept : Keeps (Process.Counts (p.engine.rates.1 + 0, p.engine.rates.2)) (getMetrics env) :=
      keeps_of_view Process.exceptTokens (fun _ => Iff.rfl) fun _ => keeps_getMetrics env
    exact leaves_bind (kept p rest) fun _ => keeps_emit _
  | startLoadTest targetRps scenario =>
    refine leaves_bind (rates_stopLoadTest p rest) fun _ => ?_
    refine keeps_bind (rates_update fun _ => rfl) fun _ => ?_
    refine keeps_bind (keeps_addLog fun _ _ held => held) fun _ => ?_
    exact keeps_bind (fun _ held => held) fun _ => rates_update fun _ => rfl
  | stopLoadTest => exact rates_stopLoadTest p rest
  | updateConfig cfg =>
    have kept : Keeps (Process.Counts (p.engine.rates.1 + 0, p.engine.rates.2))
        (updateConfig env cfg) :=
      keeps_of_view Process.exceptConfig (fun _ => Iff.rfl) fun _ => keeps_updateConfig env cfg
    exact kept p rest
  | simulateGracefulShutdown =>
    have shut : Process.Counts (p.engine.rates.1 + 0, p.engine.rates.2)
        ((simulateGracefulShutdown env).run p).state :=
      leaves_shutdown env (fun _ _ _ _ held => held) rates_stopLoadTest (rates_triggerFlush _)
        (fun _ held => held) rest
    exact leaves_bind shut fun _ => keeps_emit _

/-- The metrics report what the last tick has left. -/
theorem getMetrics_rates {p : Process} {m : EngineMetrics}
    (returned : ((getMetrics env).run p).result = .ok m) :
    (m.currentRps, m.currentEps) = p.engine.rates.2 := by
  have kept : Keeps (Process.Counts p.engine.rates) (refillTokens env) :=
    keeps_refillTokens env fun _ _ _ held => held
  have same := kept p rfl
  rw [getMetrics, run_bind] at returned
  generalize (refillTokens env).run p = outcome at same returned
  obtain ⟨q, shown, result⟩ := outcome
  cases result with
  | error thrown => contradiction
  | ok value =>
    have rates : q.engine.rates = p.engine.rates := same
    simp only [andThen_ok, run_bind, run_engine, run_lift, after_result] at returned
    cases burst : q.engine.rateLimitBurst.toNumber with
    | error thrown =>
      rw [burst] at returned
      contradiction
    | ok number =>
      rw [burst] at returned
      obtain rfl := Except.ok.inj returned
      exact congrArg Prod.snd rates

/-- What a tick of the load test ingests: one batch, if an array can hold it. -/
def tickLoad (env : Env) (e : Engine) (eventsPerTick : JsNum) : ℕ × ℕ :=
  if e.loadTestActive then (loadTestCount env e eventsPerTick).elim 0 fun count => (1, count) else 0

/-- A tick of the load test counts the batch that it ingests. -/
theorem loadTestTick_rates (eventsPerTick : JsNum) (p : Process) : Process.Counts
    (p.engine.rates.1 + tickLoad env p.engine eventsPerTick, p.engine.rates.2)
      ((loadTestTick env eventsPerTick).run p).state := by
  have nothing : (p.engine.rates.1 + 0, p.engine.rates.2) = p.engine.rates := rfl
  unfold tickLoad
  cases active : p.engine.loadTestActive with
  | false =>
    rw [run_loadTestTick_idle env p eventsPerTick active]
    exact nothing.symm
  | true =>
    rw [if_pos rfl]
    cases ticks : loadTestCount env p.engine eventsPerTick with
    | none =>
      rw [run_loadTestTick_overflows env active ticks]
      exact nothing.symm
    | some count =>
      rw [run_loadTestTick_fits env active ticks]
      have counted := ingestBatch_rates env ((List.range count).map (mockEvent env)) p
      rw [List.length_map, List.length_range] at counted
      exact leaves_bind counted fun _ => keeps_pure _

/-- A callback of a timer other than the metrics and the load test counts nothing. -/
theorem callback_rates {value : (ℕ × ℕ) × (ℕ × ℕ)} {task : Task} (metrics : task ≠ .metrics)
    (loads : ∀ eventsPerTick, task ≠ .loadTest eventsPerTick) :
    Keeps (Process.Counts value) (task.callback env) := by
  cases task with
  | metrics => exact absurd rfl metrics
  | loadTest eventsPerTick => exact absurd rfl (loads eventsPerTick)
  | workers =>
    exact keeps_workerTick env (fun _ held => held) (rates_triggerFlush _) fun _ held => held
  | release | reset => exact rates_update fun _ => rfl
  | flush => exact keeps_bind keeps_engine fun _ => keeps_onlyIf (rates_triggerFlush _)

/-- The load of a tick of the load test. -/
theorem load_loadTest (env : Env) {p : Process} {timer : Timer Task}
    (live : timer ∈ p.loop.timers) {eventsPerTick : JsNum}
    (task : timer.task = .loadTest eventsPerTick) :
    p.load (.fire env timer.id) = tickLoad env p.engine eventsPerTick := by
  have found := EventLoop.find_id live
  obtain ⟨id, _, due, period⟩ := timer
  obtain rfl : _ = Task.loadTest eventsPerTick := task
  have batch : p.batch (.fire env id) =
      if p.engine.loadTestActive then
        (loadTestCount env p.engine eventsPerTick).map fun count => (env.clock, count)
      else none := by
    rw [Process.batch, found]
  rw [Process.load, Process.submissions, batch, tickLoad]
  cases p.engine.loadTestActive with
  | false => rfl
  | true => cases loadTestCount env p.engine eventsPerTick <;> rfl

/-- The load of another timer. -/
theorem load_other {p : Process} {timer : Timer Task} (live : timer ∈ p.loop.timers)
    (other : ∀ eventsPerTick, timer.task ≠ .loadTest eventsPerTick) :
    p.load (.fire env timer.id) = 0 := by
  have found := EventLoop.find_id live
  obtain ⟨id, task, due, period⟩ := timer
  have batch : p.batch (.fire env id) = none := by
    rw [Process.batch, found]
    cases task with
    | loadTest eventsPerTick => exact absurd rfl (other eventsPerTick)
    | workers | release | flush | metrics | reset => rfl
  rw [Process.load, Process.submissions, batch]
  rfl

/-- A step counts what it ingests, and a tick of the metrics reports it and starts again. -/
theorem step_rates {p after : Process} {action : Act} {out : List Obs}
    (stepped : step p action = some (after, out)) :
    after.engine.rates = if p.ticksMetrics action then (0, p.engine.rates.1)
      else (p.engine.rates.1 + p.load action, p.engine.rates.2) := by
  cases step_cases stepped with
  | @request env request alive =>
    rw [respond_state]
    exact request_rates request (p.begin env)
  | @fire env timer alive live =>
    have ticking : p.ticksMetrics (.fire env timer.id) = decide (timer.task = .metrics) := by
      rw [Process.ticksMetrics, EventLoop.find_id live]
      rfl
    rw [(finish_state _).2, ticking]
    cases task : timer.task with
    | metrics => rfl
    | loadTest eventsPerTick =>
      rw [load_loadTest env live task, if_neg (by simp)]
      exact loadTestTick_rates eventsPerTick (p.fired env timer)
    | workers | release | flush | reset =>
      rw [if_neg (by simp), load_other live (by simp [task]), ← task]
      refine callback_rates (by simp [task]) (by simp [task]) _ ?_
      exact congrArg (Prod.mk · p.engine.rates.2) (add_zero _).symm

end Rates

/-! ### The seconds of a run -/

/-- What was ingested in each second that has passed, the last one first, and since then. -/
structure Seconds where
  /-- The calls and the events of each second. -/
  past : List (ℕ × ℕ)
  /-- Those of the second that has begun. -/
  now : ℕ × ℕ

/-- The observer of a new process. -/
def Seconds.start : Seconds := ⟨[], 0⟩

/-- An observer of the actions, for whom a second ends with a tick of the metrics. -/
def Seconds.watch (s : Seconds) (p : Process) (action : Act) (_ : List Obs) : Seconds :=
  if p.ticksMetrics action then ⟨s.now :: s.past, 0⟩ else ⟨s.past, s.now + p.load action⟩

/-- The timer of the metrics, with the number of seconds that have passed. -/
def metricsTimer (start : Int) (seconds : Nat) : Timer Task :=
  ⟨2, .metrics, start + 1000 * (seconds + 1), some 1000⟩

/-- It is due again one period later. -/
theorem renewed_metrics {start : Int} {seconds : Nat} {action : Act}
    (fires : action.fires 2 = true) (due : action.clock = start + 1000 * (seconds + 1)) :
    action.renewed (metricsTimer start seconds) 1000 = metricsTimer start (seconds + 1) := by
  have own : action.fires (metricsTimer start seconds).id = true := fires
  rw [Act.renewed, if_pos own, due, metricsTimer, metricsTimer, Nat.cast_succ, mul_add _ (_ + 1),
    mul_one, add_assoc]

/-- What the observer knows of the process. -/
structure Observed (start : Int) (p : Process) (s : Seconds) : Prop where
  /-- The timers are sound. -/
  sound : p.TimersSound
  /-- One timer ticks the metrics. -/
  sole : p.Sole .metrics 2
  /-- It is due at the end of the second. -/
  live : metricsTimer start s.past.length ∈ p.loop.timers
  /-- The second has begun. -/
  begun : start + 1000 * s.past.length ≤ p.loop.time
  /-- It has not ended. -/
  lasts : p.loop.time ≤ start + 1000 * (s.past.length + 1)
  /-- The counts. -/
  rates : p.engine.rates = (s.now, s.past.headD 0)

section Seconds

variable {start : Int} {p after : Process} {s : Seconds} {action : Act} {out : List Obs}

variable (action) in
/-- The metrics tick when their timer fires. -/
theorem ticksMetrics_fires (sole : p.Sole .metrics 2) {seconds : Nat}
    (live : metricsTimer start seconds ∈ p.loop.timers) :
    p.ticksMetrics action = action.fires 2 := by
  cases action with
  | request env request => rfl
  | fire env id =>
    have named : p.loop.find 2 = some (metricsTimer start seconds) := EventLoop.find_id live
    by_cases same : id = 2
    · subst same
      simp [Process.ticksMetrics, Act.fires, named, metricsTimer]
    · rw [Process.ticksMetrics, Act.fires, decide_eq_false same]
      cases found : p.loop.find id with
      | none => rfl
      | some timer =>
        obtain ⟨inside, own⟩ := EventLoop.find_some found
        exact decide_eq_false fun task => same (sole id ⟨timer, inside, own, task⟩)

/-- A punctual step keeps what the observer knows. -/
theorem step_observed (observed : Observed start p s) (punctual : Punctual p action)
    (stepped : step p action = some (after, out)) :
    Observed start after (s.watch p action out) := by
  obtain ⟨sound, sole, live, begun, lasts, rates⟩ := observed
  have counted := step_rates stepped
  have now := step_time stepped
  have held := step_holds (by simp [metricsTimer]) sound live rfl stepped
  have onward : p.loop.time ≤ action.clock := punctual.1
  have ticking := ticksMetrics_fires action sole live
  have pending := held.pending (.inl (by unfold Act.renewed; split <;> simp [metricsTimer]))
  rw [ticking] at counted
  rw [Seconds.watch, ticking]
  cases fires : action.fires 2 with
  | true =>
    have due : action.clock = start + 1000 * (s.past.length + 1) :=
      punctual_due punctual live rfl fires
    rw [renewed_metrics fires due] at pending
    rw [fires, if_pos rfl, rates] at counted
    refine ⟨held.sound, step_sole rfl sole stepped, pending, ?_, ?_, counted⟩
    · simp only [if_true, List.length_cons, Nat.cast_add, Nat.cast_one]
      omega
    · simp only [if_true, List.length_cons, Nat.cast_add, Nat.cast_one]
      omega
  | false =>
    have due : action.clock ≤ start + 1000 * (s.past.length + 1) :=
      (punctual.2 _ live (Option.some_ne_none _)).1
    have same : action.renewed (metricsTimer start s.past.length) 1000 =
        metricsTimer start s.past.length :=
      if_neg fun own => Bool.false_ne_true (fires.symm.trans own)
    rw [same] at pending
    rw [fires, if_neg Bool.false_ne_true, rates] at counted
    refine ⟨held.sound, step_sole rfl sole stepped, pending, ?_, ?_, counted⟩
    · simp only [Bool.false_eq_true, if_false]
      omega
    · simp only [Bool.false_eq_true, if_false]
      omega

/-- A new process is observed. -/
theorem start_observed (env : Env) : Observed env.clock (.start env) .start := by
  refine ⟨start_sound env, (start_sole env).2, ?_, ?_, ?_, rfl⟩
  · simp [start_timers, metricsTimer, Seconds.start]
  · exact (add_zero env.clock).le
  · have zero : (Process.start env).loop.time = env.clock := rfl
    rw [zero]
    simp only [Seconds.start, List.length_nil]
    omega

end Seconds

/-- In a run whose intervals fire on time, the seconds of the run end with the ticks of the metrics,
and in each second the engine reports the calls and the events of the second before, whatever has
become of them. -/
theorem rates_reported {env : Env} {seen : List Obs} {p : Process} {s : Seconds}
    (run : (system.watched Seconds.watch).Run (fun state action => Punctual state.1 action)
      (.start env, .start) seen (p, s)) :
    env.clock + 1000 * s.past.length ≤ p.loop.time ∧
      p.loop.time ≤ env.clock + 1000 * (s.past.length + 1) ∧
      (p.engine.rpsCounter, p.engine.epsCounter) = s.now ∧
      ∀ env m, ((getMetrics env).run p).result = .ok m →
        (m.currentRps, m.currentEps) = s.past.headD 0 := by
  have observed : Observed env.clock p s := by
    refine run.state_invariant (fun state => Observed env.clock state.1 state.2)
      (start_observed env) ?_
    intro state action after out observed punctual stepped
    obtain ⟨moved, watched⟩ := System.watched_step stepped
    rw [watched]
    exact step_observed observed punctual moved
  refine ⟨observed.begun, observed.lasts, congrArg Prod.fst observed.rates, ?_⟩
  intro env m returned
  rw [getMetrics_rates returned, observed.rates]

/-- The firings of the first second, with two calls before the first tick of the workers. -/
def firstSecond : List Act :=
  [.request (.calm 5) (.ingestSingle plainEvent),
      .request (.calm 6) (.ingestBatch [plainEvent, .obj []])] ++
    (List.range 100).flatMap (fun tick =>
      let env := Env.calm (10 * (tick + 1))
      if (tick + 1) % 5 = 0 then [.fire env 0, .fire env 1] else [.fire env 0]) ++
    [.fire (.calm 1000) 2]

/-- Two calls with three events are reported in the second after theirs. -/
theorem rates_reported_first : ∃ seen p s,
    (system.watched Seconds.watch).Run (fun state action => Punctual state.1 action)
        (.start (.calm 0), .start) seen (p, s) ∧ p.loop.time = 1000 ∧
      ∀ env m, ((getMetrics env).run p).result = .ok m → (m.currentRps, m.currentEps) = (2, 3) := by
  obtain ⟨seen, ⟨p, s⟩, run, passed⟩ := System.exec_witness (system.watched Seconds.watch)
    (fun state action => Punctual state.1 action) (.start (.calm 0), .start) firstSecond
    (fun (state, _) => state.1.loop.time = 1000 && state.2.past = [(2, 3)]) (by decide +kernel)
  simp only [Bool.and_eq_true, decide_eq_true_eq] at passed
  obtain ⟨time, past⟩ := passed
  have reported := (rates_reported run).2.2.2
  rw [past] at reported
  exact ⟨seen, p, s, run, time, reported⟩

end IngestionEngine.Server
