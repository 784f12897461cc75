import IngestionEngine.Server.Conservation
import IngestionEngine.Server.Ingest
import IngestionEngine.Server.Shutdown

/-!
# Ingestion during a shutdown

Only the tick of the workers looks at `isShuttingDown`. The calls that ingest events, and the load
test that a request starts again, accept what they would accept at any other time. So the queue
stays empty until the flag is reset exactly as long as they would have accepted nothing anyway.
-/

namespace IngestionEngine.Server

open Systems Program

/-! ### What an action accepts -/

/-- How many events `ingestBatch` puts into the queue. -/
def Process.acceptsBatch (p : Process) (env : Env) (events : List JsValue) : Nat :=
  if p.core.affords env.clock (batchCost events.length) then
    (fitting p.engine.channelCapacity events p.engine.queue.length).length
  else 0

/-- How many events `ingestSingle` puts into the queue. -/
def Process.acceptsSingle (p : Process) (env : Env) (event : JsValue) : Nat :=
  match invalid event with
  | .ok false =>
    if p.core.affords env.clock 1 && !p.engine.channelCapacity.le (.ofNat p.engine.queue.length)
    then 1 else 0
  | .ok true | .error _ => 0

/-- How many events the callback of a task puts into the queue. -/
def Process.acceptsTick (p : Process) (env : Env) : Task → Nat
  | .loadTest eventsPerTick =>
    if p.engine.loadTestActive then
      match loadTestCount env p.engine eventsPerTick with
      | some count => p.acceptsBatch env ((List.range count).map (mockEvent env))
      | none => 0
    else 0
  | .workers | .release | .flush | .metrics | .reset => 0

/-- How many events an action puts into the queue. -/
def Process.accepts (p : Process) : Act → Nat
  | .request env (.ingestSingle event) => p.acceptsSingle env event
  | .request env (.ingestBatch events) => p.acceptsBatch env events
  | .request _ .getMetrics | .request _ (.startLoadTest _ _) | .request _ .stopLoadTest
  | .request _ (.updateConfig _) | .request _ .simulateGracefulShutdown => 0
  | .fire env id =>
    match p.loop.find id with
    | some timer => p.acceptsTick env timer.task
    | none => 0

/-- The action does not end a shutdown. -/
def Window (p : Process) (action : Act) : Prop :=
  ∀ timer ∈ p.loop.timers, timer.task = .reset → action.fires timer.id = false

/-! ### Why an action accepts nothing -/

/-- The limiter refuses the batch or throws, the batch is empty or its first element is no object,
or the queue has no room. -/
def Process.RefusesBatch (p : Process) (env : Env) (events : List JsValue) : Prop :=
  p.core.affords env.clock (batchCost events.length) = false ∨
    (∀ event ∈ events.head?, ∃ thrown, event.asObject = .error thrown) ∨
    (JsNum.ofNat p.engine.queue.length).lt p.engine.channelCapacity = false

/-- The limiter refuses the event or throws, the event is invalid or no object, or the queue has no
room. -/
def Process.RefusesSingle (p : Process) (env : Env) (event : JsValue) : Prop :=
  p.core.affords env.clock 1 = false ∨ invalid event ≠ .ok false ∨
    p.engine.channelCapacity.le (.ofNat p.engine.queue.length) = true

/-- The task ingests nothing: it is no tick of a load test, the load test has ended, no array can
hold its batch, or the batch is refused. -/
def Process.RefusesTick (p : Process) (env : Env) : Task → Prop
  | .loadTest eventsPerTick => p.engine.loadTestActive = true →
    ∀ count, loadTestCount env p.engine eventsPerTick = some count →
      p.RefusesBatch env ((List.range count).map (mockEvent env))
  | .workers | .release | .flush | .metrics | .reset => True

/-- The action ingests nothing, for one of these reasons. -/
def Process.Refuses (p : Process) : Act → Prop
  | .request env (.ingestSingle event) => p.RefusesSingle env event
  | .request env (.ingestBatch events) => p.RefusesBatch env events
  | .request _ .getMetrics | .request _ (.startLoadTest _ _) | .request _ .stopLoadTest
  | .request _ (.updateConfig _) | .request _ .simulateGracefulShutdown => True
  | .fire env id => ∀ timer ∈ p.loop.find id, p.RefusesTick env timer.task

/-- Nothing fits exactly when there is no object to begin with, or no room. -/
theorem fitting_eq_nil {capacity : JsNum} {events : List JsValue} {length : Nat} :
    fitting capacity events length = [] ↔
      (∀ event ∈ events.head?, ∃ thrown, event.asObject = .error thrown) ∨
        (JsNum.ofNat length).lt capacity = false := by
  induction events with
  | nil => simp [fitting]
  | cons event rest ih =>
    rw [fitting, List.head?_cons]
    cases read : event.asObject with
    | error thrown => simp [read]
    | ok ev =>
      cases room : (JsNum.ofNat length).lt capacity with
      | true => simp [read]
      | false =>
        rw [room] at ih
        simp [ih]

variable {p : Process}

/-- A batch accepts nothing exactly when it is refused. -/
theorem refusesBatch_iff (env : Env) (events : List JsValue) :
    p.RefusesBatch env events ↔ p.acceptsBatch env events = 0 := by
  unfold Process.RefusesBatch Process.acceptsBatch
  rw [← fitting_eq_nil]
  cases p.core.affords env.clock (batchCost events.length) <;> simp

/-- So does an event. -/
theorem refusesSingle_iff (env : Env) (event : JsValue) :
    p.RefusesSingle env event ↔ p.acceptsSingle env event = 0 := by
  unfold Process.RefusesSingle Process.acceptsSingle
  cases invalid event with
  | error thrown => simp
  | ok rejected =>
    cases rejected with
    | true => simp
    | false =>
      cases p.core.affords env.clock 1 <;>
        cases p.engine.channelCapacity.le (.ofNat p.engine.queue.length) <;> simp

/-- So does the callback of a task. -/
theorem refusesTick_iff (env : Env) (task : Task) :
    p.RefusesTick env task ↔ p.acceptsTick env task = 0 := by
  cases task with
  | workers | release | flush | metrics | reset => exact iff_of_true trivial rfl
  | loadTest eventsPerTick =>
    simp only [Process.RefusesTick, Process.acceptsTick, refusesBatch_iff]
    cases p.engine.loadTestActive with
    | false => simp
    | true => cases loadTestCount env p.engine eventsPerTick <;> simp

/-- An action accepts nothing exactly for one of these reasons. -/
theorem refuses_iff (p : Process) (action : Act) : p.Refuses action ↔ p.accepts action = 0 := by
  cases action with
  | request env request =>
    cases request with
    | ingestSingle event => exact refusesSingle_iff env event
    | ingestBatch events => exact refusesBatch_iff env events
    | getMetrics | startLoadTest | stopLoadTest | updateConfig | simulateGracefulShutdown =>
      exact iff_of_true trivial rfl
  | fire env id =>
    simp only [Process.Refuses, Process.accepts, refusesTick_iff]
    cases found : p.loop.find id with
    | none => simp
    | some timer => simp

/-- The action does not end a shutdown, and it ingests nothing. -/
def Closed (p : Process) (action : Act) : Prop := Window p action ∧ p.Refuses action

instance (p : Process) (action : Act) : Decidable (Window p action) :=
  inferInstanceAs (Decidable (∀ timer ∈ p.loop.timers, timer.task = .reset →
    action.fires timer.id = false))

instance (p : Process) (action : Act) : Decidable (p.Refuses action) :=
  decidable_of_iff _ (refuses_iff p action).symm

instance (p : Process) (action : Act) : Decidable (Closed p action) :=
  inferInstanceAs (Decidable (Window p action ∧ p.Refuses action))

/-- The process is shutting down, and nothing has come in since a state. -/
structure Gated (since p : Process) : Prop where
  /-- The flag is set. -/
  down : p.engine.isShuttingDown = true
  /-- The queue is empty. -/
  queue : p.engine.queue = []
  /-- The buffer is empty. -/
  buffer : p.engine.batchBuffer = []
  /-- No event has been accepted. -/
  accepted : p.engine.totalAccepted = since.engine.totalAccepted

/-- The process has just returned from a shutdown. -/
def ShutDown (start : Env) (q : Process) : Prop :=
  ∃ seen p env out report, system.AnyRun (.start start) seen p ∧
    step p (.request env .simulateGracefulShutdown) = some (q, out) ∧
    .shutdown env.clock report ∈ out

section Accepts

variable (env : Env)

/-- The loop of `ingestBatch` accepts what fits. -/
theorem ingestEvents_accepts (events : List JsValue) (index accepted dropped : Nat) (p : Process) :
    ((ingestEvents env events index accepted dropped).run p).state.engine.totalAccepted =
      p.engine.totalAccepted +
        (fitting p.engine.channelCapacity events p.engine.queue.length).length := by
  induction events generalizing index accepted dropped p with
  | nil => rfl
  | cons event rest ih =>
    rw [ingestEvents, fitting]
    cases read : event.asObject with
    | error thrown => rfl
    | ok ev =>
      simp only [run_bind, run_lift, run_engine, andThen_ok, after_state]
      by_cases room : (JsNum.ofNat p.engine.queue.length).lt p.engine.channelCapacity = true
      · simp only [if_pos room, run_bind, run_update, run_emit, andThen_ok, after_state]
        refine (ih _ _ _ _).trans ?_
        rw [List.length_append, List.length_singleton, List.length_cons]
        exact Nat.add_right_comm _ 1 _
      · simp only [if_neg room, run_bind, run_update, andThen_ok, after_state]
        exact ih _ _ _ _

/-- `ingestBatch` accepts what fits if the limiter admits it. -/
theorem ingestBatch_accepts (events : List JsValue) (p : Process) :
    ((ingestBatch env events).run p).state.engine.totalAccepted =
      p.engine.totalAccepted + p.acceptsBatch env events := by
  unfold Process.acceptsBatch
  cases affords : p.core.affords env.clock (batchCost events.length) with
  | false =>
    have kept := (batch_short env p events affords).1
    exact congrArg (fun tally => tally.2.1) kept
  | true =>
    obtain ⟨q, same, capacity, tally, _⟩ := batch_admitted env p events affords
    have left : ((ingestBatch env events).run p).state.engine.totalAccepted =
        ((ingestEvents env events 0 0 0).run q).state.engine.totalAccepted :=
      congrArg (fun tally => tally.2.1) tally
    have queue : q.engine.queue = p.engine.queue := congrArg Prod.fst same
    have total : q.engine.totalAccepted = p.engine.totalAccepted :=
      congrArg (fun tally => tally.2.1) same
    rw [left, ingestEvents_accepts, capacity, queue, total, if_pos rfl]

/-- `ingestSingle` accepts a valid event that the limiter admits and that finds room. -/
theorem ingestSingle_accepts (event : JsValue) (p : Process) :
    ((ingestSingle env event).run p).state.engine.totalAccepted =
      p.engine.totalAccepted + p.acceptsSingle env event := by
  unfold Process.acceptsSingle
  cases affords : p.core.affords env.clock 1 with
  | false =>
    have kept := single_short env p event affords
    have none : (match invalid event with
        | .ok false => if false && !p.engine.channelCapacity.le (.ofNat p.engine.queue.length)
            then 1 else 0
        | .ok true | .error _ => 0) = 0 := by
      split <;> rfl
    rw [none, Nat.add_zero]
    exact congrArg (fun tally => tally.2.1) kept
  | true =>
    obtain ⟨q, same, capacity, left, _⟩ := single_admitted env p event affords
    have queue : q.engine.queue = p.engine.queue := congrArg Prod.fst same
    have total : q.engine.totalAccepted = p.engine.totalAccepted :=
      congrArg (fun tally => tally.2.1) same
    rw [left]
    cases valid : invalid event with
    | error thrown =>
      rw [decided_invalid (by simp [valid])]
      exact total
    | ok rejected =>
      cases rejected with
      | true =>
        rw [decided_invalid (by simp [valid])]
        exact total
      | false =>
        obtain ⟨ev, read, _⟩ := valid_object valid
        rw [← queue, ← capacity, ← total]
        cases full : q.engine.channelCapacity.le (.ofNat q.engine.queue.length) with
        | true => exact congrArg (fun tally => tally.2.1) (decided_full valid read full).1
        | false =>
          have room : ¬ q.engine.channelCapacity.le (.ofNat q.engine.queue.length) = true := by
            simp [full]
          exact congrArg (fun tally => tally.2.1) (decided_fits valid read room).1

/-- A tick of the load test accepts what its batch accepts. -/
theorem loadTestTick_accepts (eventsPerTick : JsNum) (p : Process) :
    ((loadTestTick env eventsPerTick).run p).state.engine.totalAccepted =
      p.engine.totalAccepted + p.acceptsTick env (.loadTest eventsPerTick) := by
  cases active : p.engine.loadTestActive with
  | false =>
    rw [run_loadTestTick_idle env p eventsPerTick active, Process.acceptsTick, active]
    rfl
  | true =>
    rw [Process.acceptsTick, if_pos active]
    cases ticks : loadTestCount env p.engine eventsPerTick with
    | none =>
      rw [run_loadTestTick_overflows env active ticks]
      rfl
    | some count =>
      rw [run_loadTestTick_fits env active ticks, run_bind_state fun _ _ => rfl]
      exact ingestBatch_accepts env _ p

end Accepts

/-! ### What a step accepts -/

section Steps

variable {p after : Process} {action : Act} {out : List Obs}

/-- A change accepts no event unless it pushes one, and it flushes no event again. -/
theorem change_accepted {c next : Core} {change : Change} {shown : List Obs}
    (stepped : c.step change = some (next, shown)) :
    ((∀ clock event, change ≠ .push clock event) → next.totalAccepted = c.totalAccepted) ∧
      c.totalAccepted ≤ next.totalAccepted ∧ c.totalEventsFlushed ≤ next.totalEventsFlushed := by
  cases core_cases stepped with
  | @push clock event =>
    exact ⟨fun other => absurd rfl (other clock event), Nat.le_succ _, le_refl _⟩
  | flush => exact ⟨fun _ => rfl, le_refl _, Nat.le_add_right _ _⟩
  | touch | refill | spend | refuse | refuseBatch | drop | move | drain | setRps | setBurst
  | capTokens | finish => exact ⟨fun _ => rfl, le_refl _, le_refl _⟩

/-- A step that pushes no event makes other changes only. -/
theorem run_pushless (stepped : step p action = some (after, out))
    (pushless : ∀ clock event, ¬ (Change.push clock event).Made p action) :
    coreSystem.Run (fun _ change => ∀ clock event, change ≠ .push clock event) p.core
      (out.flatMap Obs.core) after.core := by
  obtain ⟨changes, executed, makes⟩ := step_makes stepped
  have others : ∀ change ∈ changes, ∀ clock event, change ≠ .push clock event := by
    rintro change member clock event rfl
    exact pushless clock event (makes.made _ member)
  exact System.exec_permitted executed others

/-- A step that pushes no event accepts none. -/
theorem step_pushless (stepped : step p action = some (after, out))
    (pushless : ∀ clock event, ¬ (Change.push clock event).Made p action) :
    after.engine.totalAccepted = p.engine.totalAccepted := by
  have run := run_pushless stepped pushless
  exact run.state_invariant (fun c => c.totalAccepted = p.engine.totalAccepted) rfl
    fun _ _ _ _ held other stepped => ((change_accepted stepped).1 other).trans held

/-- The callback of a timer pushes no event unless a load test is active. -/
theorem pushless_fire {env : Env} {timer : Timer Task} (live : timer ∈ p.loop.timers)
    (other : ∀ eventsPerTick, timer.task = .loadTest eventsPerTick →
      p.engine.loadTestActive = false) (clock : Int) (event : TelemetryEvent) :
    ¬ (Change.push clock event).Made p (.fire env timer.id) := by
  intro made
  generalize same : Act.fire env timer.id = action at made
  cases made with
  | still quiet => contradiction
  | single | batch => contradiction
  | loadTest found task active affords member =>
    obtain ⟨_, named⟩ := Act.fire.inj same
    obtain rfl := EventLoop.eq_of_id live found named
    rw [other _ task] at active
    contradiction

/-- Each step accepts the events that its action accepts. -/
theorem step_accepts (stepped : step p action = some (after, out)) :
    after.engine.totalAccepted = p.engine.totalAccepted + p.accepts action := by
  let accepted (count : Nat) (q : Process) : Prop :=
    q.engine.totalAccepted = p.engine.totalAccepted + count
  cases step_cases stepped with
  | @request env request alive =>
    cases request with
    | ingestSingle event =>
      rw [respond_state]
      have own : accepted (p.acceptsSingle env event)
          ((ingestSingle env event).run (p.begin env)).state := ingestSingle_accepts env event _
      have whole : accepted (p.acceptsSingle env event)
          (((Request.ingestSingle event).call env).run (p.begin env)).state :=
        leaves_bind own fun _ => keeps_emit _
      exact whole
    | ingestBatch events =>
      rw [respond_state]
      have own : accepted (p.acceptsBatch env events)
          ((ingestBatch env events).run (p.begin env)).state := ingestBatch_accepts env events _
      have whole : accepted (p.acceptsBatch env events)
          (((Request.ingestBatch events).call env).run (p.begin env)).state :=
        leaves_bind own fun _ => keeps_emit _
      exact whole
    | getMetrics | startLoadTest | stopLoadTest | updateConfig | simulateGracefulShutdown =>
      apply step_pushless stepped
      intro clock event made
      cases made with
      | still quiet => contradiction
  | @fire env timer alive live =>
    have found : p.accepts (.fire env timer.id) = p.acceptsTick env timer.task := by
      simp only [Process.accepts, EventLoop.find_id live]
    rw [found]
    by_cases loads : ∃ eventsPerTick, timer.task = .loadTest eventsPerTick
    · obtain ⟨eventsPerTick, task⟩ := loads
      rw [(finish_state _).2, task]
      exact loadTestTick_accepts env eventsPerTick (p.fired env timer)
    · have none : p.acceptsTick env timer.task = 0 := by
        cases task : timer.task with
        | workers | release | flush | metrics | reset => rfl
        | loadTest eventsPerTick => exact absurd ⟨_, task⟩ loads
      rw [none]
      apply step_pushless stepped
      exact pushless_fire live fun eventsPerTick task => absurd ⟨_, task⟩ loads

end Steps

/-! ### What comes in after a shutdown -/

section Runs

variable {start : Env} {q : Process}

/-- What was accepted has been flushed or is held. -/
theorem run_held {seen : List Obs} {p : Process} (run : system.AnyRun (.start start) seen p) :
    p.engine.totalEventsFlushed + p.engine.batchBuffer.length + p.engine.queue.length =
      p.engine.totalAccepted := by
  obtain ⟨fifo, accepted, flushed, _⟩ := run_conserves run
  have lengths := congrArg List.length fifo
  rw [List.length_append, List.length_append] at lengths
  simp only [Engine.core] at lengths accepted flushed
  omega

/-- The counters only grow. -/
theorem run_grows {guard : Process → Act → Prop} {later : List Obs} {r : Process}
    (run : system.Run guard q later r) :
    q.engine.totalAccepted ≤ r.engine.totalAccepted ∧
      q.engine.totalEventsFlushed ≤ r.engine.totalEventsFlushed := by
  have refined := run_core (fun _ => True) (fun _ _ _ _ _ _ _ => trivial) run
  refine refined.state_invariant (fun c => q.engine.totalAccepted ≤ c.totalAccepted ∧
    q.engine.totalEventsFlushed ≤ c.totalEventsFlushed) ⟨le_refl _, le_refl _⟩ ?_
  intro c change next shown held _ stepped
  have grown := (change_accepted stepped).2
  exact ⟨le_trans held.1 grown.1, le_trans held.2 grown.2⟩

/-- A shutdown that returns leaves the queue and the buffer empty and the flag set. -/
theorem shutDown_gated (shut : ShutDown start q) :
    Gated q q ∧ q.TimersSound ∧ ∃ seen, system.AnyRun (.start start) seen q := by
  obtain ⟨seen, p, env, out, report, run, stepped, returned⟩ := shut
  obtain ⟨_, called, _, fits⟩ := shutdown_returned stepped returned
  obtain ⟨rfl, _⟩ := Act.request.inj called
  have sound := run_sound start run
  have waits := shutdown_waits sound stepped (fun _ (absurd : False) => absurd.elim)
  obtain ⟨r, shown, value, ran, queue, buffer⟩ := run_shutdown_fits (p := p.begin env) fits
  have left : q = r := by
    cases step_cases stepped with
    | request alive =>
      rw [respond_state, Request.call, run_bind, ran]
      rfl
  subst left
  have moved : system.step p (.request env .simulateGracefulShutdown) = some (q, out) := stepped
  exact ⟨⟨waits.down, queue, buffer, rfl⟩, waits.sound, _, run.next trivial moved⟩

/-- A step inside the window leaves the flag set. -/
theorem window_down {p after : Process} {action : Act} {out : List Obs} (sound : p.TimersSound)
    (down : p.engine.isShuttingDown = true) (window : Window p action)
    (stepped : step p action = some (after, out)) : after.engine.isShuttingDown = true := by
  by_cases calls : ∃ env, action = .request env .simulateGracefulShutdown
  · obtain ⟨env, rfl⟩ := calls
    exact (shutdown_waits sound stepped (fun _ (absurd : False) => absurd.elim)).down
  · have fires : ∀ env, ∀ timer ∈ p.loop.timers, timer.task = .reset →
        action ≠ .fire env timer.id := by
      rintro env timer live ends rfl
      have quiet := window timer live ends
      simp [Act.fires] at quiet
    have waits := other_waits sound stepped (fun env same => calls ⟨env, same⟩) fires
      (fun _ (absurd : False) => absurd.elim)
    exact waits.down.trans down

/-- As long as nothing is accepted in the window, the process stays gated. -/
theorem run_gated (shut : ShutDown start q) {later : List Obs} {r : Process}
    (run : system.Run Closed q later r) : Gated q r := by
  obtain ⟨gated, sound, seen, reached⟩ := shutDown_gated shut
  have kept : r.TimersSound ∧ r.engine.isShuttingDown = true ∧
      r.engine.totalAccepted = q.engine.totalAccepted := by
    refine run.state_invariant (fun r => r.TimersSound ∧ r.engine.isShuttingDown = true ∧
      r.engine.totalAccepted = q.engine.totalAccepted) ⟨sound, gated.down, rfl⟩ ?_
    rintro p action after out ⟨sound, down, same⟩ ⟨window, refuses⟩ stepped
    have accepts := step_accepts stepped
    rw [(refuses_iff p action).mp refuses, Nat.add_zero] at accepts
    exact ⟨step_sound sound stepped, window_down sound down window stepped, accepts.trans same⟩
  -- Nothing came in, so what was flushed by then is still all that was accepted.
  have before := run_held reached
  have after := run_held (reached.append run.any)
  have grown := (run_grows run).2
  rw [gated.queue, gated.buffer, List.length_nil] at before
  have queue : r.engine.queue.length = 0 := by omega
  have buffer : r.engine.batchBuffer.length = 0 := by omega
  exact ⟨kept.2.1, List.eq_nil_of_length_eq_zero queue, List.eq_nil_of_length_eq_zero buffer,
    kept.2.2⟩

/-- Between a shutdown that returns and the reset of its flag, nothing comes in as long as no call
and no tick would have accepted an event anyway. From the first that would have, `totalAccepted`
is no longer what it was. -/
theorem shutdown_gate (shut : ShutDown start q) :
    (∀ later r, system.Run Closed q later r → Gated q r) ∧
      ∀ later r action after out rest s, system.Run Closed q later r → Window r action →
        ¬ Closed r action → step r action = some (after, out) → system.AnyRun after rest s →
        q.engine.totalAccepted < s.engine.totalAccepted ∧ ¬ Gated q s := by
  refine ⟨fun later r run => run_gated shut run, ?_⟩
  intro later r action after out rest s run window opened stepped goes
  have same := (run_gated shut run).accepted
  have accepts := step_accepts stepped
  have some : r.accepts action ≠ 0 := fun none => opened ⟨window, (refuses_iff r action).mpr none⟩
  have grown := (run_grows goes).1
  have more : q.engine.totalAccepted < s.engine.totalAccepted := by omega
  exact ⟨more, fun gated => absurd gated.accepted (Nat.ne_of_gt more)⟩

/-- A shutdown of a live process whose queue fits a spread call returns. -/
theorem shutDown_fits {seen : List Obs} {p : Process} (env : Env)
    (run : system.AnyRun (.start start) seen p) (alive : p.crashed = false)
    (fits : p.engine.queue.length ≤ env.spreadLimit) : ShutDown start
      ((Request.simulateGracefulShutdown.call env).run (p.begin env)).state := by
  have stepped : step p (.request env .simulateGracefulShutdown) = some (_, _) :=
    step_request_state alive
  obtain ⟨report, returned⟩ := shutdown_returns stepped fits
  exact ⟨seen, p, env, _, report, run, stepped, returned⟩

/-- A process that was shut down before anything else. -/
def Process.halted (start env : Env) : Process :=
  ((Request.simulateGracefulShutdown.call env).run ((Process.start start).begin env)).state

/-- After a shutdown an event without a message comes, then a load test whose tick builds no event,
and a tick of the workers. -/
theorem shutdown_gate_closed :
    ∃ q later r, ShutDown (.calm 0) q ∧ system.Run Closed q later r ∧
      r.engine.loadTestActive = true ∧ r.loop.time = 150 ∧ Gated q r := by
  have shut : ShutDown (.calm 0) (.halted (.calm 0) (.calm 100)) :=
    shutDown_fits (.calm 100) .start rfl (Nat.zero_le _)
  obtain ⟨later, r, run, passed⟩ := System.exec_witness system Closed
    (.halted (.calm 0) (.calm 100))
    [.request (.calm 110) (.ingestSingle (.obj [("service", .str "auth-svc")])),
      .request (.calm 120) (.startLoadTest 0 "steady"), .fire (.calm 145) 4, .fire (.calm 150) 0]
    (fun (r, _) => r.engine.loadTestActive && r.loop.time = 150)
    (by decide +kernel)
  simp only [Bool.and_eq_true, decide_eq_true_eq] at passed
  exact ⟨_, later, r, shut, run, passed.1, passed.2, (shutdown_gate shut).1 later r run⟩

/-- A second after the shutdown an event is accepted into the queue, while the flag is still set. -/
theorem shutdown_gate_open :
    ∃ q later r, ShutDown (.calm 0) q ∧ system.Run Window q later r ∧
      r.engine.isShuttingDown = true ∧ r.engine.queue.length = 1 ∧ ¬ Gated q r := by
  have shut : ShutDown (.calm 0) (.halted (.calm 0) (.calm 100)) :=
    shutDown_fits (.calm 100) .start rfl (Nat.zero_le _)
  obtain ⟨later, r, run, passed⟩ := System.exec_witness system Window
    (.halted (.calm 0) (.calm 100))
    [.request (.calm 1100) (.ingestSingle plainEvent)]
    (fun (r, _) => r.engine.isShuttingDown && r.engine.queue.length = 1)
    (by decide +kernel)
  simp only [Bool.and_eq_true, decide_eq_true_eq] at passed
  refine ⟨_, later, r, shut, run, passed.1, passed.2, fun gated => ?_⟩
  have queued := passed.2
  rw [gated.queue] at queued
  contradiction

end Runs

end IngestionEngine.Server
