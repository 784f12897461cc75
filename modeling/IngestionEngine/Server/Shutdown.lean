import IngestionEngine.Server.Clock
import IngestionEngine.Server.Validation

/-!
# The window of a simulated shutdown

A call of `simulateGracefulShutdown` sets `isShuttingDown` and a timeout that ends it 2000 ms later.
Nothing clears the timeout of an earlier call, so that one ends the later shutdown too. As long
as no call finds such a timeout pending, the flag is set for 2000 ms after each of them.
-/

namespace IngestionEngine.Server

open Systems Program

/-- The action is the firing of a timer. -/
def Act.fires : Act → Nat → Bool
  | .fire _ fired, id => fired = id
  | .request _ _, _ => false

/-- The clock does not go back, and a timeout fires when it is due: nothing happens after that as
long as it is pending, and it does not fire before. -/
def Timely (p : Process) (action : Act) : Prop :=
  Onward p action ∧ ∀ timer ∈ p.loop.timers, timer.period = none →
    action.clock ≤ timer.due ∧ (action.fires timer.id = true → timer.due ≤ action.clock)

/-- A call of `simulateGracefulShutdown` that returns finds no end of a shutdown pending that is
due within 2000 ms. -/
def Spaced (p : Process) : Act → Prop
  | .request env .simulateGracefulShutdown =>
    p.engine.queue.length ≤ env.spreadLimit →
      ∀ timer ∈ p.loop.timers, timer.task = .reset → env.clock + 2000 ≤ timer.due
  | _ => True

/-- A timely action that keeps shutdowns apart. -/
def SpacedShutdowns (p : Process) (action : Act) : Prop := Timely p action ∧ Spaced p action

instance (p : Process) (action : Act) : Decidable (Timely p action) :=
  inferInstanceAs (Decidable (Onward p action ∧ ∀ timer ∈ p.loop.timers, timer.period = none →
    action.clock ≤ timer.due ∧ (action.fires timer.id = true → timer.due ≤ action.clock)))

instance (p : Process) (action : Act) : Decidable (Spaced p action) :=
  match action with
  | .request env .simulateGracefulShutdown =>
    inferInstanceAs (Decidable (p.engine.queue.length ≤ env.spreadLimit →
      ∀ timer ∈ p.loop.timers, timer.task = .reset → env.clock + 2000 ≤ timer.due))
  | .request _ (.ingestSingle _) | .request _ (.ingestBatch _) | .request _ .getMetrics
  | .request _ (.startLoadTest _ _) | .request _ .stopLoadTest | .request _ (.updateConfig _)
  | .fire _ _ => inferInstanceAs (Decidable True)

instance (p : Process) (action : Act) : Decidable (SpacedShutdowns p action) :=
  inferInstanceAs (Decidable (Timely p action ∧ Spaced p action))

/-- Events that a tick of the workers moves after a shutdown has returned are moved no sooner than
2000 ms later. -/
def Obs.Apart : Obs → Obs → Prop
  | .shutdown start _, .moved clock _ => start + 2000 ≤ clock
  | _, _ => True

/-- For 2000 ms after a shutdown has returned, `isShuttingDown` is set and no tick moves events. -/
structure Halted (seen : List Obs) (p : Process) : Prop where
  /-- The flag is set. -/
  flag : ∀ start report, .shutdown start report ∈ seen → p.loop.time < start + 2000 →
    p.engine.isShuttingDown = true
  /-- No events are moved. -/
  moves : seen.Pairwise Obs.Apart

/-! ### The timers that end a shutdown -/

/-- Certain ends of a shutdown are pending, and the others are among those that are allowed. -/
structure Resets (kept allowed : Timer Task → Prop) (loop : EventLoop Task) : Prop where
  /-- What is pending. -/
  pending : ∀ timer, kept timer → timer ∈ loop.timers ∧ timer.task = .reset
  /-- What may be pending. -/
  others : ∀ timer ∈ loop.timers, timer.task = .reset → allowed timer

namespace Resets

variable {kept allowed : Timer Task → Prop} {loop : EventLoop Task}

/-- A timer may be set that is allowed if it is the end of a shutdown. -/
theorem set_allowed (resets : Resets kept allowed loop) (task : Task) (delay : Int)
    (period : Option Int)
    (permitted : task = .reset → allowed ⟨loop.nextId, task, loop.time + delay, period⟩) :
    Resets kept allowed (loop.set task delay period) := by
  constructor
  · intro timer pending
    obtain ⟨member, ends⟩ := resets.pending timer pending
    exact ⟨EventLoop.mem_set.mpr (.inl member), ends⟩
  · intro timer member ends
    rcases EventLoop.mem_set.mp member with old | rfl
    · exact resets.others timer old ends
    · exact permitted ends

/-- A timer with another task may be set. -/
theorem set (resets : Resets kept allowed loop) (task : Task) (other : task ≠ .reset)
    (delay : Int) (period : Option Int) : Resets kept allowed (loop.set task delay period) :=
  resets.set_allowed task delay period fun ends => absurd ends other

/-- The end of a shutdown may be set when it is allowed. -/
theorem set_reset (resets : Resets kept allowed loop) (delay : Int)
    (permits : ∀ timer, timer.due = loop.time + delay → allowed timer) :
    Resets kept allowed (loop.set .reset delay none) :=
  resets.set_allowed .reset delay none fun _ => permits _ rfl

/-- A handle whose timer runs another task may be cleared. -/
theorem clear (resets : Resets kept allowed loop) (handle : Option Nat)
    (other : ∀ id, handle = some id → ∃ task, loop.Runs id task ∧ task ≠ .reset) :
    Resets kept allowed (loop.clear handle) := by
  constructor
  · intro timer pending
    obtain ⟨member, ends⟩ := resets.pending timer pending
    refine ⟨EventLoop.mem_clear.mpr ⟨member, fun same => ?_⟩, ends⟩
    obtain ⟨task, runs, different⟩ := other timer.id same
    have ended : loop.Runs timer.id .reset := ⟨timer, member, rfl, ends⟩
    exact different (runs.unique ended)
  · exact fun timer member => resets.others timer (EventLoop.mem_clear.mp member).1

/-- A timer that is not kept may fire. -/
theorem fire (resets : Resets kept allowed loop)
    (periods : loop.All fun task period => period = task.period) {timer : Timer Task}
    (live : timer ∈ loop.timers) (other : ∀ reset, kept reset → reset.id ≠ timer.id) :
    Resets kept allowed (loop.fire timer) := by
  constructor
  · intro reset pending
    obtain ⟨member, ends⟩ := resets.pending reset pending
    exact ⟨EventLoop.mem_fire member (other reset pending), ends⟩
  · intro reset member ends
    rcases EventLoop.of_mem_fire member with old | ⟨interval, old, inside, same, task⟩
    · exact resets.others reset old ends
    · -- An interval is due again, and no interval ends a shutdown.
      obtain rfl := EventLoop.eq_of_id inside live same
      have period := periods old inside
      rw [← task, ends] at period
      exact absurd period interval

end Resets

/-- The timers are sound, the time and `isShuttingDown` are as given, and so are the ends of the
shutdowns. -/
structure Waits (time : Int) (flag : Bool) (kept allowed : Timer Task → Prop) (p : Process) :
    Prop where
  /-- The timers are sound. -/
  sound : p.TimersSound
  /-- The time. -/
  now : p.loop.time = time
  /-- `isShuttingDown` -/
  down : p.engine.isShuttingDown = flag
  /-- The ends. -/
  resets : Resets kept allowed p.loop

section Steps

variable {time : Int} {flag : Bool} {kept allowed : Timer Task → Prop}

/-- The ends of the shutdowns are not reached through the handles. -/
theorem waits_endures : Endures (Waits time flag kept allowed) where
  assigned := by
    intro p e same waits
    have down : e.isShuttingDown = p.engine.isShuttingDown :=
      congrArg (fun handles => handles.2.2.2) same
    exact ⟨sound_endures.assigned p e same waits.sound, waits.now, down.trans waits.down,
      waits.resets⟩
  restarted := by
    intro p waits
    have cleared := waits.resets.clear p.engine.flushIntervalId fun id same =>
      ⟨.flush, (waits.sound.flushing id).mpr same, by simp⟩
    have restarted := cleared.set .flush (by simp) 50 (some 50)
    exact ⟨sound_endures.restarted p waits.sound, waits.now, waits.down, restarted⟩
  stopped := by
    intro p waits
    have cleared := waits.resets.clear p.engine.loadTestTimer fun id same => by
      obtain ⟨eventsPerTick, runs⟩ := (waits.sound.loading id).mpr same
      exact ⟨.loadTest eventsPerTick, runs, by simp⟩
    exact ⟨sound_endures.stopped p waits.sound, waits.now, waits.down, cleared⟩
  started := by
    intro p eventsPerTick stopped waits
    have started := waits.resets.set (.loadTest eventsPerTick) (by simp) 25 (some 25)
    exact ⟨sound_endures.started p eventsPerTick stopped waits.sound, waits.now, waits.down,
      started⟩
  released := by
    intro p waits
    exact ⟨sound_endures.released p waits.sound, waits.now, waits.down,
      waits.resets.set .release (by simp) 8 none⟩

/-- What waits depends on the timers and the engine. -/
theorem Waits.congr {p q : Process} (waits : Waits time flag kept allowed p)
    (loop : q.loop = p.loop) (engine : q.engine = p.engine) : Waits time flag kept allowed q := by
  obtain ⟨sound, now, down, resets⟩ := waits
  unfold Process.TimersSound at sound
  rw [← loop, ← engine] at sound
  rw [← loop] at now resets
  rw [← engine] at down
  exact ⟨sound, now, down, resets⟩

variable {env : Env} {p after : Process} {out : List Obs}

/-- A timer that fires runs the callback of its task. -/
theorem fire_task {timer : Timer Task} {task : Task} (live : timer ∈ p.loop.timers)
    (same : timer.task = task) (stepped : step p (.fire env timer.id) = some (after, out)) :
    (after, out) = finish ((task.callback env).run (p.fired env timer)) := by
  subst same
  generalize named : Act.fire env timer.id = action at stepped
  cases step_cases stepped with
  | request alive => contradiction
  | @fire env' other alive found =>
    obtain ⟨rfl, same⟩ := Act.fire.inj named
    rw [EventLoop.eq_of_id live found same]

/-- A timer of the workers runs their tick. -/
theorem fire_workers {timer : Timer Task} (live : timer ∈ p.loop.timers)
    (same : timer.task = .workers) (stepped : step p (.fire env timer.id) = some (after, out)) :
    (after, out) = finish ((workerTick env).run (p.fired env timer)) := fire_task live same stepped

/-- A timer of the flushes runs theirs. -/
theorem fire_flush {timer : Timer Task} (live : timer ∈ p.loop.timers)
    (same : timer.task = .flush) (stepped : step p (.fire env timer.id) = some (after, out)) :
    (after, out) = finish ((flushTick env).run (p.fired env timer)) := fire_task live same stepped

/-- What waits when a timer fires. -/
theorem fired_waits (sound : p.TimersSound) {timer : Timer Task} (live : timer ∈ p.loop.timers)
    (pending : ∀ reset, kept reset →
      reset ∈ p.loop.timers ∧ reset.task = .reset ∧ reset.id ≠ timer.id) :
    Waits env.clock p.engine.isShuttingDown kept (· ∈ p.loop.timers) (p.fired env timer) := by
  have advanced : Resets kept (· ∈ p.loop.timers) (p.loop.advance env.clock) := by
    constructor
    · intro reset keeps
      obtain ⟨member, ends, _⟩ := pending reset keeps
      exact ⟨member, ends⟩
    · exact fun _ member _ => member
  have fired := advanced.fire sound.periods live fun reset keeps => (pending reset keeps).2.2
  exact ⟨(TimersSound.advance sound env.clock).fire live, fire_time _ timer, rfl, fired⟩

/-- A shutdown sets the flag, and leaves its end pending beside the others. -/
theorem shutdown_waits (sound : p.TimersSound)
    (stepped : step p (.request env .simulateGracefulShutdown) = some (after, out))
    (pending : ∀ reset, kept reset → reset ∈ p.loop.timers ∧ reset.task = .reset) :
    Waits env.clock true kept
      (fun timer => timer ∈ p.loop.timers ∨ timer.due = env.clock + 2000) after := by
  cases step_cases stepped with
  | request alive =>
    rw [respond_state]
    refine leaves_bind (waits_endures.shutdown env ?_ ?_) fun _ => keeps_emit _
    · intro q waits
      refine ⟨waits.sound.set_other .reset (by simp) (fun _ => by simp) 2000, waits.now,
        waits.down, waits.resets.set_reset 2000 fun timer due => .inr ?_⟩
      rw [due, waits.now]
    · exact ⟨TimersSound.advance sound env.clock, rfl, rfl, pending, fun _ member _ => .inl member⟩

/-- The end of a shutdown resets the flag. -/
theorem reset_waits (sound : p.TimersSound) {timer : Timer Task} (live : timer ∈ p.loop.timers)
    (ends : timer.task = .reset) (stepped : step p (.fire env timer.id) = some (after, out))
    (pending : ∀ reset, kept reset →
      reset ∈ p.loop.timers ∧ reset.task = .reset ∧ reset.id ≠ timer.id) :
    Waits env.clock false kept (· ∈ p.loop.timers) after := by
  have ran := fire_task live ends stepped
  obtain ⟨rfl, _⟩ := Prod.mk.inj ran
  have fired : Waits env.clock p.engine.isShuttingDown kept (· ∈ p.loop.timers)
      (p.fired env timer) := fired_waits sound live pending
  exact ⟨fired.sound, fired.now, rfl, fired.resets⟩

/-- Every other step leaves the flag alone. -/
theorem other_waits {action : Act} (sound : p.TimersSound)
    (stepped : step p action = some (after, out))
    (calls : ∀ env, action ≠ .request env .simulateGracefulShutdown)
    (fires : ∀ env, ∀ timer ∈ p.loop.timers, timer.task = .reset → action ≠ .fire env timer.id)
    (pending : ∀ reset, kept reset → reset ∈ p.loop.timers ∧ reset.task = .reset) :
    Waits action.clock p.engine.isShuttingDown kept (· ∈ p.loop.timers) after := by
  cases step_cases stepped with
  | @request env request alive =>
    rw [respond_state]
    apply waits_endures.request env request
    · rintro rfl
      exact calls env rfl
    · exact ⟨TimersSound.advance sound env.clock, rfl, rfl, pending, fun _ member _ => member⟩
  | @fire env timer alive live =>
    have other : timer.task ≠ .reset := fun ends => fires env timer live ends rfl
    have fired : Waits env.clock p.engine.isShuttingDown kept (· ∈ p.loop.timers)
        (p.fired env timer) := by
      apply fired_waits sound live
      intro reset keeps
      obtain ⟨member, ends⟩ := pending reset keeps
      refine ⟨member, ends, fun same => other ?_⟩
      rw [← EventLoop.eq_of_id member live same, ends]
    have ended := waits_endures.callback env timer.task other _ fired
    obtain ⟨loop, engine⟩ := finish_state ((timer.task.callback env).run (p.fired env timer))
    exact ended.congr loop engine

end Steps

/-! ### What is seen of shutdowns and moves -/

/-- Only a move shows that events were moved. -/
theorem shows_moved {change : Change} {clock : Int} {events : List TelemetryEvent}
    (shows : change.Shows (.moved clock events)) : ∃ count, change = .move clock count := by
  cases change with
  | touch | refill | refuseBatch | drop | setRps | setBurst | capTokens => exact shows.elim
  | spend | refuse | push => contradiction
  | move time count =>
    obtain ⟨moved, same⟩ := shows
    exact ⟨count, by rw [(Obs.moved.inj same).1]⟩
  | drain => obtain ⟨_, same⟩ := shows; contradiction
  | flush => obtain ⟨_, _, _, same⟩ := shows; contradiction
  | finish shown =>
    obtain ⟨rfl, ends⟩ := shows
    contradiction

/-- The change is a move or the end of a shutdown only if the action makes one. -/
def Change.Calls (p : Process) (action : Act) : Change → Prop
  | .move clock _ => ∃ env, ∃ timer ∈ p.loop.timers, timer.task = .workers ∧
      action = .fire env timer.id ∧ clock = env.clock
  | .finish (.shutdown clock _) => ∃ env,
      action = .request env .simulateGracefulShutdown ∧ clock = env.clock
  | _ => True

section Calls

variable {p : Process} {action : Act}

/-- A step makes what its action makes. -/
theorem Change.Made.calls {change : Change} (made : change.Made p action) :
    change.Calls p action := by
  cases made with
  | still quiet other =>
    cases change with
    | move => contradiction
    | finish shown =>
      cases shown with
      | shutdown clock report => exact absurd rfl (other clock report)
      | limited | pushed | moved | drained | flushed | logged | latency | single | batch | metrics
      | threw | crashed => trivial
    | touch | refill | spend | refuse | refuseBatch | push | drop | drain | flush | setRps
    | setBurst | capTokens => trivial
  | batch _ member | loadTest _ _ _ _ member =>
    exact batchChanges_each (fun change => change.Calls p _) trivial (fun _ => trivial)
      _ _ _ _ _ member
  | move live task => exact ⟨_, _, live, task, rfl, rfl⟩
  | returned => exact ⟨_, rfl, rfl⟩
  | single | threshold | window | drain | last => trivial

/-- A step shows a move or the end of a shutdown only if its action makes one. -/
theorem step_shows {after : Process} {out : List Obs} (stepped : step p action = some (after, out))
    {obs : Obs} (member : obs ∈ out.flatMap Obs.core) :
    ∃ change : Change, change.Calls p action ∧ change.Shows obs := by
  obtain ⟨change, made, shows⟩ := step_made stepped member
  exact ⟨change, made.calls, shows⟩

end Calls

section Windows

variable {env : Env} {p after : Process} {action : Act} {seen out : List Obs} {start : Int}

/-- Events are moved only while `isShuttingDown` is not set, at the time of the step. -/
theorem moved_running (stepped : step p action = some (after, out)) {clock : Int}
    {events : List TelemetryEvent} (member : .moved clock events ∈ out) :
    p.engine.isShuttingDown = false ∧ clock = action.clock ∧
      ∀ env, action ≠ .request env .simulateGracefulShutdown := by
  obtain ⟨change, calls, shows⟩ := step_shows stepped
    (List.mem_flatMap.mpr ⟨_, member, List.mem_cons_self⟩)
  obtain ⟨count, rfl⟩ := shows_moved shows
  obtain ⟨env, timer, live, workers, rfl, rfl⟩ := calls
  refine ⟨Bool.eq_false_of_not_eq_true fun down => ?_, rfl, by simp⟩
  have ran := fire_workers live workers stepped
  have idle : ¬ (p.fired env timer).engine.Ticks := fun ticks => ticks.1 (.inl down)
  rw [run_workerTick_idle env idle] at ran
  obtain ⟨_, rfl⟩ := Prod.mk.inj ran
  contradiction

/-- A queue that is too long for a spread call makes the shutdown throw, after it has set the flag
and stopped the load test. -/
theorem run_shutdown_long (long : env.spreadLimit < p.engine.queue.length) :
    ∃ q first second, (simulateGracefulShutdown env).run p =
        ⟨q, [.logged first, .logged second], .error .rangeError⟩ ∧
      q.engine.isShuttingDown = true ∧ q.engine.core = p.engine.core ∧
      q.loop = p.loop.clear p.engine.loadTestTimer := by
  simp only [simulateGracefulShutdown, stopLoadTest, run_bind, run_update, run_engine,
    run_clearTimer, run_addLog, run_lift, andThen_ok, after_mk, if_pos long]
  exact ⟨_, _, _, rfl, rfl, rfl, rfl⟩

/-- A flush leaves the buffer empty, and the queue as it is. -/
theorem triggerFlush_empties (reason : FlushReason) :
    ((triggerFlush env reason).run p).state.engine.batchBuffer = [] ∧
      ((triggerFlush env reason).run p).state.engine.queue = p.engine.queue := by
  have queue : ((triggerFlush env reason).run p).state.engine.queue = p.engine.queue :=
    congrArg (fun q => q.engine.queue) (view_kept (keeps_triggerFlush env reason) p)
  refine ⟨?_, queue⟩
  by_cases empty : p.engine.batchBuffer.length = 0
  · simp only [triggerFlush, run_bind, run_engine, andThen_ok, if_pos empty]
    exact List.eq_nil_of_length_eq_zero empty
  · simp only [triggerFlush, run_bind, run_engine, andThen_ok, if_neg empty, run_update]
    split <;> simp only [run_bind, run_update, run_emit, run_addLog, andThen_ok, after_mk]

/-- Any other queue lets it return, with the queue and the buffer empty. -/
theorem run_shutdown_fits (fits : p.engine.queue.length ≤ env.spreadLimit) :
    ∃ q shown report, (simulateGracefulShutdown env).run p = ⟨q, shown, .ok report⟩ ∧
      q.engine.queue = [] ∧ q.engine.batchBuffer = [] := by
  simp only [simulateGracefulShutdown, stopLoadTest, run_bind, run_update, run_engine,
    run_clearTimer, run_addLog, run_lift, run_emit, andThen_ok, after_mk,
    if_neg (Nat.not_lt.mpr fits)]
  generalize flushed : (triggerFlush env .gracefulShutdown).run _ = outcome
  have returned : outcome.result = .ok () := by
    rw [← flushed]
    exact triggerFlush_returns env .gracefulShutdown _
  have empties : outcome.state.engine.batchBuffer = [] ∧ outcome.state.engine.queue = [] := by
    rw [← flushed]
    exact triggerFlush_empties .gracefulShutdown
  obtain ⟨q, shown, result⟩ := outcome
  obtain rfl : result = .ok () := returned
  simp only [andThen_ok, run_bind, run_addLog, run_setTimer, run_pure, after_mk]
  exact ⟨_, _, _, rfl, empties.2, empties.1⟩

/-- A shutdown is seen to return at the time of its call, with a queue that fits a spread call. -/
theorem shutdown_returned (stepped : step p action = some (after, out))
    {report : ShutdownReport} (member : .shutdown start report ∈ out) :
    ∃ env, action = .request env .simulateGracefulShutdown ∧ start = env.clock ∧
      p.engine.queue.length ≤ env.spreadLimit := by
  obtain ⟨change, calls, shows⟩ := step_shows stepped
    (List.mem_flatMap.mpr ⟨_, member, List.mem_cons_self⟩)
  obtain rfl := shows_ends rfl shows
  obtain ⟨env, rfl, rfl⟩ := calls
  refine ⟨env, rfl, rfl, Nat.not_lt.mp fun long => ?_⟩
  obtain ⟨q, first, second, ran, _⟩ := run_shutdown_long (p := p.begin env) long
  have called : (Request.simulateGracefulShutdown.call env).run (p.begin env) =
      ⟨q, [.logged first, .logged second], .error .rangeError⟩ := by
    rw [Request.call, run_bind, ran]
    rfl
  cases step_cases stepped with
  | request alive =>
    rw [called] at member
    simp [respond] at member

/-- A shutdown whose queue fits a spread call is seen to return. -/
theorem shutdown_returns
    (stepped : step p (.request env .simulateGracefulShutdown) = some (after, out))
    (fits : p.engine.queue.length ≤ env.spreadLimit) :
    ∃ report, .shutdown env.clock report ∈ out := by
  obtain ⟨q, shown, report, ran, _⟩ := run_shutdown_fits (p := p.begin env) fits
  have called : (Request.simulateGracefulShutdown.call env).run (p.begin env) =
      ⟨q, shown ++ [.shutdown env.clock report], .ok ()⟩ := by
    rw [Request.call, run_bind, ran]
    rfl
  cases step_cases stepped with
  | request alive =>
    rw [called]
    exact ⟨report, List.mem_append_right _ List.mem_cons_self⟩

/-- Within 2000 ms after a time a timely step leaves the flag set, or sets it, and leaves no end of
a shutdown that is due before these have passed. -/
theorem step_window (sound : p.TimersSound) (timely : Timely p action)
    (stepped : step p action = some (after, out)) (begun : start ≤ action.clock)
    (within : action.clock < start + 2000)
    (due : ∀ timer ∈ p.loop.timers, timer.task = .reset → start + 2000 ≤ timer.due)
    (down : p.engine.isShuttingDown = true ∨
      ∃ env, action = .request env .simulateGracefulShutdown) :
    after.engine.isShuttingDown = true ∧
      ∀ timer ∈ after.loop.timers, timer.task = .reset → start + 2000 ≤ timer.due := by
  have none : ∀ reset : Timer Task, False → reset ∈ p.loop.timers ∧ reset.task = .reset :=
    fun _ absurd => absurd.elim
  by_cases calls : ∃ env, action = .request env .simulateGracefulShutdown
  · obtain ⟨env, rfl⟩ := calls
    have waits := shutdown_waits sound stepped none
    refine ⟨waits.down, fun timer member ends => ?_⟩
    rcases waits.resets.others timer member ends with old | new
    · exact due timer old ends
    · rw [new]
      exact Int.add_le_add_right begun 2000
  · have fires : ∀ env, ∀ timer ∈ p.loop.timers, timer.task = .reset →
        action ≠ .fire env timer.id := by
      rintro env timer live ends rfl
      have once : timer.period = Option.none := by rw [sound.periods timer live, ends]; rfl
      have early := (timely.2 timer live once).2 (by simp [Act.fires])
      have late := due timer live ends
      omega
    have waits := other_waits sound stepped (fun env same => calls ⟨env, same⟩) fires none
    rw [waits.down]
    exact ⟨down.resolve_right calls, fun timer member ends =>
      due timer (waits.resets.others timer member ends) ends⟩

end Windows

/-! ### The windows over a run -/

/-- Two observations are apart if one is not the end of a shutdown and the other a move, or if they
are. -/
theorem apart_of {first second : Obs} (apart : ∀ start report clock events,
    first = .shutdown start report → second = .moved clock events → start + 2000 ≤ clock) :
    first.Apart second := by
  unfold Obs.Apart
  split
  · exact apart _ _ _ _ rfl rfl
  · trivial

/-- The windows of the shutdowns that have returned: none lies in the future, the process is halted
in them, and no end of a shutdown is due before one of them is over. -/
structure Windows (seen : List Obs) (p : Process) : Prop where
  /-- The timers are sound. -/
  sound : p.TimersSound
  /-- The shutdowns have returned before. -/
  past : ∀ start report, .shutdown start report ∈ seen → start ≤ p.loop.time
  /-- The process is halted. -/
  halted : Halted seen p
  /-- The ends. -/
  due : ∀ start report, .shutdown start report ∈ seen → p.loop.time < start + 2000 →
    ∀ timer ∈ p.loop.timers, timer.task = .reset → start + 2000 ≤ timer.due

/-- A timely step that keeps shutdowns apart keeps the windows. -/
theorem step_windows {p after : Process} {action : Act} {seen out : List Obs}
    (windows : Windows seen p) (permitted : SpacedShutdowns p action)
    (stepped : step p action = some (after, out)) : Windows (seen ++ out) after := by
  obtain ⟨timely, spaced⟩ := permitted
  have time := step_time stepped
  have onward : p.loop.time ≤ action.clock := timely.1
  have past : ∀ start report, .shutdown start report ∈ seen ++ out → start ≤ action.clock := by
    intro start report member
    rcases List.mem_append.mp member with old | new
    · exact le_trans (windows.past start report old) onward
    · obtain ⟨env, rfl, rfl, _⟩ := shutdown_returned stepped new
      exact le_refl env.clock
  -- The windows of the earlier shutdowns were open before the step, and a new one opens with it.
  have opened : ∀ start report, .shutdown start report ∈ seen ++ out →
      after.loop.time < start + 2000 → after.engine.isShuttingDown = true ∧
        ∀ timer ∈ after.loop.timers, timer.task = .reset → start + 2000 ≤ timer.due := by
    intro start report member within
    have begun := past start report member
    rw [time] at within
    rcases List.mem_append.mp member with old | new
    · have inside := lt_of_le_of_lt onward within
      exact step_window windows.sound timely stepped begun within
        (windows.due start report old inside) (.inl (windows.halted.flag start report old inside))
    · obtain ⟨env, rfl, rfl, fits⟩ := shutdown_returned stepped new
      exact step_window windows.sound timely stepped begun within (spaced fits) (.inr ⟨env, rfl⟩)
  have moves : (seen ++ out).Pairwise Obs.Apart := by
    refine List.pairwise_append.mpr ⟨windows.halted.moves, ?_, ?_⟩
    · refine List.pairwise_of_forall_mem_list fun first one second two => apart_of ?_
      rintro start report clock events rfl rfl
      obtain ⟨env, called, _⟩ := shutdown_returned stepped one
      exact absurd called ((moved_running stepped two).2.2 env)
    · intro first one second two
      apply apart_of
      rintro start report clock events rfl rfl
      obtain ⟨running, rfl, _⟩ := moved_running stepped two
      by_contra early
      have down := windows.halted.flag start report one
        (lt_of_le_of_lt onward (not_le.mp early))
      rw [running] at down
      contradiction
  rw [← time] at past
  exact ⟨step_sound windows.sound stepped, past,
    ⟨fun start report member within => (opened start report member within).1, moves⟩,
    fun start report member within => (opened start report member within).2⟩

/-- In a timely run whose shutdowns are apart the process is halted in every window. -/
theorem run_halted {env : Env} {seen : List Obs} {p : Process}
    (run : system.Run SpacedShutdowns (.start env) seen p) : Halted seen p := by
  have windows : Windows seen p := by
    refine run.invariant Windows ?_ fun _ _ _ _ _ windows permitted stepped =>
      step_windows windows permitted stepped
    exact ⟨start_sound env, by simp, ⟨by simp, .nil⟩, by simp⟩
  exact windows.halted

/-! ### Shutdowns that are not apart -/

/-- The end of a shutdown stays pending until it fires when it is due. -/
theorem reset_pending {p after : Process} {action : Act} {out : List Obs} {timer : Timer Task}
    (sound : p.TimersSound) (live : timer ∈ p.loop.timers) (ends : timer.task = .reset)
    (timely : Timely p action) (stepped : step p action = some (after, out)) :
    timer ∈ after.loop.timers ∨
      after.engine.isShuttingDown = false ∧ after.loop.time = timer.due := by
  have own : ∀ reset, reset = timer → reset ∈ p.loop.timers ∧ reset.task = .reset := by
    rintro reset rfl
    exact ⟨live, ends⟩
  by_cases fires : ∃ env, ∃ fired ∈ p.loop.timers, fired.task = .reset ∧ action = .fire env fired.id
  · obtain ⟨env, fired, found, resets, rfl⟩ := fires
    by_cases same : fired = timer
    · subst same
      have once : fired.period = Option.none := by rw [sound.periods fired live, ends]; rfl
      obtain ⟨late, early⟩ := timely.2 fired live once
      have waits := reset_waits sound found resets stepped
        (fun _ (absurd : False) => absurd.elim)
      rw [step_time stepped]
      exact .inr ⟨waits.down, le_antisymm late (early (by simp [Act.fires]))⟩
    · have others : ∀ reset, reset = timer →
          reset ∈ p.loop.timers ∧ reset.task = .reset ∧ reset.id ≠ fired.id := by
        rintro reset rfl
        exact ⟨live, ends, fun named => same (EventLoop.eq_of_id found live named.symm)⟩
      exact .inl ((reset_waits sound found resets stepped others).resets.pending timer rfl).1
  · by_cases calls : ∃ env, action = .request env .simulateGracefulShutdown
    · obtain ⟨env, rfl⟩ := calls
      exact .inl ((shutdown_waits sound stepped own).resets.pending timer rfl).1
    · have waits := other_waits sound stepped (fun env same => calls ⟨env, same⟩)
        (fun env fired found resets same => fires ⟨env, fired, found, resets, same⟩) own
      exact .inl (waits.resets.pending timer rfl).1

/-- A timely run that goes past the end of a shutdown passes a state at that time in which the flag
is reset. -/
theorem run_resets {init : Process} {timer : Timer Task} (sound : init.TimersSound)
    (live : timer ∈ init.loop.timers) (ends : timer.task = .reset)
    (before : init.loop.time ≤ timer.due) {later : List Obs} {q : Process}
    (run : system.Run Timely init later q) :
    (timer ∈ q.loop.timers ∧ q.loop.time ≤ timer.due) ∨
      ∃ first second middle, system.Run Timely init first middle ∧
        system.Run Timely middle second q ∧ later = first ++ second ∧
        middle.engine.isShuttingDown = false ∧ middle.loop.time = timer.due := by
  induction run with
  | start => exact .inl ⟨live, before⟩
  | @next seen out state after action reached timely stepped ih =>
    have kept : state.TimersSound := reached.state_invariant Process.TimersSound sound
      fun _ _ _ _ sound _ stepped => step_sound sound stepped
    rcases ih with ⟨pending, _⟩ | ⟨first, second, middle, begins, rest, rfl, reset⟩
    · rcases reset_pending kept pending ends timely stepped with still | ended
      · have once : timer.period = none := by rw [kept.periods timer pending, ends]; rfl
        have early := (timely.2 timer pending once).1
        rw [step_time stepped]
        exact .inl ⟨still, early⟩
      · exact .inr ⟨seen ++ out, [], after, reached.next timely stepped, .start, by simp, ended⟩
    · exact .inr ⟨first, second ++ out, middle, begins, rest.next timely stepped,
        List.append_assoc _ _ _, reset⟩

/-- Shutdowns that are not apart are a call that returns and an end that is due too soon. -/
theorem not_spaced {p : Process} {action : Act} (close : ¬ Spaced p action) :
    ∃ env, action = .request env .simulateGracefulShutdown ∧
      p.engine.queue.length ≤ env.spreadLimit ∧
      ∃ timer ∈ p.loop.timers, timer.task = .reset ∧ timer.due < env.clock + 2000 := by
  cases action with
  | fire env id => exact absurd trivial close
  | request env request =>
    cases request with
    | ingestSingle | ingestBatch | getMetrics | startLoadTest | stopLoadTest | updateConfig =>
      exact absurd trivial close
    | simulateGracefulShutdown =>
      unfold Spaced at close
      push Not at close
      exact ⟨env, rfl, close⟩

/-- In a timely run whose shutdowns are apart, `isShuttingDown` is set for 2000 ms after each of
them and no tick moves events. After a shutdown that finds the end of another pending which is due
sooner, every timely run that goes on for 2000 ms passes a state where this is not so. -/
theorem shutdown_window (env : Env) :
    (∀ (seen : List Obs) (p : Process), system.Run SpacedShutdowns (.start env) seen p →
        Halted seen p) ∧
      ∀ (seen out later : List Obs) (p after q : Process) (action : Act),
        system.Run Timely (.start env) seen p → Timely p action → ¬ Spaced p action →
        step p action = some (after, out) → system.Run Timely after later q →
        action.clock + 2000 ≤ q.loop.time →
        ∃ first second middle, system.Run Timely after first middle ∧
          system.Run Timely middle second q ∧ later = first ++ second ∧
          ¬ Halted (seen ++ out ++ first) middle := by
  constructor
  · exact fun seen p run => run_halted run
  · intro seen out later p after q action run timely close stepped rest long
    obtain ⟨env, rfl, fits, timer, live, ends, soon⟩ := not_spaced close
    obtain ⟨report, returned⟩ := shutdown_returns stepped fits
    have sound := run_sound _ run
    have own : ∀ reset, reset = timer → reset ∈ p.loop.timers ∧ reset.task = .reset := by
      rintro reset rfl
      exact ⟨live, ends⟩
    have pending := ((shutdown_waits sound stepped own).resets.pending timer rfl).1
    have once : timer.period = none := by rw [sound.periods timer live, ends]; rfl
    have before : after.loop.time ≤ timer.due := by
      rw [step_time stepped]
      exact (timely.2 timer live once).1
    rcases run_resets (step_sound sound stepped) pending ends before rest with
      ⟨_, early⟩ | ⟨first, second, middle, begins, goes, rfl, reset, due⟩
    · have late : env.clock + 2000 ≤ timer.due := le_trans long early
      exact absurd soon (not_lt.mpr late)
    · refine ⟨first, second, middle, begins, goes, rfl, fun halted => ?_⟩
      have member : .shutdown env.clock report ∈ seen ++ out ++ first :=
        List.mem_append_left _ (List.mem_append_right _ returned)
      rw [← due] at soon
      have down := halted.flag env.clock report member soon
      rw [reset] at down
      contradiction

/-- The second of two shutdowns comes half a second after the end of the first. An event that comes
then is still in the queue after a tick of the workers. -/
theorem shutdown_window_apart :
    ∃ seen p, system.Run SpacedShutdowns (.start (.calm 0)) seen p ∧
      p.engine.queue.length = 1 ∧ Halted seen p := by
  obtain ⟨seen, p, run, passed⟩ := System.exec_witness system SpacedShutdowns (.start (.calm 0))
    [.request (.calm 0) .simulateGracefulShutdown, .fire (.calm 2000) 3,
      .request (.calm 2500) .simulateGracefulShutdown,
      .request (.calm 2505) (.ingestSingle plainEvent), .fire (.calm 2510) 0]
    (fun (p, _) => p.engine.queue.length = 1) (by decide +kernel)
  exact ⟨seen, p, run, of_decide_eq_true passed, (shutdown_window (.calm 0)).1 seen p run⟩

/-- The second of two shutdowns comes a second after the first. Its flag is reset a second later,
and a tick of the workers moves an event. -/
theorem shutdown_window_overlaps :
    ∃ seen p, system.Run Timely (.start (.calm 0)) seen p ∧ ¬ Halted seen p ∧
      (∃ report, .shutdown 1000 report ∈ seen) ∧ p.loop.time = 2010 ∧
      p.engine.batchBuffer.length = 1 := by
  let returned : Obs → Bool
    | .shutdown start _ => start = 1000
    | _ => false
  obtain ⟨seen, p, run, passed⟩ := System.exec_witness system Timely (.start (.calm 0))
    [.request (.calm 0) .simulateGracefulShutdown,
      .request (.calm 1000) .simulateGracefulShutdown, .fire (.calm 2000) 3,
      .request (.calm 2005) (.ingestSingle plainEvent), .fire (.calm 2010) 0]
    (fun (p, seen) => seen.any returned && p.loop.time = 2010 &&
      p.engine.batchBuffer.length = 1 && !p.engine.isShuttingDown) (by decide +kernel)
  simp only [Bool.and_eq_true, decide_eq_true_eq, Bool.not_eq_true', List.any_eq_true] at passed
  obtain ⟨⟨⟨⟨obs, member, shown⟩, time⟩, moved⟩, reset⟩ := passed
  have shutdown : ∃ report, .shutdown 1000 report ∈ seen := by
    cases obs with
    | shutdown start report =>
      obtain rfl : start = 1000 := of_decide_eq_true shown
      exact ⟨report, member⟩
    | limited | pushed | moved | drained | flushed | logged | latency | single | batch | metrics
    | threw | crashed => contradiction
  refine ⟨seen, p, run, fun halted => ?_, shutdown, time, moved⟩
  obtain ⟨report, ended⟩ := shutdown
  have down := halted.flag 1000 report ended (by rw [time]; decide)
  rw [reset] at down
  contradiction

end IngestionEngine.Server
