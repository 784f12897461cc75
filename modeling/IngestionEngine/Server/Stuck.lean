import IngestionEngine.Server.Atomicity
import IngestionEngine.Server.Shutdown

/-!
# Shutdowns that throw

`simulateGracefulShutdown` sets `isShuttingDown` first and the timeout that resets it last. Between
the two it spreads the queue into a call, which throws when the queue is too long. Then nothing
resets the flag unless the end of an earlier shutdown is pending, and the workers never empty the
queue that makes every later shutdown throw too.
-/

namespace IngestionEngine.Server

open Systems Program

/-- The flag is set, and nothing is pending that resets it. -/
def Process.Stuck (p : Process) : Prop :=
  p.engine.isShuttingDown = true ∧ ∀ timer ∈ p.loop.timers, timer.task ≠ .reset

/-- A shutdown that throws does not leave the process stuck. -/
def ExceptionSafe (env : Env) (p : Process) : Prop :=
  ∀ thrown, ((simulateGracefulShutdown env).run p).result = .error thrown →
    ¬ ((simulateGracefulShutdown env).run p).state.Stuck

/-- A spread call takes as many arguments as given. -/
def Spreads (limit : Nat) (_ : Process) (action : Act) : Prop := action.env.spreadLimit = limit

section Shutdown

variable {p : Process} {env : Env}

/-- A shutdown that throws leaves the ends of the earlier ones. -/
theorem long_resets (sound : p.TimersSound) {q : Process}
    (cleared : q.loop = p.loop.clear p.engine.loadTestTimer) {timer : Timer Task}
    (ends : timer.task = .reset) : timer ∈ q.loop.timers ↔ timer ∈ p.loop.timers := by
  rw [cleared, EventLoop.mem_clear]
  refine ⟨And.left, fun live => ⟨live, fun same => ?_⟩⟩
  obtain ⟨eventsPerTick, runs⟩ := (sound.loading timer.id).mpr same
  have reset : p.loop.Runs timer.id .reset := ⟨timer, live, rfl, ends⟩
  have different := runs.unique reset
  contradiction

/-- A shutdown is exception-safe exactly when the queue fits a spread call or the end of another
shutdown is pending. -/
theorem safe_iff (sound : p.TimersSound) :
    ExceptionSafe env p ↔ p.engine.queue.length ≤ env.spreadLimit ∨
      ∃ timer ∈ p.loop.timers, timer.task = .reset := by
  by_cases long : env.spreadLimit < p.engine.queue.length
  · obtain ⟨q, first, second, ran, down, _, cleared⟩ := run_shutdown_long long
    unfold ExceptionSafe
    rw [ran]
    constructor
    · intro safe
      have free := safe .rangeError rfl
      unfold Process.Stuck at free
      push Not at free
      obtain ⟨timer, live, ends⟩ := free down
      exact .inr ⟨timer, (long_resets sound cleared ends).mp live, ends⟩
    · rintro (fits | ⟨timer, live, ends⟩) thrown _ ⟨_, none⟩
      · exact absurd long (Nat.not_lt.mpr fits)
      · exact none timer ((long_resets sound cleared ends).mpr live) ends
  · have fits := Nat.not_lt.mp long
    obtain ⟨q, shown, report, ran, _⟩ := run_shutdown_fits fits
    refine ⟨fun _ => .inl fits, fun _ thrown failed => ?_⟩
    rw [ran] at failed
    contradiction

end Shutdown

/-! ### A process that is stuck stays stuck -/

/-- The process is stuck and its queue is too long for a spread call. -/
structure Disabled (limit : Nat) (p : Process) : Prop where
  /-- The timers are sound. -/
  sound : p.TimersSound
  /-- The process is stuck. -/
  stuck : p.Stuck
  /-- The queue is too long. -/
  long : limit < p.engine.queue.length

section Steps

variable {limit : Nat} {p after : Process} {action : Act} {out : List Obs}

/-- Only the workers and a shutdown make the queue shorter. -/
theorem change_length {c next : Core} {change : Change} {shown : List Obs}
    (queues : change.queues = true) (stepped : c.step change = some (next, shown)) :
    c.queue.length ≤ next.queue.length := by
  cases core_cases stepped with
  | move | drain => contradiction
  | push => simp
  | touch | refill | spend | refuse | refuseBatch | drop | flush | setRps | setBurst | capTokens
  | finish => exact le_refl _

/-- Every other step makes it no shorter. -/
theorem step_length (stepped : step p action = some (after, out))
    (calls : ∀ env, action ≠ .request env .simulateGracefulShutdown)
    (ticks : ∀ env, ∀ timer ∈ p.loop.timers, timer.task = .workers →
      action ≠ .fire env timer.id) : p.engine.queue.length ≤ after.engine.queue.length := by
  obtain ⟨changes, executed, makes⟩ := step_makes stepped
  have queues : ∀ change ∈ changes, change.queues = true := by
    intro change member
    cases makes.made change member with
    | still quiet =>
      cases change with
      | move | drain => contradiction
      | touch | refill | spend | refuse | refuseBatch | push | drop | flush | setRps | setBurst
      | capTokens | finish => rfl
    | batch _ inside | loadTest _ _ _ _ inside =>
      exact batchChanges_each (fun change => change.queues = true) rfl (fun _ => rfl)
        _ _ _ _ _ inside
    | move live task => exact absurd rfl (ticks _ _ live task)
    | drain => exact absurd rfl (calls _)
    | single | threshold | window | last | returned => rfl
  exact (System.exec_permitted executed queues).state_invariant
    (fun c => p.engine.queue.length ≤ c.queue.length) le_rfl
    fun _ _ _ _ held queues stepped => le_trans held (change_length queues stepped)

/-- A shutdown that throws disables the process when no end of another is pending. -/
theorem long_disabled {env : Env} (sound : p.TimersSound)
    (none : ∀ timer ∈ p.loop.timers, timer.task ≠ .reset)
    (long : env.spreadLimit < p.engine.queue.length)
    (stepped : step p (.request env .simulateGracefulShutdown) = some (after, out)) :
    Disabled env.spreadLimit after := by
  obtain ⟨q, first, second, ran, down, core, cleared⟩ :=
    run_shutdown_long (p := p.begin env) long
  have left : after = q := by
    cases step_cases stepped with
    | request alive =>
      rw [respond_state, Request.call, run_bind, ran]
      rfl
  subst left
  refine ⟨step_sound sound stepped, ⟨down, fun timer live ends => ?_⟩, ?_⟩
  · have begun : (p.begin env).TimersSound := TimersSound.advance sound env.clock
    exact none timer ((long_resets begun cleared ends).mp live) ends
  · have same : after.engine.queue = p.engine.queue := congrArg Core.queue core
    rw [same]
    exact long

/-- Every step leaves a disabled process disabled, and moves no event. -/
theorem step_disabled (disabled : Disabled limit p) (spreads : Spreads limit p action)
    (stepped : step p action = some (after, out)) :
    Disabled limit after ∧ ∀ clock events, .moved clock events ∉ out := by
  obtain ⟨sound, ⟨down, none⟩, long⟩ := disabled
  have still : ∀ clock events, .moved clock events ∉ out := by
    intro clock events member
    have running := (moved_running stepped member).1
    rw [down] at running
    contradiction
  refine ⟨?_, still⟩
  by_cases calls : ∃ env, action = .request env .simulateGracefulShutdown
  · obtain ⟨env, rfl⟩ := calls
    obtain rfl : env.spreadLimit = limit := spreads
    exact long_disabled sound none long stepped
  · have called : ∀ env, action ≠ .request env .simulateGracefulShutdown :=
      fun env same => calls ⟨env, same⟩
    have waits := other_waits sound stepped called
      (fun env timer live ends => absurd ends (none timer live))
      (fun _ (absurd : False) => absurd.elim)
    refine ⟨waits.sound, ⟨waits.down.trans down, fun timer live ends => ?_⟩, ?_⟩
    · exact none timer (waits.resets.others timer live ends) ends
    · by_cases ticks : ∃ env, ∃ timer ∈ p.loop.timers, timer.task = .workers ∧
          action = .fire env timer.id
      · obtain ⟨env, timer, live, task, rfl⟩ := ticks
        have ran := fire_workers live task stepped
        have idle : ¬ (p.fired env timer).engine.Ticks := fun ticks => ticks.1 (.inl down)
        rw [run_workerTick_idle env idle] at ran
        obtain ⟨rfl, _⟩ := Prod.mk.inj ran
        exact long
      · exact lt_of_lt_of_le long (step_length stepped called fun env timer live task same =>
          ticks ⟨env, timer, live, task, same⟩)

/-- A disabled process stays disabled: no event ever moves again. -/
theorem run_disabled (disabled : Disabled limit p) {later : List Obs} {q : Process}
    (run : system.Run (Spreads limit) p later q) :
    Disabled limit q ∧ ∀ clock events, .moved clock events ∉ later := by
  refine run.invariant
    (fun later q => Disabled limit q ∧ ∀ clock events, .moved clock events ∉ later)
    ⟨disabled, by simp⟩ ?_
  rintro seen state action after out ⟨held, none⟩ spreads stepped
  obtain ⟨kept, still⟩ := step_disabled held spreads stepped
  refine ⟨kept, fun clock events member => ?_⟩
  rcases List.mem_append.mp member with old | new
  · exact none clock events old
  · exact still clock events new

end Steps

/-! ### A queue that is too long -/

section Fill

variable (env : Env) {p : Process} {events : List JsValue} {capacity : ℚ}

/-- The loop of `ingestBatch` takes every event when all are objects and the queue has room. -/
theorem ingestEvents_fit (bounded : p.engine.channelCapacity = .fin capacity)
    (objects : ∀ event ∈ events, event.isObject = true)
    (room : ((p.engine.queue.length + events.length : Nat) : ℚ) ≤ capacity)
    (index accepted dropped : Nat) :
    ((ingestEvents env events index accepted dropped).run p).state.engine.queue.length =
      p.engine.queue.length + events.length := by
  induction events generalizing index accepted dropped p with
  | nil => rfl
  | cons event rest ih =>
    obtain ⟨ev, read⟩ := asObject_ok (objects event List.mem_cons_self)
    rw [List.length_cons] at room
    have fits : (JsNum.ofNat p.engine.queue.length).lt p.engine.channelCapacity = true := by
      rw [bounded]
      refine (JsNum.lt_fin _ _).mpr (lt_of_lt_of_le ?_ room)
      exact_mod_cast Nat.lt_add_of_pos_right (Nat.succ_pos _)
    rw [ingestEvents]
    simp only [read, run_bind, run_lift, run_engine, andThen_ok, if_pos fits, run_update, run_emit,
      after_state]
    refine (ih ?_ ?_ ?_ _ _ _).trans ?_
    · exact bounded
    · exact fun other member => objects other (List.mem_cons_of_mem _ member)
    · rw [List.length_append, List.length_singleton, Nat.add_assoc, Nat.add_comm 1]
      exact room
    · rw [List.length_append, List.length_singleton, List.length_cons, Nat.add_assoc,
        Nat.add_comm 1]

/-- A batch of objects that the limiter admits and that finds room goes into the queue. -/
theorem step_fill (alive : p.crashed = false)
    (affords : p.core.affords env.clock (batchCost events.length) = true)
    (bounded : p.engine.channelCapacity = .fin capacity)
    (objects : ∀ event ∈ events, event.isObject = true)
    (room : ((p.engine.queue.length + events.length : Nat) : ℚ) ≤ capacity) :
    ∃ after out, step p (.request env (.ingestBatch events)) = some (after, out) ∧
      after.engine.queue.length = p.engine.queue.length + events.length ∧
      after.crashed = false ∧ after.loop.timers = p.loop.timers := by
  let outcome := ((Request.ingestBatch events).call env).run (p.begin env)
  have stepped : step p (.request env (.ingestBatch events)) = some (respond outcome) :=
    step_request alive
  let filled (q : Process) : Prop :=
    q.engine.queue.length = p.engine.queue.length + events.length
  have kept : filled outcome.state := by
    refine leaves_bind ?_ fun _ => keeps_emit _
    obtain ⟨q, same, capacities, tally, _⟩ := batch_admitted env (p.begin env) events affords
    have queued : q.engine.queue = p.engine.queue := congrArg Prod.fst same
    have left : ((ingestBatch env events).run (p.begin env)).state.engine.queue =
        ((ingestEvents env events 0 0 0).run q).state.engine.queue := congrArg Prod.fst tally
    have fit := ingestEvents_fit env (capacities.trans bounded) objects
      (by rw [queued]; exact room) 0 0 0
    rw [← left, queued] at fit
    exact fit
  have frame : outcome.state.exceptIngest = (p.begin env).exceptIngest :=
    view_kept (fun _ => keeps_bind (keeps_ingestBatch env events) fun _ => keeps_emit _) _
  refine ⟨(respond outcome).1, (respond outcome).2, stepped, ?_⟩
  rw [respond_state]
  exact ⟨kept, (congrArg Process.crashed frame).trans alive,
    congrArg (fun q => q.loop.timers) frame⟩

end Fill

/-- A run whose configuration has room for 200001 events reaches a queue with as many. -/
theorem run_filled {seen : List Obs} {p : Process}
    (run : system.Run NumericConfig (.start (.calm 0)) seen p) (alive : p.crashed = false)
    (bounded : p.engine.channelCapacity = 500000) (empty : p.engine.queue = [])
    (affords : p.core.affords 2 (batchCost 200001) = true) :
    ∃ seen q, system.Run NumericConfig (.start (.calm 0)) seen q ∧
      q.engine.queue.length = 200001 ∧ q.crashed = false ∧ q.loop.timers = p.loop.timers := by
  let events := List.replicate 200001 plainEvent
  have count : events.length = 200001 := List.length_replicate
  have objects : ∀ event ∈ events, event.isObject = true := by
    intro event member
    rw [List.eq_of_mem_replicate member]
    rfl
  have room : ((p.engine.queue.length + events.length : Nat) : ℚ) ≤ 500000 := by
    rw [empty, count]
    norm_num
  rw [← count] at affords
  obtain ⟨q, out, stepped, queued, lives, timers⟩ :=
    step_fill (.calm 2) alive affords bounded objects room
  rw [empty, count] at queued
  have permitted : NumericConfig p (.request (.calm 2) (.ingestBatch events)) := trivial
  exact ⟨_, q, run.next permitted stepped, queued, lives, timers⟩

/-- In every state that is reached a shutdown is exception-safe exactly when the queue fits a
spread call or the end of another shutdown is pending. -/
theorem shutdown_exception_safe {start : Env} {seen : List Obs} {p : Process}
    (run : system.Run NumericConfig (.start start) seen p) (env : Env) :
    ExceptionSafe env (p.begin env) ↔ p.engine.queue.length ≤ env.spreadLimit ∨
      ∃ timer ∈ p.loop.timers, timer.task = .reset :=
  safe_iff (TimersSound.advance (run_sound start run) env.clock)

/-- While the end of one shutdown is pending, 200001 events come in, and the next shutdown throws: a
spread call takes 200000. The end that is pending resets the flag. -/
theorem shutdown_exception_safe_pending :
    ∃ seen p, system.Run NumericConfig (.start (.calm 0)) seen p ∧
      p.engine.queue.length = 200001 ∧
      ((simulateGracefulShutdown (.calm 3)).run (p.begin (.calm 3))).result =
        .error .rangeError ∧ ExceptionSafe (.calm 3) (p.begin (.calm 3)) := by
  obtain ⟨seen, p, run, passed⟩ := System.exec_witness system NumericConfig (.start (.calm 0))
    [.request (.calm 1) (.updateConfig (.obj [("channelCapacity", .num 500000)])),
      .request (.calm 1) .simulateGracefulShutdown]
    (fun (p, _) => !p.crashed && p.engine.channelCapacity = 500000 && p.engine.queue.isEmpty &&
      p.core.affords 2 (batchCost 200001) && p.loop.timers.any fun timer => timer.task = .reset)
    (by decide +kernel)
  simp only [Bool.and_eq_true, Bool.not_eq_true', decide_eq_true_eq, List.isEmpty_iff,
    List.any_eq_true] at passed
  obtain ⟨⟨⟨⟨alive, bounded⟩, empty⟩, affords⟩, pending⟩ := passed
  obtain ⟨later, q, reached, queued, _, timers⟩ := run_filled run alive bounded empty affords
  have long : (Env.calm 3).spreadLimit < (q.begin (.calm 3)).engine.queue.length := by
    have longer : 200000 < q.engine.queue.length := by omega
    exact longer
  obtain ⟨_, _, _, throws, _⟩ := run_shutdown_long long
  refine ⟨later, q, reached, queued, by rw [throws],
    (shutdown_exception_safe reached (.calm 3)).mpr ?_⟩
  rw [timers]
  exact .inr pending

/-- A capacity of 500000 lets 200001 events into the queue, and a spread call takes 200000. The
shutdown throws, and the workers never run again. -/
theorem shutdown_stuck :
    ∃ seen p, system.Run NumericConfig (.start (.calm 0)) seen p ∧
      p.engine.queue.length = 200001 ∧ (Env.calm 3).spreadLimit = 200000 ∧
      ¬ ExceptionSafe (.calm 3) (p.begin (.calm 3)) ∧
      ∃ after out, step p (.request (.calm 3) .simulateGracefulShutdown) = some (after, out) ∧
        ∀ later q, system.Run (Spreads 200000) after later q → q.Stuck := by
  obtain ⟨seen, p, run, passed⟩ := System.exec_witness system NumericConfig (.start (.calm 0))
    [.request (.calm 1) (.updateConfig (.obj [("channelCapacity", .num 500000)]))]
    (fun (p, _) => !p.crashed && p.engine.channelCapacity = 500000 && p.engine.queue.isEmpty &&
      p.core.affords 2 (batchCost 200001) && p.loop.timers.all fun timer => timer.task ≠ .reset)
    (by decide +kernel)
  simp only [Bool.and_eq_true, Bool.not_eq_true', decide_eq_true_eq, List.isEmpty_iff,
    List.all_eq_true] at passed
  obtain ⟨⟨⟨⟨alive, bounded⟩, empty⟩, affords⟩, free⟩ := passed
  obtain ⟨later, q, reached, queued, lives, timers⟩ := run_filled run alive bounded empty affords
  have sound := run_sound (.calm 0) reached
  have none : ∀ timer ∈ q.loop.timers, timer.task ≠ .reset := by
    rw [timers]
    exact free
  have long : (Env.calm 3).spreadLimit < q.engine.queue.length := by
    rw [queued]
    decide
  obtain ⟨after, shown, called⟩ : ∃ after out,
      step q (.request (.calm 3) .simulateGracefulShutdown) = some (after, out) :=
    ⟨_, _, step_request lives⟩
  refine ⟨_, q, reached, queued, rfl, ?_, after, shown, called, ?_⟩
  · intro safe
    have begun : (q.begin (.calm 3)).TimersSound := TimersSound.advance sound _
    rcases (safe_iff begun).mp safe with fits | ⟨timer, live, ends⟩
    · exact absurd long (Nat.not_lt.mpr fits)
    · exact none timer live ends
  · have disabled := long_disabled sound none long called
    exact fun later r rest => (run_disabled disabled rest).1.stuck

end IngestionEngine.Server
