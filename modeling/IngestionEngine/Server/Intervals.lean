import IngestionEngine.Server.Dwell

/-!
# Intervals that keep their pace

An interval is due one period after it has fired. The interval of a load test is cleared when the
test is stopped, the ticker that flushes is restarted by `updateConfig`, and nothing moves the
others. So in a punctual run an interval fires at the multiples of its period.
-/

namespace IngestionEngine.Server

open Systems Program

/-- The timer is pending, unless it belongs to a load test that is not the current one. -/
structure Process.Holds (timer : Timer Task) (p : Process) : Prop where
  /-- The timers are sound. -/
  sound : p.TimersSound
  /-- The identifier has been given out. -/
  used : timer.id < p.loop.nextId
  /-- The timer. -/
  pending : (∀ eventsPerTick, timer.task ≠ .loadTest eventsPerTick) ∨
    p.engine.loadTestTimer = some timer.id → timer ∈ p.loop.timers

/-- The timer with its next firing, after an action. -/
def Act.renewed (action : Act) (timer : Timer Task) (period : Int) : Timer Task :=
  if action.fires timer.id then { timer with due := action.clock + period } else timer

section Intervals

variable {timer : Timer Task}

/-- A shutdown leaves it pending. -/
theorem holds_reset : Keeps (Process.Holds timer) (setTimer .reset 2000 none) := by
  intro p held
  have sound := held.sound.set_other .reset (by simp) (fun _ => by simp) 2000
  exact ⟨sound, Nat.lt_succ_of_lt held.used,
    fun kept => EventLoop.mem_set.mpr (.inl (held.pending kept))⟩

variable (other : timer.task ≠ .flush)

include other

/-- That a timer is pending endures every method. -/
theorem holds_endures : Endures (Process.Holds timer) where
  assigned := by
    intro p e same held
    have load : e.loadTestTimer = p.engine.loadTestTimer :=
      congrArg (fun handles => handles.2.1) same
    refine ⟨sound_endures.assigned p e same held.sound, held.used, fun kept => ?_⟩
    exact held.pending (load ▸ kept)
  stopped := by
    intro p held
    refine ⟨sound_endures.stopped p held.sound, held.used, ?_⟩
    rintro (unloaded | named)
    · refine EventLoop.mem_clear.mpr ⟨held.pending (.inl unloaded), fun same => ?_⟩
      obtain ⟨eventsPerTick, loads⟩ := (held.sound.loading timer.id).mpr same
      have live := held.pending (.inl unloaded)
      exact unloaded eventsPerTick (EventLoop.Runs.unique ⟨timer, live, rfl, rfl⟩ loads)
    · contradiction
  started := by
    intro p eventsPerTick stopped held
    refine ⟨sound_endures.started p eventsPerTick stopped held.sound,
      Nat.lt_succ_of_lt held.used, ?_⟩
    rintro (unloaded | named)
    · exact EventLoop.mem_set.mpr (.inl (held.pending (.inl unloaded)))
    · have used := held.used
      rw [Option.some.inj named] at used
      exact absurd used (Nat.lt_irrefl _)
  released := fun p held => ⟨sound_endures.released p held.sound, Nat.lt_succ_of_lt held.used,
    fun kept => EventLoop.mem_set.mpr (.inl (held.pending kept))⟩
  restarted := by
    intro p held
    refine ⟨sound_endures.restarted p held.sound, Nat.lt_succ_of_lt held.used, fun kept => ?_⟩
    have live := held.pending kept
    refine EventLoop.mem_set.mpr (.inl (EventLoop.mem_clear.mpr ⟨live, fun same => ?_⟩))
    exact other (EventLoop.Runs.unique ⟨timer, live, rfl, rfl⟩ ((held.sound.flushing _).mpr same))

/-- After a step the timer is due when it was, or one period after it has fired. -/
theorem step_holds {p after : Process} {action : Act} {out : List Obs} {period : Int}
    (sound : p.TimersSound) (live : timer ∈ p.loop.timers) (interval : timer.period = some period)
    (stepped : step p action = some (after, out)) :
    after.Holds (action.renewed timer period) := by
  have used : timer.id < p.loop.nextId := p.loop.fresh timer live
  have flagged (timer : Timer Task) (p : Process) (flag : Bool) (held : p.Holds timer) :
      ({ p with engine := { p.engine with isShuttingDown := flag } } : Process).Holds timer :=
    ⟨held.sound, held.used, held.pending⟩
  cases step_cases stepped with
  | @request env request alive =>
    rw [respond_state]
    exact (holds_endures other).any_request env (flagged timer) holds_reset request _
      ⟨TimersSound.advance sound env.clock, used, fun _ => live⟩
  | @fire env firing alive fires =>
    have fired : (p.fired env firing).Holds ((Act.fire env firing.id).renewed timer period) := by
      have given : ((p.begin env).loop.fire firing).nextId = p.loop.nextId := by
        rw [EventLoop.fire]
        cases firing.period <;> rfl
      refine ⟨(TimersSound.advance sound env.clock).fire fires, ?_, fun _ => ?_⟩
      · show _ < ((p.begin env).loop.fire firing).nextId
        rw [given, Act.renewed]
        split <;> exact used
      · by_cases same : firing.id = timer.id
        · obtain rfl := EventLoop.eq_of_id fires live same
          have own : (Act.fire env firing.id).fires firing.id = true := decide_eq_true rfl
          rw [Act.renewed, if_pos own]
          have advanced : firing ∈ (p.loop.advance env.clock).timers := fires
          exact EventLoop.mem_fire_again advanced interval
        · have quiet : ¬ (Act.fire env firing.id).fires timer.id = true :=
            fun fires => same (of_decide_eq_true fires)
          rw [Act.renewed, if_neg quiet]
          exact EventLoop.mem_fire live fun different => same different.symm
    have kind : ((Act.fire env firing.id).renewed timer period).task ≠ .flush := by
      rw [Act.renewed]
      split <;> exact other
    have left := (holds_endures kind).any_callback env (flagged _) firing.task _ fired
    obtain ⟨loop, engine⟩ := finish_state ((firing.task.callback env).run (p.fired env firing))
    obtain ⟨sound, used, pending⟩ := left
    unfold Process.TimersSound at sound
    rw [← loop, ← engine] at sound
    rw [← loop] at used pending
    rw [← engine] at pending
    exact ⟨sound, used, pending⟩

end Intervals

/-! ### Tasks with one timer -/

/-- Only the constructor sets a timer with the task. -/
def Task.initial : Task → Bool
  | .workers | .metrics => true
  | .release | .flush | .reset | .loadTest _ => false

/-- No other timer runs the task. -/
def Process.Sole (task : Task) (id : Nat) (p : Process) : Prop :=
  ∀ other, p.loop.Runs other task → other = id

section Sole

variable {task : Task} {id : Nat} (initial : task.initial = true)

include initial

/-- A timer with another task may be set. -/
theorem sole_set (new : Task) (other : new.initial = false) (delay : Int) (period : Option Int) :
    Keeps (Process.Sole task id) (setTimer new delay period) := by
  intro p held timer runs
  rcases EventLoop.runs_set.mp runs with old | ⟨_, rfl⟩
  · exact held timer old
  · rw [initial] at other
    contradiction

/-- That no other timer runs the task endures every method. -/
theorem sole_endures : Endures (Process.Sole task id) where
  assigned := fun _ _ _ held => held
  stopped := fun _ held timer runs => held timer (EventLoop.runs_clear.mp runs).1
  started := fun p eventsPerTick _ held =>
    sole_set initial (.loadTest eventsPerTick) rfl 25 (some 25) p held
  released := fun p held => sole_set initial .release rfl 8 none p held
  restarted := by
    intro p held timer runs
    have cleared : ({ p with loop := p.loop.clear p.engine.flushIntervalId } : Process).Sole
        task id := fun other old => held other (EventLoop.runs_clear.mp old).1
    exact sole_set initial .flush rfl 50 (some 50) _ cleared timer runs

/-- Every step keeps that. -/
theorem step_sole {p after : Process} {action : Act} {out : List Obs} (sole : p.Sole task id)
    (stepped : step p action = some (after, out)) : after.Sole task id := by
  cases step_cases stepped with
  | @request env request alive =>
    rw [respond_state]
    exact (sole_endures initial).any_request env (fun _ _ held => held)
      (sole_set initial .reset rfl 2000 none) request _ sole
  | @fire env timer alive live =>
    have fired : (p.fired env timer).Sole task id :=
      fun other runs => sole other (EventLoop.runs_fire.mp runs).1
    have left := (sole_endures initial).any_callback env (fun _ _ held => held) timer.task
      (p.fired env timer) fired
    unfold Process.Sole at left ⊢
    rw [(finish_state _).1]
    exact left

end Sole

/-- The constructor sets one timer for the workers and one for the metrics. -/
theorem start_sole (env : Env) :
    (Process.start env).Sole .workers 0 ∧ (Process.start env).Sole .metrics 2 := by
  constructor
  all_goals
    rintro id ⟨timer, live, rfl, task⟩
    simp only [start_timers, List.mem_cons, List.not_mem_nil, or_false] at live
    rcases live with rfl | rfl | rfl <;> first | rfl | contradiction

/-- A punctual interval fires when it is due. -/
theorem punctual_due {p : Process} {action : Act} {timer : Timer Task} {period : Int}
    (punctual : Punctual p action) (live : timer ∈ p.loop.timers)
    (interval : timer.period = some period) (fires : action.fires timer.id = true) :
    action.clock = timer.due := by
  obtain ⟨before, after⟩ := punctual.2 timer live (by rw [interval]; exact Option.some_ne_none _)
  exact le_antisymm before (after fires)

end IngestionEngine.Server
