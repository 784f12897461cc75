import IngestionEngine.Server.Handles

/-!
# The time of a callback

A callback reads the clock once, when it starts, and nothing that it does to the timers changes
that reading. So the time of the loop after a step is the reading of the step.
-/

namespace IngestionEngine.Server

open Systems Program

/-- The reading of the clock in a step. -/
def Act.clock : Act → Int
  | .request env _ => env.clock
  | .fire env _ => env.clock

/-- The step does not go back in time. -/
def Onward (p : Process) (action : Act) : Prop := p.loop.time ≤ action.clock

instance (p : Process) (action : Act) : Decidable (Onward p action) :=
  inferInstanceAs (Decidable (p.loop.time ≤ action.clock))

/-- A callback has started at the given time. -/
def Process.At (time : Int) (p : Process) : Prop := p.loop.time = time

/-- A timer that fires leaves the time alone. -/
theorem fire_time (loop : EventLoop Task) (timer : Timer Task) :
    (loop.fire timer).time = loop.time := by
  unfold EventLoop.fire
  cases timer.period <;> rfl

/-- No change of the timers and the handles changes the time. -/
theorem at_endures {time : Int} : Endures (Process.At time) where
  assigned := fun _ _ _ held => held
  restarted := fun _ held => held
  stopped := fun _ held => held
  started := fun _ _ _ held => held
  released := fun _ held => held

/-- After a step the time is that of the step. -/
theorem step_time {p after : Process} {action : Act} {out : List Obs}
    (stepped : step p action = some (after, out)) : after.loop.time = action.clock := by
  cases step_cases stepped with
  | @request env request alive =>
    rw [respond_state]
    have reset : Keeps (Process.At env.clock) (setTimer .reset 2000 none) := fun _ held => held
    exact at_endures.any_request env (fun _ _ held => held) reset request (p.begin env) rfl
  | @fire env timer alive live =>
    have begun : (p.fired env timer).At env.clock := fire_time _ timer
    rw [(finish_state ((timer.task.callback env).run (p.fired env timer))).1]
    exact at_endures.any_callback env (fun _ _ held => held) timer.task _ begun

end IngestionEngine.Server
