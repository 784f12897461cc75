import IngestionEngine.Server.Engine
import IngestionEngine.Systems.Run

/-!
# The steps of the server process

A request or a timer runs to its end before the next one. A request whose call throws is
answered with an error; a timer's callback that throws ends the process.
-/

namespace IngestionEngine.Server

open Systems Program

/-- The calls of the routes into the engine. -/
inductive Request where
  /-- `ingestSingle` -/
  | ingestSingle (event : JsValue)
  /-- `ingestBatch` -/
  | ingestBatch (events : List JsValue)
  /-- `getMetrics` -/
  | getMetrics
  /-- `startLoadTest` -/
  | startLoadTest (targetRps : JsNum) (scenario : String)
  /-- `stopLoadTest` -/
  | stopLoadTest
  /-- `updateConfig` -/
  | updateConfig (cfg : JsValue)
  /-- `simulateGracefulShutdown` -/
  | simulateGracefulShutdown

/-- The call, which shows what it returns. -/
def Request.call (env : Env) : Request → Js Unit
  | .ingestSingle event => do
    let result ← Server.ingestSingle env event
    emit (.single result)
  | .ingestBatch events => do
    let result ← Server.ingestBatch env events
    emit (.batch result)
  | .getMetrics => do
    let result ← Server.getMetrics env
    emit (.metrics result)
  | .startLoadTest targetRps scenario => Server.startLoadTest env targetRps scenario
  | .stopLoadTest => Server.stopLoadTest env
  | .updateConfig cfg => Server.updateConfig env cfg
  | .simulateGracefulShutdown => do
    let report ← Server.simulateGracefulShutdown env
    emit (.shutdown env.clock report)

/-- The callback of a task. -/
def Task.callback (env : Env) : Task → Js Unit
  | .workers => workerTick env
  | .release => releaseWorkers
  | .flush => flushTick env
  | .metrics => metricsTick
  | .loadTest eventsPerTick => loadTestTick env eventsPerTick
  | .reset => resetShutdown

/-- What happens to the process. -/
inductive Act where
  /-- A request arrives. -/
  | request (env : Env) (request : Request)
  /-- A timer fires. -/
  | fire (env : Env) (id : Nat)

/-- The process when the callback of an action starts. -/
def Process.begin (p : Process) (env : Env) : Process :=
  { p with loop := p.loop.advance env.clock }

/-- The end of a request. -/
def respond (outcome : Outcome Process Obs JsError Unit) : Process × List Obs :=
  match outcome.result with
  | .ok _ => (outcome.state, outcome.out)
  | .error thrown => (outcome.state, outcome.out ++ [.threw thrown])

/-- The end of a timer's callback. -/
def finish (outcome : Outcome Process Obs JsError Unit) : Process × List Obs :=
  match outcome.result with
  | .ok _ => (outcome.state, outcome.out)
  | .error thrown => ({ outcome.state with crashed := true }, outcome.out ++ [.crashed thrown])

/-- One step of the process. -/
def step (p : Process) (action : Act) : Option (Process × List Obs) :=
  if p.crashed then none
  else
    match action with
    | .request env request => some (respond ((request.call env).run (p.begin env)))
    | .fire env id =>
      match p.loop.find id with
      | none => none
      | some timer =>
        some (finish ((timer.task.callback env).run
          { p.begin env with loop := (p.begin env).loop.fire timer }))

/-- The process as a system. -/
def system : System Process Act Obs := ⟨step⟩

/-- The process when the callback of a timer starts. -/
def Process.fired (p : Process) (env : Env) (timer : Timer Task) : Process :=
  { p.begin env with loop := (p.begin env).loop.fire timer }

/-- Everything one step can do. -/
inductive Step (p : Process) : Act → Process → List Obs → Prop where
  /-- A request runs to its end. -/
  | request {env : Env} {request : Request} (alive : p.crashed = false) :
      Step p (.request env request) (respond ((request.call env).run (p.begin env))).1
        (respond ((request.call env).run (p.begin env))).2
  /-- A timer's callback runs to its end. -/
  | fire {env : Env} {timer : Timer Task} (alive : p.crashed = false)
      (live : timer ∈ p.loop.timers) :
      Step p (.fire env timer.id) (finish ((timer.task.callback env).run (p.fired env timer))).1
        (finish ((timer.task.callback env).run (p.fired env timer))).2

/-- `step` does nothing else. -/
theorem step_cases {p after : Process} {action : Act} {out : List Obs}
    (stepped : step p action = some (after, out)) : Step p action after out := by
  unfold step at stepped
  split at stepped
  · contradiction
  · rename_i crashed
    have alive : p.crashed = false := Bool.eq_false_of_not_eq_true crashed
    cases action with
    | request env request =>
      have moved := Option.some.inj stepped
      have built : Step p (.request env request) _ _ := .request alive
      rw [moved] at built
      exact built
    | fire env id =>
      dsimp only at stepped
      split at stepped
      · contradiction
      · rename_i timer found
        obtain ⟨live, rfl⟩ := EventLoop.find_some found
        have moved := Option.some.inj stepped
        have built : Step p (.fire env timer.id) _ _ := .fire alive live
        unfold Process.fired at built
        rw [moved] at built
        exact built

/-- Only a live process takes a step. -/
theorem step_alive {p after : Process} {action : Act} {out : List Obs}
    (stepped : step p action = some (after, out)) : p.crashed = false := by
  cases step_cases stepped <;> assumption

/-- A live process answers every request. -/
theorem step_request {p : Process} {env : Env} {request : Request} (alive : p.crashed = false) :
    step p (.request env request) = some (respond ((request.call env).run (p.begin env))) := by
  simp only [step, alive]
  rfl

/-- A live timer of a live process can fire. -/
theorem step_fire {p : Process} {env : Env} {timer : Timer Task} (alive : p.crashed = false)
    (live : timer ∈ p.loop.timers) : step p (.fire env timer.id) =
      some (finish ((timer.task.callback env).run (p.fired env timer))) := by
  simp only [step, alive, EventLoop.find_id live]
  rfl

/-- The state that a request leaves is that of its call. -/
theorem respond_state (outcome : Outcome Process Obs JsError Unit) :
    (respond outcome).1 = outcome.state := by
  unfold respond
  split <;> rfl

/-- A live process answers every request, and is left as the call leaves it. -/
theorem step_request_state {p : Process} {env : Env} {request : Request}
    (alive : p.crashed = false) : step p (.request env request) =
      some (((request.call env).run (p.begin env)).state,
        (respond ((request.call env).run (p.begin env))).2) := by
  rw [step_request alive, ← respond_state]

/-- A callback that returns leaves what it computed. -/
theorem finish_ok {outcome : Outcome Process Obs JsError Unit}
    (returned : outcome.result = .ok ()) :
    finish outcome = (outcome.state, outcome.out) := by
  unfold finish
  rw [returned]

/-- Surroundings for concrete runs: no flush fails, and nothing takes time. -/
def Env.calm (clock : Int) : Env where
  clock := clock
  suffix := fun _ => ""
  failure := ⟨1 / 2, by norm_num⟩
  jitter := ⟨0, by norm_num⟩
  pushDuration := ⟨0, le_rfl⟩
  flushDuration := ⟨0, le_rfl⟩
  shutdownDuration := ⟨0, le_rfl⟩
  sine := ⟨0, by norm_num⟩
  spreadLimit := 200000
  arrayLimit := ⟨2 ^ 32 - 1, by decide⟩
  mock := fun _ => ⟨"", 0, 0, 0, 0, ⟨0, by norm_num⟩⟩

end IngestionEngine.Server
