import IngestionEngine.Batch.Flow
import IngestionEngine.Worker.Conservation

/-!
# The pipeline and its shutdown

The worker pool in front of the batch processor, with `main` around both. A worker's
`Submit` is one step of the pool and of the processor together. `main` shuts down in the
order of the source: `httpServer.Shutdown`, `Pool.Shutdown`, `Processor.Stop`. The server
shutdown waits for the requests in progress unless it times out; only after a shutdown in
time does no handler run any more.
-/

namespace IngestionEngine

open Systems

/-- Where `main` stands after the start of the server. -/
inductive MainPc where
  /-- It waits for a signal, or in `httpServer.Shutdown`. -/
  | serving
  /-- `httpServer.Shutdown` has returned. -/
  | httpDown
  /-- In `workerPool.Shutdown()`. -/
  | poolShutdown
  /-- `workerPool.Shutdown()` has returned. -/
  | poolDown
  /-- `batchProc.Stop()` has cancelled the context and waits. -/
  | stopping
  /-- `main` has returned. -/
  | exited
  deriving DecidableEq, Repr

/-- How far `main` has come. -/
def MainPc.stage : MainPc → Nat
  | .serving => 0
  | .httpDown => 1
  | .poolShutdown => 2
  | .poolDown => 3
  | .stopping => 4
  | .exited => 5

/-- The components that `main` connects. -/
structure Engine (Ev : Type) where
  /-- `workerPool` -/
  pool : Worker.Pool Ev
  /-- `batchProc` -/
  proc : Batch.Processor Ev
  /-- `main` -/
  main : MainPc
  /-- `httpServer.Shutdown` returned nil: every handler has returned. -/
  drained : Bool

/-- What an observer of the engine sees. -/
inductive Obs (Ev : Type) where
  /-- An observation of the pool. -/
  | pool (seen : Worker.Obs Ev)
  /-- An observation of the processor. -/
  | proc (seen : Batch.Obs Ev)
  deriving DecidableEq, Repr

/-- The steps of the engine. -/
inductive Act (Ev : Type) where
  /-- A step of the pool that is not one of those below. -/
  | pool (action : Worker.Act Ev)
  /-- A worker calls `batchProc.Submit`. -/
  | submit (worker : Nat)
  /-- A step of the processor that is not one of those around it. -/
  | proc (action : Batch.Act Ev)
  /-- `httpServer.Shutdown` returns nil, or times out. -/
  | httpDown (drained : Bool)
  /-- `main` calls `workerPool.Shutdown()`. -/
  | poolShutdown
  /-- `workerPool.Shutdown()` returns to `main`. -/
  | poolDown
  /-- `main` calls `batchProc.Stop()`, which cancels the context. -/
  | stop
  /-- `batchProc.Stop()` returns to `main`. -/
  | exit
  deriving DecidableEq, Repr

/-- The observation, if the pool made it. -/
def Obs.ofPool {Ev : Type} : Obs Ev → List (Worker.Obs Ev)
  | .pool seen => [seen]
  | .proc _ => []

/-- The observation, if the processor made it. -/
def Obs.ofProc {Ev : Type} : Obs Ev → List (Batch.Obs Ev)
  | .pool _ => []
  | .proc seen => [seen]

namespace Engine

variable {Ev : Type}

/-- A pool and a processor of any sizes, connected as `main` does it. -/
def assemble (numWorkers queueSize bufferSize threshold : Nat) : Engine Ev where
  pool := .start numWorkers queueSize
  proc := .start threshold bufferSize
  main := .serving
  drained := false

/-- `main` up to the start of the server. -/
def start (workerCount queueCap batchThreshold : Nat) : Engine Ev where
  pool := .start workerCount queueCap
  proc := .start batchThreshold (queueCap / 2)
  main := .serving
  drained := false

/-- The steps of the pool that are taken without the processor or `main`. Handlers start
until the server has shut down in time. -/
def allows (e : Engine Ev) : Worker.Act Ev → Bool
  | .submit _ _ | .callShutdown => false
  | .call _ => !e.drained
  | .caller _ _ | .select _ _ | .worker _ | .shutdown _ => true

/-- The event that a worker is about to submit. -/
def submitting (e : Engine Ev) (worker : Nat) : Option Ev :=
  match e.pool.workers[worker]? with
  | some (.received ev) | some (.rangeReceived ev) => some ev
  | _ => none

/-- One atomic step. -/
def step (e : Engine Ev) : Act Ev → Option (Engine Ev × List (Obs Ev))
  | .pool action =>
    if e.allows action then
      (e.pool.step action).map fun (pool, out) => ({ e with pool }, out.map .pool)
    else none
  | .submit worker =>
    match e.submitting worker with
    | some ev =>
      let (proc, accepted) := e.proc.submit ev
      (e.pool.submit worker accepted).map fun (pool, out) =>
        ({ e with pool, proc }, out.map .pool ++ [.proc (.submitted ev accepted)])
    | none => none
  | .proc action =>
    match action with
    | .submit _ | .cancel => none
    | _ => (e.proc.step action).map fun (proc, out) => ({ e with proc }, out.map .proc)
  | .httpDown drained =>
    if e.main = .serving ∧ (drained = true → ∀ caller ∈ e.pool.callers, caller.rest = []) then
      some ({ e with main := .httpDown, drained }, [])
    else none
  | .poolShutdown =>
    if e.main = .httpDown then
      (e.pool.step .callShutdown).map fun (pool, out) =>
        ({ e with pool, main := .poolShutdown }, out.map .pool)
    else none
  | .poolDown =>
    match e.pool.shutdowns with
    | [.returned _] =>
      if e.main = .poolShutdown then some ({ e with main := .poolDown }, []) else none
    | _ => none
  | .stop =>
    if e.main = .poolDown then
      some ({ e with proc := e.proc.cancel, main := .stopping }, [.proc .stopped])
    else none
  | .exit =>
    match e.proc.pc with
    | .returned => if e.main = .stopping then some ({ e with main := .exited }, []) else none
    | _ => none

end Engine

/-- The engine as a system. -/
def system (Ev : Type) : System (Engine Ev) (Act Ev) (Obs Ev) := ⟨Engine.step⟩

/-! ### Each component sees a run of its own -/

section Components

variable {Ev : Type} {numWorkers queueSize bufferSize threshold : Nat}

/-- `main` gives the processor half as much room as the queue. -/
theorem start_assembled (workerCount queueCap batchThreshold : Nat) :
    (.start workerCount queueCap batchThreshold : Engine Ev) =
      .assemble workerCount queueCap (queueCap / 2) batchThreshold := rfl

/-- What the pool shows of its own observations is all of them. -/
theorem ofPool_pool (out : List (Worker.Obs Ev)) : (out.map Obs.pool).flatMap Obs.ofPool = out := by
  induction out with
  | nil => rfl
  | cons first rest ih => rw [List.map_cons, List.flatMap_cons, ih]; rfl

/-- The processor shows nothing of the observations of the pool. -/
theorem ofProc_pool (out : List (Worker.Obs Ev)) : (out.map Obs.pool).flatMap Obs.ofProc = [] := by
  induction out with
  | nil => rfl
  | cons first rest ih => rw [List.map_cons, List.flatMap_cons, ih]; rfl

/-- What the processor shows of its own observations is all of them. -/
theorem ofProc_proc (out : List (Batch.Obs Ev)) : (out.map Obs.proc).flatMap Obs.ofProc = out := by
  induction out with
  | nil => rfl
  | cons first rest ih => rw [List.map_cons, List.flatMap_cons, ih]; rfl

/-- The pool shows nothing of the observations of the processor. -/
theorem ofPool_proc (out : List (Batch.Obs Ev)) : (out.map Obs.proc).flatMap Obs.ofPool = [] := by
  induction out with
  | nil => rfl
  | cons first rest ih => rw [List.map_cons, List.flatMap_cons, ih]; rfl

/-- Everything one step can do: which component moves, and how far `main` is. -/
inductive Step (e : Engine Ev) : Act Ev → Engine Ev → List (Obs Ev) → Prop where
  /-- The pool moves alone. -/
  | pool {action : Worker.Act Ev} {pool : Worker.Pool Ev} {out : List (Worker.Obs Ev)}
      (allowed : e.allows action = true) (moved : e.pool.step action = some (pool, out)) :
      Step e (.pool action) { e with pool } (out.map .pool)
  /-- A worker submits its event, and the processor answers. -/
  | submit {worker : Nat} {ev : Ev} {pool : Worker.Pool Ev} {out : List (Worker.Obs Ev)}
      (submitting : e.submitting worker = some ev)
      (moved : e.pool.step (.submit worker (e.proc.submit ev).2) = some (pool, out)) :
      Step e (.submit worker) { e with pool, proc := (e.proc.submit ev).1 }
        (out.map .pool ++ [.proc (.submitted ev (e.proc.submit ev).2)])
  /-- The processor moves alone. -/
  | proc {action : Batch.Act Ev} {proc : Batch.Processor Ev} {out : List (Batch.Obs Ev)}
      (alone : (∀ ev, action ≠ .submit ev) ∧ action ≠ .cancel)
      (moved : e.proc.step action = some (proc, out)) :
      Step e (.proc action) { e with proc } (out.map .proc)
  /-- The server has shut down. -/
  | httpDown {drained : Bool} (here : e.main = .serving)
      (idle : drained = true → ∀ caller ∈ e.pool.callers, caller.rest = []) :
      Step e (.httpDown drained) { e with main := .httpDown, drained } []
  /-- `main` shuts the pool down. -/
  | poolShutdown {pool : Worker.Pool Ev} {out : List (Worker.Obs Ev)} (here : e.main = .httpDown)
      (moved : e.pool.step .callShutdown = some (pool, out)) :
      Step e .poolShutdown { e with pool, main := .poolShutdown } (out.map .pool)
  /-- The pool is shut down. -/
  | poolDown {won : Bool} (here : e.main = .poolShutdown)
      (returned : e.pool.shutdowns = [.returned won]) :
      Step e .poolDown { e with main := .poolDown } []
  /-- `main` stops the processor. -/
  | stop (here : e.main = .poolDown) :
      Step e .stop { e with proc := e.proc.cancel, main := .stopping } [.proc .stopped]
  /-- `main` returns. -/
  | exit (here : e.main = .stopping) (returned : e.proc.pc = .returned) :
      Step e .exit { e with main := .exited } []

/-- `step` does nothing else. -/
theorem step_cases {e after : Engine Ev} {action : Act Ev} {out : List (Obs Ev)}
    (stepped : e.step action = some (after, out)) : Step e action after out := by
  cases action with
  | pool action =>
    simp only [Engine.step, Option.ite_none_right_eq_some, Option.map_eq_some_iff, Prod.mk.injEq,
      Prod.exists] at stepped
    obtain ⟨allowed, pool, out, moved, rfl, rfl⟩ := stepped
    exact .pool allowed moved
  | submit worker =>
    simp only [Engine.step] at stepped
    split at stepped
    · rename_i ev submitting
      simp only [Option.map_eq_some_iff, Prod.mk.injEq, Prod.exists] at stepped
      obtain ⟨pool, out, moved, rfl, rfl⟩ := stepped
      exact .submit submitting moved
    · contradiction
  | proc action =>
    simp only [Engine.step] at stepped
    split at stepped
    · contradiction
    · contradiction
    · rename_i notSubmit notCancel
      simp only [Option.map_eq_some_iff, Prod.mk.injEq, Prod.exists] at stepped
      obtain ⟨proc, out, moved, rfl, rfl⟩ := stepped
      exact .proc ⟨notSubmit, notCancel⟩ moved
  | httpDown drained =>
    simp only [Engine.step, Option.ite_none_right_eq_some, Option.some.injEq, Prod.mk.injEq]
      at stepped
    obtain ⟨⟨here, idle⟩, rfl, rfl⟩ := stepped
    exact .httpDown here idle
  | poolShutdown =>
    simp only [Engine.step, Option.ite_none_right_eq_some, Option.map_eq_some_iff, Prod.mk.injEq,
      Prod.exists] at stepped
    obtain ⟨here, pool, out, moved, rfl, rfl⟩ := stepped
    exact .poolShutdown here moved
  | poolDown =>
    simp only [Engine.step] at stepped
    split at stepped
    · rename_i won returned
      simp only [Option.ite_none_right_eq_some, Option.some.injEq, Prod.mk.injEq] at stepped
      obtain ⟨here, rfl, rfl⟩ := stepped
      exact .poolDown here returned
    · contradiction
  | stop =>
    simp only [Engine.step, Option.ite_none_right_eq_some, Option.some.injEq, Prod.mk.injEq]
      at stepped
    obtain ⟨here, rfl, rfl⟩ := stepped
    exact .stop here
  | exit =>
    simp only [Engine.step] at stepped
    split at stepped
    · rename_i returned
      simp only [Option.ite_none_right_eq_some, Option.some.injEq, Prod.mk.injEq] at stepped
      obtain ⟨here, rfl, rfl⟩ := stepped
      exact .exit here returned
    · contradiction

/-- A run of the engine is a run of its pool. -/
theorem run_pool {seen : List (Obs Ev)} {e : Engine Ev}
    (run : (system Ev).AnyRun (.assemble numWorkers queueSize bufferSize threshold) seen e) :
    (Worker.system Ev).AnyRun (.start numWorkers queueSize) (seen.flatMap Obs.ofPool) e.pool := by
  refine run.project Engine.pool Obs.ofPool ?_
  intro seen e action after out _ _ stepped
  cases step_cases stepped with
  | pool _ moved =>
    rw [ofPool_pool]
    exact .inr ⟨_, trivial, moved⟩
  | @submit worker ev _ _ _ moved =>
    have shown (seen : Batch.Obs Ev) : (Obs.proc seen).ofPool = [] := rfl
    rw [List.flatMap_append, ofPool_pool, List.flatMap_singleton, shown, List.append_nil]
    exact .inr ⟨.submit worker (e.proc.submit ev).2, trivial, moved⟩
  | poolShutdown _ moved =>
    rw [ofPool_pool]
    exact .inr ⟨.callShutdown, trivial, moved⟩
  | proc _ moved => exact .inl ⟨rfl, ofPool_proc _⟩
  | httpDown | poolDown | stop | exit => exact .inl ⟨rfl, rfl⟩

/-- A run of the engine is a run of its processor. -/
theorem run_proc {seen : List (Obs Ev)} {e : Engine Ev}
    (run : (system Ev).AnyRun (.assemble numWorkers queueSize bufferSize threshold) seen e) :
    (Batch.system Ev).AnyRun (.start threshold bufferSize) (seen.flatMap Obs.ofProc) e.proc := by
  refine run.project Engine.proc Obs.ofProc ?_
  intro seen e action after out _ _ stepped
  cases step_cases stepped with
  | pool _ moved | poolShutdown _ moved => exact .inl ⟨rfl, ofProc_pool _⟩
  | submit _ moved =>
    rw [List.flatMap_append, ofProc_pool, List.flatMap_singleton]
    exact .inr ⟨.submit _, trivial, rfl⟩
  | proc _ moved =>
    rw [ofProc_proc]
    exact .inr ⟨_, trivial, moved⟩
  | stop => exact .inr ⟨.cancel, trivial, rfl⟩
  | httpDown | poolDown | exit => exact .inl ⟨rfl, rfl⟩

end Components

end IngestionEngine
