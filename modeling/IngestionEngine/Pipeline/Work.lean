import IngestionEngine.Systems.Settling
import IngestionEngine.Batch.Stop
import IngestionEngine.Pipeline.ZeroDrop
import IngestionEngine.Worker.Callers

/-!
# How much work is in progress

What each goroutine of the engine has still to do, counted in its own steps and with what it
leaves to the next one: an event on its way through `taskCh` costs more than it will cost in
`inCh`. Every step but a new request, a tick, the start of a `Metrics` call and the return of
`httpServer.Shutdown` leaves less work than there was.
-/

namespace IngestionEngine

open Systems

variable {Ev : Type}

namespace Worker

/-- The work of a worker; the event in its hand may cost eight more steps once it is submitted. -/
def WorkerPc.work : WorkerPc Ev → Nat
  | .received _ => 13
  | .rangeReceived _ => 11
  | .counting _ => 4
  | .select => 3
  | .parked | .rangeCounting => 2
  | .ranging => 1
  | .done => 0

/-- The work of a caller of `EnqueueBatch`. -/
def Caller.work (caller : Caller Ev) : Nat :=
  match caller.pc with
  | .check => 14 * caller.rest.length
  | .send => 14 * caller.rest.length - 1
  | .sent | .refused => 14 * caller.rest.length - 13
  | .panicked => 0

/-- The work of a caller of `Shutdown`. -/
def ShutdownPc.work : ShutdownPc → Nat
  | .cas => 4
  | .closing => 3
  | .cancelling => 2
  | .waiting => 1
  | .returned _ => 0

namespace Pool

/-- The work of the goroutines of the pool, and what they leave to the processor. -/
def work (p : Pool Ev) : Nat :=
  total Caller.work p.callers + 11 * p.taskCh.queue.length + total WorkerPc.work p.workers +
    total ShutdownPc.work p.shutdowns

variable {p after : Pool Ev} {index : Nat} {action : Act Ev} {out : List (Obs Ev)}

/-- A caller that pays for what it adds to the channel and to the workers does some of the work. -/
theorem caller_work {caller new : Caller Ev} (running : p.callers[index]? = some caller)
    (callers : after.callers = p.callers.set index new) (shutdowns : after.shutdowns = p.shutdowns)
    (paid : new.work + 11 * after.taskCh.queue.length + total WorkerPc.work after.workers <
      caller.work + 11 * p.taskCh.queue.length + total WorkerPc.work p.workers) :
    after.work < p.work := by
  have traded := total_set Caller.work running new
  rw [work, work, callers, shutdowns]
  omega

/-- A step of a caller of `Enqueue` does some of the work. -/
theorem enqueue_work (moved : Enqueue p index after out) : after.work < p.work := by
  cases moved with
  | @shut caller ev rest running current here | @drop caller ev rest running current here =>
    have left : caller.lost.work < caller.work := by
      simp only [Caller.work, Caller.lost, current, here, List.tail_cons, List.length_cons]
      omega
    exact caller_work running rfl rfl (by simpa using left)
  | @accept caller ev rest running current here =>
    have left : caller.kept.work < caller.work := by
      simp only [Caller.work, Caller.kept, current, here, List.tail_cons, List.length_cons]
      omega
    exact caller_work running rfl rfl (by simpa using left)
  | @load caller ev rest running current here | @panic caller ev rest running current here
  | @refuse caller ev rest running current here =>
    refine caller_work running rfl rfl ?_
    simp only [Caller.work, current, here, List.length_cons]
    omega
  | @meet caller ev rest worker running current here opened waiting =>
    have woken := total_set WorkerPc.work waiting (.received ev)
    refine caller_work running rfl rfl ?_
    simp only [Caller.work, WorkerPc.work, current, here, List.length_cons] at woken ⊢
    omega
  | @queue caller ev rest taskCh running current here opened busy room sent same =>
    refine caller_work running rfl rfl ?_
    simp only [Caller.work, current, here, sent, List.length_append, List.length_cons,
      List.length_nil]
    omega

/-- A worker with less work, on its own and in the channel, has done some of it. -/
theorem worker_work {old new : WorkerPc Ev} (running : p.workers[index]? = some old)
    (workers : after.workers = p.workers.set index new) (callers : after.callers = p.callers)
    (shutdowns : after.shutdowns = p.shutdowns)
    (paid : new.work + 11 * after.taskCh.queue.length < old.work + 11 * p.taskCh.queue.length) :
    after.work < p.work := by
  have traded := total_set WorkerPc.work running new
  rw [work, work, workers, callers, shutdowns]
  omega

/-- A step of a worker does some of the work. -/
theorem work_work (moved : Work p index after out) : after.work < p.work := by
  cases moved with
  | @cancelled pc running here =>
    refine worker_work running rfl rfl rfl ?_
    rcases here with rfl | rfl <;> simp only [WorkerPc.work] <;> omega
  | @finish pc running here closed empty =>
    refine worker_work running rfl rfl rfl ?_
    rcases here with rfl | rfl <;> simp only [WorkerPc.work] <;> omega
  | receive running front | drain running front =>
    refine worker_work running rfl rfl rfl ?_
    simp only [WorkerPc.work, front, List.length_cons]
    omega
  | woken running | block running | count running | lose running | countDrained running =>
    refine worker_work running rfl rfl rfl ?_
    simp only [WorkerPc.work]
    omega

/-- A `Submit` pays for the event that it may leave to the processor. -/
theorem submit_work {accepted : Bool} (moved : Submit p index accepted after out) :
    after.work + 9 ≤ p.work := by
  have paid {old new : WorkerPc Ev} (running : p.workers[index]? = some old)
      (less : new.work + 9 ≤ old.work) :
      Pool.work { p with workers := p.workers.set index new } + 9 ≤ p.work := by
    have traded := total_set WorkerPc.work running new
    simp only [work]
    omega
  cases moved with
  | returns running => exact paid running (Nat.le_refl 13)
  | returnsDrained running => exact paid running (Nat.le_refl 11)

/-- A step of a caller of `Shutdown` does some of the work. -/
theorem shutdown_work (moved : Shutdown p index after out) : after.work < p.work := by
  have paid {old new : ShutdownPc} (running : p.shutdowns[index]? = some old)
      (callers : after.callers = p.callers) (queue : after.taskCh = p.taskCh)
      (workers : after.workers = p.workers)
      (shutdowns : after.shutdowns = p.shutdowns.set index new)
      (less : new.work < old.work) : after.work < p.work := by
    have traded := total_set ShutdownPc.work running new
    rw [work, work, callers, queue, workers, shutdowns]
    omega
  cases moved with
  | lose running | win running | close running | cancel running | finish running =>
    exact paid running rfl rfl rfl rfl (by decide)

/-- Every step of the pool does some of the work, except a new call. -/
theorem step_work (called : ∀ events, action ≠ .call events) (shut : action ≠ .callShutdown)
    (stepped : p.step action = some (after, out)) : after.work < p.work := by
  cases step_cases stepped with
  | call events => exact absurd rfl (called events)
  | callShutdown => exact absurd rfl shut
  | caller moved => exact enqueue_work moved
  | select moved | worker moved => exact work_work moved
  | submit moved =>
    have paid := submit_work moved
    omega
  | shutdown moved => exact shutdown_work moved

/-- The events that the callers have not answered for. -/
def requested (p : Pool Ev) : Nat := total (fun caller => caller.rest.length) p.callers

/-- The callers have no more work than their events make. -/
theorem callers_work_le (callers : List (Caller Ev)) :
    total Caller.work callers ≤ 14 * total (fun caller => caller.rest.length) callers := by
  induction callers with
  | nil => exact Nat.le_refl 0
  | cons first rest ih =>
    have one : first.work ≤ 14 * first.rest.length := by
      unfold Caller.work
      split <;> omega
    simp only [total_cons]
    omega

/-- A worker has at most the work of an event that it has received. -/
theorem workers_work_le (workers : List (WorkerPc Ev)) :
    total WorkerPc.work workers ≤ 13 * workers.length := by
  induction workers with
  | nil => exact Nat.le_refl 0
  | cons first rest ih =>
    have one : first.work ≤ 13 := by cases first <;> simp [WorkerPc.work]
    simp only [total_cons, List.length_cons]
    omega

end Pool

end Worker

namespace Batch

/-- The work of the batch goroutine. -/
def LoopPc.work : LoopPc Ev → Nat
  | .parked => 9
  | pc => pc.rank

/-- Where the goroutine is not blocked, its work is its distance from the return of `run`. -/
theorem LoopPc.work_eq {pc : LoopPc Ev} (awake : pc ≠ .parked) : pc.work = pc.rank := by
  cases pc with
  | parked => exact absurd rfl awake
  | _ => rfl

namespace Processor

/-- The work of the batch goroutine and of a `Metrics` call, with what waits in the channels. -/
def work (p : Processor Ev) : Nat :=
  p.pc.work + 8 * p.inCh.queue.length + 8 * p.tickerC.toNat +
    if p.mu = some .metrics then 1 else 0

variable {p after : Processor Ev} {action : Act Ev} {out : List (Obs Ev)}

/-- A statement of the goroutine does some of the work. -/
theorem advance_work (moved : Advance p after out) : after.work < p.work := by
  cases moved with
  | @lock pc free entered =>
    have lower := afterLock_rank entered
    have awake : p.pc ≠ .parked := by
      intro parked
      simp [parked, LoopPc.afterLock] at entered
    simp only [work, LoopPc.work_eq (afterLock_parked entered), LoopPc.work_eq awake, free,
      Option.some.injEq, reduceCtorEq, if_false]
    omega
  | drain here received =>
    simp only [work, LoopPc.work, LoopPc.rank, here, received, List.length_cons]
    omega
  | @skip reason here | @stamp reason here | @call reason events here
  | @count reason events here =>
    cases reason <;> simp [work, LoopPc.work, LoopPc.rank, Reason.resume, here] <;> omega
  | fill here | append here | expire here | expireIdle here | drainStop here | last here
  | lastIdle here | finish here =>
    simp [work, LoopPc.work, LoopPc.rank, here] <;> omega

/-- Every step of the processor by itself does some of the work, except a tick and the start of a
`Metrics` call. -/
theorem step_work (alone : (∀ ev, action ≠ .submit ev) ∧ action ≠ .cancel) (tick : action ≠ .tick)
    (lock : action ≠ .metricsLock) (stepped : p.step action = some (after, out)) :
    after.work < p.work := by
  cases step_cases stepped with
  | submit => exact absurd rfl (alone.1 _)
  | cancelWakes | cancelWaits => exact absurd rfl alone.2
  | tickWakes | tickWaits => exact absurd rfl tick
  | metricsLock => exact absurd rfl lock
  | metricsUnlock owned =>
    simp only [work, owned, if_true, reduceCtorEq, if_false]
    omega
  | select here moved =>
    cases moved with
    | receive front =>
      simp only [work, LoopPc.work, LoopPc.rank, here, front, List.length_cons]
      omega
    | done | block => simp [work, LoopPc.work, LoopPc.rank, here]
    | ticker fired =>
      simp [work, LoopPc.work, LoopPc.rank, here, fired]
      omega
  | advance moved => exact advance_work moved
  | @flushStored reason events here | @flushFailed reason events here =>
    cases reason <;> simp [work, LoopPc.work, LoopPc.rank, Reason.resume, here]

/-- A `Submit` leaves at most the work of one more event. -/
theorem submit_work {ev : Ev} {accepted : Bool} (moved : Submit p ev after accepted) :
    after.work ≤ p.work + 8 := by
  cases moved with
  | meet waiting =>
    simp only [work, LoopPc.work, LoopPc.rank, waiting]
    omega
  | queue running room sent =>
    simp only [work, sent, List.length_append, List.length_singleton]
    omega
  | refuse => omega

/-- The cancel of the context leaves no more work. -/
theorem cancel_work (p : Processor Ev) : p.cancel.work ≤ p.work := by
  unfold cancel
  split
  · rename_i waiting
    simp [work, LoopPc.work, LoopPc.rank, waiting]
  · exact Nat.le_refl _

/-- The batch goroutine has at most the work of an event or a tick in its hand, one more tick and
what is in the channel, and there is at most one `Metrics` call in its critical section. -/
theorem work_le (p : Processor Ev) : p.work ≤ 8 * p.inCh.queue.length + 26 := by
  have loop : p.pc.work ≤ 17 := by
    cases p.pc with
    | doFlush reason | flushing reason | committed reason | stamping reason | stamped reason =>
      cases reason <;> simp [LoopPc.work, LoopPc.rank]
    | _ => simp [LoopPc.work, LoopPc.rank]
  have ticks : p.tickerC.toNat ≤ 1 := Bool.toNat_le _
  unfold work
  split <;> omega

end Processor

end Batch

/-- The work of `main`; once `httpServer.Shutdown` has returned it calls `Shutdown`. -/
def MainPc.work : MainPc → Nat
  | .httpDown => 8
  | .poolShutdown => 3
  | .poolDown => 2
  | .stopping => 1
  | .serving | .exited => 0

/-- The step is none of a new request, a tick, the start of a `Metrics` call and the return of
`httpServer.Shutdown`. -/
def Act.inner : Act Ev → Bool
  | .pool (.call _) | .proc .tick | .proc .metricsLock | .httpDown _ => false
  | .pool _ | .submit _ | .proc _ | .poolShutdown | .poolDown | .stop | .exit => true

/-- The engine is left to itself. -/
def Inner (_ : Engine Ev) (action : Act Ev) : Prop := action.inner = true

instance (e : Engine Ev) (action : Act Ev) : Decidable (Inner e action) :=
  inferInstanceAs (Decidable (action.inner = true))

/-- The work of the engine. -/
def Engine.work (e : Engine Ev) : Nat := e.pool.work + e.proc.work + e.main.work

/-- An engine that is left to itself does some of its work in each step. -/
theorem ranked : (system Ev).Ranked Inner Engine.work := by
  intro e action after out inner stepped
  cases step_cases stepped with
  | @pool action pool out allowed moved =>
    have shut : action ≠ .callShutdown := by
      rintro rfl
      simp [Engine.allows] at allowed
    have called : ∀ events, action ≠ .call events := by
      rintro events rfl
      simp [Inner, Act.inner] at inner
    have less : pool.work < e.pool.work := Worker.Pool.step_work called shut moved
    simp only [Engine.work]
    omega
  | @submit worker ev pool out submitting moved =>
    have paid := Worker.Pool.submit_work (Worker.Pool.submit_cases moved)
    have more : (e.proc.submit ev).1.work ≤ e.proc.work + 8 :=
      Batch.Processor.submit_work (Batch.Processor.submit_cases rfl)
    simp only [Engine.work]
    omega
  | @proc action proc out alone moved =>
    have tick : action ≠ .tick := by
      rintro rfl
      simp [Inner, Act.inner] at inner
    have lock : action ≠ .metricsLock := by
      rintro rfl
      simp [Inner, Act.inner] at inner
    have less : proc.work < e.proc.work := Batch.Processor.step_work alone tick lock moved
    simp only [Engine.work]
    omega
  | httpDown => simp [Inner, Act.inner] at inner
  | @poolShutdown pool out here moved =>
    obtain ⟨rfl, rfl⟩ := moved
    simp only [Engine.work, Worker.Pool.work, Worker.ShutdownPc.work, MainPc.work, here,
      total_append, total_cons, total_nil]
    omega
  | poolDown here =>
    simp only [Engine.work, MainPc.work, here]
    omega
  | stop here =>
    have less := e.proc.cancel_work
    simp only [Engine.work, MainPc.work, here]
    omega
  | exit here =>
    simp only [Engine.work, MainPc.work, here]
    omega

end IngestionEngine
