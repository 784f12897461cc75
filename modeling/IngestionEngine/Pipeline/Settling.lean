import IngestionEngine.Batch.Memory
import IngestionEngine.Pipeline.Work
import IngestionEngine.Worker.Drain

/-!
# The engine comes to rest

An engine that is left to itself takes no more steps than its work allows. Where it stops, either
it waits for requests with everything behind it and less than a batch in its buffer, or `main` has
shut it down; a `Stop` that waits for a batch goroutine which waits for itself is the one other
end of a shutdown.
-/

namespace IngestionEngine

open Systems

variable {Ev : Type}

namespace Worker

/-- The worker is in the loop that drains after a cancel. -/
def WorkerPc.ranges : WorkerPc Ev → Bool
  | .ranging | .rangeReceived _ | .rangeCounting => true
  | .select | .parked | .received _ | .counting _ | .done => false

namespace Pool

variable {p after : Pool Ev} {action : Act Ev} {out : List (Obs Ev)}

/-- A cancelled context stays cancelled. -/
theorem step_cancelled (cancelled : p.ctxDone = true)
    (stepped : p.step action = some (after, out)) : after.ctxDone = true := by
  cases step_cases stepped with
  | call | callShutdown => exact cancelled
  | caller moved => exact (enqueue_frame moved).2.2.2.1.trans cancelled
  | select moved | worker moved => exact (work_frame moved).2.2.2.1.trans cancelled
  | submit moved => exact (submit_frame moved).1.2.2.2.1.trans cancelled
  | shutdown moved =>
    cases moved with
    | cancel => rfl
    | lose | win | close | finish => exact cancelled

/-- Workers drain only once the context is cancelled. -/
def RangesInv (p : Pool Ev) : Prop := ∀ worker ∈ p.workers, worker.ranges = true → p.ctxDone = true

/-- Every step keeps to that. -/
theorem step_ranges (inv : p.RangesInv) (stepped : p.step action = some (after, out)) :
    after.RangesInv := by
  have old (worker : WorkerPc Ev) (member : worker ∈ p.workers) (ranges : worker.ranges = true) :
      after.ctxDone = true := step_cancelled (inv worker member ranges) stepped
  cases step_cases stepped with
  | call | callShutdown => exact old
  | caller moved =>
    cases moved with
    | meet => exact forall_mem_set old (by intro ranges; contradiction)
    | shut | load | panic | queue | refuse | accept | drop => exact old
  | select moved | worker moved =>
    cases moved with
    | cancelled running here cancelled => exact forall_mem_set old fun _ => cancelled
    | drain running | countDrained running =>
      have cancelled : p.ctxDone = true := inv _ (List.mem_of_getElem? running) rfl
      exact forall_mem_set old fun _ => cancelled
    | receive | finish | woken | block | count | lose =>
      exact forall_mem_set old (by intro ranges; contradiction)
  | submit moved =>
    cases moved with
    | returns => exact forall_mem_set old (by intro ranges; contradiction)
    | returnsDrained running =>
      have cancelled : p.ctxDone = true := inv _ (List.mem_of_getElem? running) rfl
      exact forall_mem_set old fun _ => cancelled
  | shutdown moved => cases moved <;> exact old

/-- Only a new call changes how many calls of `Shutdown` there have been. -/
theorem step_shutdowns (shut : action ≠ .callShutdown)
    (stepped : p.step action = some (after, out)) :
    after.shutdowns.length = p.shutdowns.length := by
  cases step_cases stepped with
  | callShutdown => exact absurd rfl shut
  | call => rfl
  | caller moved => rw [(enqueue_frame moved).1]
  | select moved | worker moved => rw [(work_frame moved).1]
  | submit moved => rw [(submit_frame moved).1.1]
  | shutdown moved => cases moved <;> exact List.length_set

/-- The call of `Shutdown` that cancels the context has closed the channel. -/
theorem ClosingInv.closes {seen : List (Obs Ev)} (inv : p.ClosingInv seen)
    (cancelled : p.ctxDone = true) : p.closed = true := by
  have below : total ShutdownPc.hasCancelled p.shutdowns ≤ total ShutdownPc.hasClosed p.shutdowns :=
    total_le cancelled_le_closed
  rw [inv.cancelled, inv.closed, cancelled] at below
  exact set_of_counted below

end Pool

/-- In every run workers drain only once the context is cancelled. -/
theorem run_ranges {numWorkers queueSize : Nat} {guard : Pool Ev → Act Ev → Prop}
    {seen : List (Obs Ev)} {p : Pool Ev}
    (run : (system Ev).Run guard (.start numWorkers queueSize) seen p) : p.RangesInv := by
  apply run.state_invariant Pool.RangesInv
  · intro worker member ranges
    rw [List.eq_of_mem_replicate member] at ranges
    contradiction
  · intro p action after out inv _ stepped
    exact Pool.step_ranges inv stepped

end Worker

namespace Batch.Processor

variable {p after : Processor Ev} {action : Act Ev} {out : List (Obs Ev)}

/-- A cancelled context stays cancelled. -/
theorem step_cancelled (cancelled : p.ctxDone = true)
    (stepped : p.step action = some (after, out)) : after.ctxDone = true := by
  cases step_cases stepped with
  | submit moved | select _ moved | advance moved => cases moved <;> exact cancelled
  | cancelWakes | cancelWaits => rfl
  | tickWakes | tickWaits | metricsLock | metricsUnlock | flushStored | flushFailed =>
    exact cancelled

/-- A batch goroutine that neither waits for an event nor for itself, and has not returned, can
take its next step, unless a `Metrics` call is in its critical section. -/
theorem loop_moves (unread : p.mu ≠ some .metrics) (unlocked : ¬ p.SelfLock)
    (awake : p.pc ≠ .parked) (unfinished : p.pc ≠ .returned) :
    ∃ action, Act.ofLoop action = true ∧ (p.step action).isSome = true := by
  have locking {pc : LoopPc Ev} (entered : p.pc.afterLock = some pc) : p.mu = none := by
    have unowned : p.mu ≠ some .loop := by
      intro owned
      exact unlocked ⟨by simp [entered], owned⟩
    cases held : p.mu with
    | none => rfl
    | some holder =>
      cases holder with
      | loop => exact absurd held unowned
      | metrics => exact absurd held unread
  cases here : p.pc with
  | parked => exact absurd here awake
  | returned => exact absurd here unfinished
  | select =>
    by_cases cancelled : p.ctxDone = true
    · exact ⟨.select .done, rfl, by simp [step, select, here, cancelled]⟩
    · by_cases fired : p.tickerC = true
      · exact ⟨.select .ticker, rfl, by simp [step, select, here, fired]⟩
      · cases received : p.inCh.tryReceive with
        | some front => exact ⟨.select .inCh, rfl, by simp [step, select, here, received]⟩
        | none =>
          have empty : p.inCh.queue = [] := Channel.tryReceive_none.mp received
          exact ⟨.select .block, rfl, by simp_all [step, select]⟩
  | flushing reason events =>
    exact ⟨.flushReturns true, rfl, by simp [step, flushReturns, here]⟩
  | received ev | ticked | cancelled | stamping reason =>
    have free : p.mu = none := locking (by rw [here]; rfl)
    exact ⟨.advance, rfl, by simp [step, advance, here, lock, free]⟩
  | draining =>
    refine ⟨.advance, rfl, ?_⟩
    cases received : p.inCh.tryReceive <;> simp [step, advance, here, received]
  | appending ev | checking | drained | doFlush reason events =>
    refine ⟨.advance, rfl, ?_⟩
    simp only [step, advance, here]
    split <;> rfl
  | committed | stamped | unlocking =>
    exact ⟨.advance, rfl, by simp only [step, advance, here, Option.isSome_some]⟩

end Batch.Processor

/-! ### What `main` has called -/

/-- How far `main` has come shows in the pool and in the processor. -/
structure MainInv (e : Engine Ev) : Prop where
  /-- Only `main` calls `Shutdown`, and once. -/
  shutdowns : e.pool.shutdowns.length = if 2 ≤ e.main.stage then 1 else 0
  /-- `Stop` cancels the context. -/
  cancelled : 4 ≤ e.main.stage → e.proc.ctxDone = true

/-- The call of `Shutdown` is part of the work that `main` had before it. -/
theorem MainInv.shutdowns_work {e : Engine Ev} (inv : MainInv e) :
    total Worker.ShutdownPc.work e.pool.shutdowns + e.main.work ≤ 8 := by
  have calls := inv.shutdowns
  by_cases called : 2 ≤ e.main.stage
  · rw [if_pos called] at calls
    obtain ⟨caller, one⟩ := List.length_eq_one_iff.mp calls
    have call : caller.work ≤ 4 := by cases caller <;> simp [Worker.ShutdownPc.work]
    have later : e.main.work ≤ 3 := by
      cases here : e.main <;> simp [here, MainPc.stage, MainPc.work] at called ⊢
    simp only [one, total_cons, total_nil]
    omega
  · rw [if_neg called, List.length_eq_zero_iff] at calls
    have most : e.main.work ≤ 8 := by cases e.main <;> decide
    simp only [calls, total_nil]
    omega

/-- Every step keeps to that. -/
theorem step_main {e after : Engine Ev} {action : Act Ev} {out : List (Obs Ev)} (inv : MainInv e)
    (stepped : e.step action = some (after, out)) : MainInv after := by
  obtain ⟨shutdowns, cancelled⟩ := inv
  cases step_cases stepped with
  | @pool action pool out allowed moved =>
    have shut : action ≠ .callShutdown := by
      rintro rfl
      simp [Engine.allows] at allowed
    exact ⟨(Worker.Pool.step_shutdowns shut moved).trans shutdowns, cancelled⟩
  | @submit worker ev pool out submitting moved =>
    have same := Worker.Pool.step_shutdowns (by simp) moved
    have submitted : e.proc.step (.submit ev) = some ((e.proc.submit ev).1, _) := rfl
    exact ⟨same.trans shutdowns, fun far =>
      Batch.Processor.step_cancelled (cancelled far) submitted⟩
  | proc alone moved =>
    exact ⟨shutdowns, fun far => Batch.Processor.step_cancelled (cancelled far) moved⟩
  | httpDown here =>
    exact ⟨by simpa [here, MainPc.stage] using shutdowns, by simp [MainPc.stage]⟩
  | poolShutdown here moved =>
    obtain ⟨rfl, rfl⟩ := moved
    refine ⟨?_, by simp [MainPc.stage]⟩
    simpa [here, MainPc.stage] using shutdowns
  | poolDown here =>
    exact ⟨by simpa [here, MainPc.stage] using shutdowns, by simp [MainPc.stage]⟩
  | stop here =>
    refine ⟨by simpa [here, MainPc.stage] using shutdowns, fun _ => ?_⟩
    unfold Batch.Processor.cancel
    split <;> rfl
  | exit here =>
    refine ⟨by simpa [here, MainPc.stage] using shutdowns, fun _ => cancelled ?_⟩
    simp [here, MainPc.stage]

/-- In every run `main` has called what it has come to. -/
theorem run_main {numWorkers queueSize bufferSize threshold : Nat} {seen : List (Obs Ev)}
    {e : Engine Ev}
    (run : (system Ev).AnyRun (.assemble numWorkers queueSize bufferSize threshold) seen e) :
    MainInv e := by
  apply run.state_invariant MainInv
  · exact ⟨rfl, by simp [Engine.assemble, MainPc.stage]⟩
  · intro e action after out inv _ stepped
    exact step_main inv stepped

/-! ### Engines that stand still -/

/-- The step is taken by the goroutine of a request. -/
def Act.ofRequest : Act Ev → Bool
  | .pool (.call _) | .pool (.caller _ _) | .proc .metricsLock | .proc .metricsUnlock => true
  | .pool _ | .submit _ | .proc _ | .httpDown _ | .poolShutdown | .poolDown | .stop | .exit => false

/-- Nothing moves in the engine. -/
structure Engine.Still (e : Engine Ev) : Prop where
  /-- Its own goroutines have no step left. -/
  quiet : ∀ action, Act.inner action = true → action.ofRequest = false → e.step action = none
  /-- Every caller of `EnqueueBatch` has all its answers, or has panicked. -/
  answered : ∀ caller ∈ e.pool.callers, caller.rest = [] ∨ caller.pc = .panicked
  /-- No `Metrics` call is in its critical section. -/
  unread : e.proc.mu ≠ some .metrics

/-- An engine that has settled stands still. -/
theorem settled_still {e : Engine Ev} (settled : (system Ev).Settled Inner e) : e.Still where
  quiet action inner _ := settled action inner
  answered := by
    intro caller member
    by_contra! moving
    obtain ⟨index, running⟩ := List.getElem?_of_mem member
    obtain ⟨waiter, moves⟩ := Worker.Pool.enqueue_enabled running moving.1 moving.2
    have stays := settled (.pool (.caller index waiter)) rfl
    simp only [system, Engine.step, Engine.allows, if_true, Worker.Pool.step,
      Option.map_eq_none_iff] at stays
    rw [stays] at moves
    contradiction
  unread := by
    intro reading
    have stays := settled (.proc .metricsUnlock) rfl
    simp [system, Engine.step, Batch.Processor.step, reading] at stays

section Still

variable {e : Engine Ev} (still : e.Still)

include still

/-- No step of the batch goroutine is left. -/
theorem still_proc (action : Batch.Act Ev) (own : action.ofLoop = true) :
    e.proc.step action = none := by
  have inner : (Act.proc action).inner = true := by cases action <;> first | rfl | contradiction
  have other : (Act.proc action).ofRequest = false := by
    cases action <;> first | rfl | contradiction
  have stays := still.quiet (.proc action) inner other
  cases action with
  | submit | tick | cancel | metricsLock | metricsUnlock => contradiction
  | select | advance | flushReturns =>
    simpa only [Engine.step, Option.map_eq_none_iff] using stays

/-- No step of the pool by itself is left. -/
theorem still_pool (action : Worker.Act Ev) (other : (Act.pool action).ofRequest = false)
    (allowed : e.allows action = true) : e.pool.step action = none := by
  have inner : (Act.pool action).inner = true := by cases action <;> first | rfl | contradiction
  have stays := still.quiet (.pool action) inner other
  simpa only [Engine.step, allowed, if_true, Option.map_eq_none_iff] using stays

/-- The batch goroutine waits for an event, or for itself, or has returned. -/
theorem still_loop : e.proc.pc = .parked ∨ e.proc.pc = .returned ∨ e.proc.SelfLock := by
  by_contra! moving
  obtain ⟨awake, unfinished, unlocked⟩ := moving
  obtain ⟨action, own, moves⟩ :=
    Batch.Processor.loop_moves still.unread unlocked awake unfinished
  rw [still_proc still action own] at moves
  contradiction

/-- Every worker waits for an event on the open channel, or has returned. -/
theorem still_workers {seen : List (Worker.Obs Ev)} (closing : e.pool.ClosingInv seen)
    (ranges : e.pool.RangesInv) {worker : Worker.WorkerPc Ev} (member : worker ∈ e.pool.workers) :
    worker = .parked ∧ e.pool.closed = false ∨ worker = .done := by
  obtain ⟨index, running⟩ := List.getElem?_of_mem member
  have select (chosen : Worker.SelectCase) : e.pool.select index chosen = none :=
    still_pool still (.select index chosen) rfl rfl
  have advance : e.pool.advance index = none := still_pool still (.worker index) rfl rfl
  cases worker with
  | done => exact .inr rfl
  | parked =>
    have stays := select .taskCh
    simp only [Worker.Pool.select, running] at stays
    exact .inl ⟨rfl, by simpa using stays⟩
  | select =>
    have first := select .done
    have second := select .taskCh
    have third := select .block
    simp only [Worker.Pool.select, running] at first second third
    cases received : e.pool.taskCh.tryReceive with
    | some front => simp [received] at second
    | none =>
      have empty : e.pool.taskCh.queue = [] := Channel.tryReceive_none.mp received
      simp_all
  | received ev | rangeReceived ev =>
    have stays := still.quiet (.submit index) rfl rfl
    simp only [Engine.step, Engine.submitting, running, Worker.Pool.submit] at stays
    contradiction
  | counting accepted =>
    cases accepted <;> simp [Worker.Pool.advance, running] at advance
  | ranging =>
    have cancelled : e.pool.ctxDone = true := ranges _ member rfl
    have closed : e.pool.closed = true := closing.closes cancelled
    simp only [Worker.Pool.advance, running, closed, if_true] at advance
    split at advance <;> contradiction
  | rangeCounting => simp [Worker.Pool.advance, running] at advance

end Still

/-! ### Where an engine comes to rest -/

/-- The engine waits for requests. -/
structure Engine.Waiting (threshold : Nat) (e : Engine Ev) : Prop where
  /-- The server serves. -/
  serving : e.main = .serving
  /-- Every request has all its answers. -/
  answered : ∀ caller ∈ e.pool.callers, caller.rest = []
  /-- Every worker waits for an event. -/
  workers : ∀ worker ∈ e.pool.workers, worker = .parked
  /-- The batch goroutine waits for an event or a tick. -/
  loop : e.proc.pc = .parked
  /-- The next batch is not complete. -/
  buffered : e.proc.buffer.length < threshold

instance [DecidableEq Ev] (threshold : Nat) (e : Engine Ev) : Decidable (e.Waiting threshold) :=
  decidable_of_iff
    (e.main = .serving ∧ (∀ caller ∈ e.pool.callers, caller.rest = []) ∧
      (∀ worker ∈ e.pool.workers, worker = .parked) ∧ e.proc.pc = .parked ∧
      e.proc.buffer.length < threshold)
    ⟨fun held => ⟨held.1, held.2.1, held.2.2.1, held.2.2.2.1, held.2.2.2.2⟩,
    fun waiting => ⟨waiting.serving, waiting.answered, waiting.workers, waiting.loop,
      waiting.buffered⟩⟩

/-- The engine has been shut down. -/
structure Engine.Ended (e : Engine Ev) : Prop where
  /-- `main` has returned, or waits in `Stop` for a goroutine that waits for itself. -/
  stopped : e.main = .exited ∨ e.main = .stopping ∧ e.proc.SelfLock
  /-- Every worker has returned. -/
  workers : ∀ worker ∈ e.pool.workers, worker = .done
  /-- The last batch has been passed on. -/
  buffered : e.proc.buffer = []

/-- Nothing is on its way through the engine. -/
structure Resting (threshold : Nat) (seen : List (Obs Ev)) (e : Engine Ev) : Prop where
  /-- The engine waits for requests, or has been shut down. -/
  place : e.Waiting threshold ∨ e.Ended
  /-- The queue of the pool is empty. -/
  queue : e.pool.taskCh.queue = []
  /-- The channel of the processor is empty. -/
  inbound : e.proc.inCh.queue = []
  /-- Each event whose `Enqueue` returned nil was passed to `FlushBatch`, is in the buffer, or was
  refused by `Submit`. -/
  delivered : (enqueuedNil seen : Multiset Ev) =
    ↑(handedToFlush seen) + ↑e.proc.buffer + ↑(refusedBySubmit seen)

section Rest

variable {workerCount queueCap batchThreshold : Nat} {seen : List (Obs Ev)} {e : Engine Ev}

/-- While `main` serves, the pool is open. -/
theorem serving_open {pools : List (Worker.Obs Ev)} (closing : e.pool.ClosingInv pools)
    (inv : MainInv e) (serving : e.main = .serving) : e.pool.closed = false := by
  have none : e.pool.shutdowns = [] := by
    have length := inv.shutdowns
    simpa [serving, MainPc.stage] using length
  have closed := closing.closed
  rw [none, total_nil] at closed
  cases flag : e.pool.closed with
  | false => rfl
  | true => simp [flag] at closed

/-- A shutdown goes on to the end, or to a goroutine that waits for itself. -/
theorem still_stopped (still : e.Still) {pools : List (Worker.Obs Ev)}
    (closing : e.pool.ClosingInv pools) (ranges : e.pool.RangesInv) (inv : MainInv e)
    (idle : e.proc.Idle) (down : e.main ≠ .serving) :
    e.main = .exited ∨ e.main = .stopping ∧ e.proc.SelfLock := by
  cases here : e.main with
  | serving => exact absurd here down
  | exited => exact .inl rfl
  | httpDown =>
    have stays := still.quiet .poolShutdown rfl rfl
    simp [Engine.step, Worker.Pool.step, here] at stays
  | poolDown =>
    have stays := still.quiet .stop rfl rfl
    simp [Engine.step, here] at stays
  | poolShutdown =>
    have length : e.pool.shutdowns.length = 1 := by simpa [here, MainPc.stage] using inv.shutdowns
    obtain ⟨caller, one⟩ := List.length_eq_one_iff.mp length
    have stays : e.pool.shutdown 0 = none := still_pool still (.shutdown 0) rfl rfl
    simp only [Worker.Pool.shutdown, one, List.getElem?_cons_zero] at stays
    cases caller with
    | cas =>
      simp only at stays
      split at stays <;> contradiction
    | closing | cancelling => contradiction
    | waiting =>
      have closed : e.pool.closed = true := by
        have counted := closing.closed
        rw [one] at counted
        exact Worker.Pool.set_of_counted (Nat.le_of_eq counted)
      have finished : e.pool.workers.all Worker.WorkerPc.isDone = true := by
        apply List.all_eq_true.mpr
        intro worker member
        rcases still_workers still closing ranges member with ⟨_, opened⟩ | done
        · simp [closed] at opened
        · rw [done]
          rfl
      simp [finished] at stays
    | returned won =>
      have stays := still.quiet .poolDown rfl rfl
      simp [Engine.step, one, here] at stays
  | stopping =>
    have cancelled : e.proc.ctxDone = true := inv.cancelled (by simp [here, MainPc.stage])
    rcases still_loop still with parked | returned | locked
    · have running := (idle parked).2.2
      simp [cancelled] at running
    · have stays := still.quiet .exit rfl rfl
      simp [Engine.step, returned, here] at stays
    · exact .inr ⟨rfl, locked⟩

/-- A goroutine that waits for itself, or has returned, has passed on the last batch. -/
theorem last_phase {p : Batch.Processor Ev} (inv : p.LockInv)
    (ended : p.pc = .returned ∨ p.SelfLock) : p.pc.phase = 4 := by
  rcases ended with returned | locked
  · rw [returned]
    rfl
  · rw [(Batch.Processor.selfLock_iff inv).mp locked]
    rfl

/-- The work of an engine is bounded by its sizes and the requests in progress. -/
theorem work_le (positive : 1 ≤ batchThreshold)
    (run : (system Ev).AnyRun (.start workerCount queueCap batchThreshold) seen e) :
    e.work ≤
      14 * e.pool.requested + 11 * queueCap + 13 * workerCount + 8 * (queueCap / 2) + 34 := by
  rw [start_assembled] at run
  have callers : total Worker.Caller.work e.pool.callers ≤ 14 * e.pool.requested :=
    Worker.Pool.callers_work_le e.pool.callers
  have queue : e.pool.taskCh.queue.length ≤ queueCap := by
    have bounded := e.pool.taskCh.bounded
    rwa [Worker.run_capacity (run_pool run)] at bounded
  have workers : total Worker.WorkerPc.work e.pool.workers ≤ 13 * workerCount := by
    have bounded := Worker.Pool.workers_work_le e.pool.workers
    rwa [Worker.run_workers (run_pool run)] at bounded
  have inbound : e.proc.inCh.queue.length ≤ queueCap / 2 := by
    have bounded := e.proc.inCh.bounded
    rwa [(Batch.run_bounds positive (run_proc run)).2.limits.2] at bounded
  have proc : e.proc.work ≤ 8 * e.proc.inCh.queue.length + 26 := e.proc.work_le
  have rest := (run_main run).shutdowns_work
  simp only [Engine.work, Worker.Pool.work]
  omega

/-- With nothing on the way to the buffer, the events whose `Enqueue` returned nil were passed to
`FlushBatch`, are in the buffer, or were refused by `Submit`. -/
theorem run_delivered
    (run : (system Ev).AnyRun (.start workerCount queueCap batchThreshold) seen e)
    (transit : total Worker.Caller.inTransit e.pool.callers = 0) (queue : e.pool.taskCh.queue = [])
    (hands : total Worker.WorkerPc.inHand e.pool.workers = 0)
    (pending : e.proc.pending = e.proc.buffer) :
    (enqueuedNil seen : Multiset Ev) =
      ↑(handedToFlush seen) + ↑e.proc.buffer + ↑(refusedBySubmit seen) := by
  rw [start_assembled] at run
  have flow := (Worker.run_flow (run_pool run)).2
  have shut := run_shutdown run
  have kept := (Batch.run_pending (run_proc run)).1
  rw [pending, ← shut.link] at kept
  calc (enqueuedNil seen : Multiset Ev)
    _ = ↑((seen.flatMap Obs.ofPool).flatMap Worker.Obs.sentEvents) := by
      rw [flow.answered, transit, add_zero]
      rfl
    _ = ↑((seen.flatMap Obs.ofPool).flatMap Worker.Obs.submittedEvents) := by
      rw [flow.fifo, queue, List.append_nil, flow.handled, hands, add_zero]
    _ = ↑((seen.flatMap Obs.ofPool).flatMap Worker.Obs.forwardedEvents) +
        ↑(refusedBySubmit seen) := Worker.submitted_split _
    _ = ↑(handedToFlush seen) + ↑e.proc.buffer + ↑(refusedBySubmit seen) := by
      rw [kept, ← Multiset.coe_add]
      rfl

/-- A processor whose goroutine waits for an event has nothing but its buffer. -/
theorem parked_pending {p : Batch.Processor Ev} (idle : p.Idle) (parked : p.pc = .parked) :
    p.pending = p.buffer := by
  have empty : p.inCh.queue = [] := (idle parked).1
  simp [Batch.Processor.pending, parked, empty, Batch.LoopPc.taken, Batch.LoopPc.held]

/-- An engine that stands still while it serves waits for requests. -/
theorem still_waiting {numWorkers queueSize bufferSize threshold : Nat} (positive : 1 ≤ threshold)
    (run : (system Ev).AnyRun (.assemble numWorkers queueSize bufferSize threshold) seen e)
    (still : e.Still) (serving : e.main = .serving) : e.Waiting threshold := by
  have pool := run_pool run
  have proc := run_proc run
  obtain ⟨drain, size⟩ := Batch.run_bounds positive proc
  have closing := Worker.run_closing pool
  have opened : e.pool.closed = false := serving_open closing (run_main run) serving
  have running : e.proc.ctxDone = false := by
    cases cancelled : e.proc.ctxDone with
    | false => rfl
    | true =>
      have far : 4 ≤ e.main.stage := (run_shutdown run).stopped (drain.stopped cancelled)
      simp [serving, MainPc.stage] at far
  have loop : e.proc.pc = .parked := by
    rcases still_loop still with parked | ended
    · exact parked
    · have phase : e.proc.pc.phase = 4 := last_phase (Batch.run_lock proc) ended
      have cancelled : e.proc.ctxDone = true := drain.cancelled (by omega)
      simp [running] at cancelled
  refine ⟨serving, ?_, ?_, loop, ?_⟩
  · intro caller member
    rcases still.answered _ member with finished | panicked
    · exact finished
    · have closed := Worker.run_panicked pool caller member panicked
      simp [opened] at closed
  · intro worker member
    rcases still_workers still closing (Worker.run_ranges pool) member with ⟨parked, _⟩ | rfl
    · exact parked
    · have closed := ((Worker.run_flow pool).1.finished member).1
      simp [opened] at closed
  · have fits := size.running (by rw [loop]; rfl)
    have one : e.proc.pc.room = 1 := by
      rw [loop]
      rfl
    omega

/-- Workers that wait for events submit none. -/
theorem parked_submitting (parked : ∀ worker ∈ e.pool.workers, worker = .parked) (worker : Nat) :
    e.submitting worker = none := by
  unfold Engine.submitting
  cases found : e.pool.workers[worker]? with
  | none => rfl
  | some thread =>
    rw [parked thread (List.mem_of_getElem? found)]

/-- An engine that waits for requests has settled, unless a `Metrics` call is in its critical
section. -/
theorem waiting_settled {numWorkers queueSize bufferSize threshold : Nat}
    (run : (system Ev).AnyRun (.assemble numWorkers queueSize bufferSize threshold) seen e)
    (waiting : e.Waiting threshold) (unread : e.proc.mu ≠ some .metrics) :
    (system Ev).Settled Inner e := by
  have closing := Worker.run_closing (run_pool run)
  have opened : e.pool.closed = false := serving_open closing (run_main run) waiting.serving
  have running : e.pool.ctxDone = false := by
    cases cancelled : e.pool.ctxDone with
    | false => rfl
    | true => simp [closing.closes cancelled] at opened
  have calls : e.pool.shutdowns = [] := by
    have length := (run_main run).shutdowns
    simpa [waiting.serving, MainPc.stage] using length
  have parked {index : Nat} {thread : Worker.WorkerPc Ev}
      (found : e.pool.workers[index]? = some thread) : thread = .parked :=
    waiting.workers thread (List.mem_of_getElem? found)
  intro action inner
  cases stepped : (system Ev).step e action with
  | none => rfl
  | some result =>
    exfalso
    obtain ⟨after, out⟩ := result
    cases step_cases stepped with
    | pool allowed moved =>
      cases Worker.Pool.step_cases moved with
      | call | callShutdown | submit => contradiction
      | caller moved =>
        cases moved with
        | shut running current | load running current | panic running current | meet running current
        | queue running current | refuse running current | accept running current
        | drop running current =>
          have finished := waiting.answered _ (List.mem_of_getElem? running)
          rw [current] at finished
          contradiction
      | select moved | worker moved =>
        cases moved with
        | cancelled _ _ cancelled => simp [running] at cancelled
        | finish _ _ closed | woken _ closed => simp [opened] at closed
        | receive found | drain found | block found | count found | lose found
        | countDrained found =>
          have waits := parked found
          contradiction
      | shutdown moved =>
        cases moved with
        | lose found | win found | close found | cancel found | finish found =>
          simp [calls] at found
    | submit submitting =>
      rw [parked_submitting waiting.workers] at submitting
      contradiction
    | proc alone moved =>
      have loop := waiting.loop
      cases Batch.Processor.step_cases moved with
      | submit => exact alone.1 _ rfl
      | cancelWakes | cancelWaits => exact alone.2 rfl
      | tickWakes | tickWaits | metricsLock => contradiction
      | metricsUnlock owned => exact unread owned
      | select here | flushStored here | flushFailed here => simp [loop] at here
      | advance moved =>
        cases moved with
        | lock free entered => simp [loop, Batch.LoopPc.afterLock] at entered
        | fill here | append here | expire here | expireIdle here | drain here | drainStop here
        | last here | lastIdle here | skip here | call here | count here | stamp here
        | finish here => simp [loop] at here
    | httpDown => contradiction
    | poolShutdown here | poolDown here | stop here | exit here =>
      rw [waiting.serving] at here
      contradiction

/-- An engine that stands still after its server was shut down has ended, with nothing left in the
processor. -/
theorem still_ended {numWorkers queueSize bufferSize threshold : Nat}
    (run : (system Ev).AnyRun (.assemble numWorkers queueSize bufferSize threshold) seen e)
    (still : e.Still) (down : e.main ≠ .serving) :
    e.Ended ∧ e.proc.inCh.queue = [] ∧ e.proc.pending = e.proc.buffer := by
  have pool := run_pool run
  have proc := run_proc run
  have idle := (Batch.run_pending proc).2
  have shut := run_shutdown run
  have inv := run_main run
  have stopped : e.main = .exited ∨ e.main = .stopping ∧ e.proc.SelfLock :=
    still_stopped still (Worker.run_closing pool) (Worker.run_ranges pool) inv idle down
  have far : 4 ≤ e.main.stage := by
    rcases stopped with exited | ⟨stopping, _⟩
    · simp [exited, MainPc.stage]
    · simp [stopping, MainPc.stage]
  have phase : e.proc.pc.phase = 4 := by
    rcases still_loop still with parked | ended
    · have running := (idle parked).2.2
      simp [inv.cancelled far] at running
    · exact last_phase (Batch.run_lock proc) ended
  obtain ⟨buffer, channel, _⟩ := Batch.run_drained proc shut.quiet phase
  obtain ⟨taken, held⟩ := Batch.LoopPc.last_phase phase
  refine ⟨⟨stopped, ?_, buffer⟩, channel, ?_⟩
  · exact (Worker.run_flow pool).1.joined (shut.joined (by omega))
  · simp [Batch.Processor.pending, taken, held, channel]

/-- An engine that stands still is at rest. -/
theorem still_rests (staffed : 1 ≤ workerCount) (positive : 1 ≤ batchThreshold)
    (run : (system Ev).AnyRun (.start workerCount queueCap batchThreshold) seen e)
    (still : e.Still) : Resting batchThreshold seen e := by
  have engine := run
  rw [start_assembled] at engine
  have pool := run_pool engine
  have rest := (Worker.run_flow pool).1
  have idle := (Batch.run_pending (run_proc engine)).2
  have workers (worker : Worker.WorkerPc Ev) (member : worker ∈ e.pool.workers) :=
    still_workers still (Worker.run_closing pool) (Worker.run_ranges pool) member
  have queue : e.pool.taskCh.queue = [] := by
    have some_worker : 0 < e.pool.workers.length := by
      rw [Worker.run_workers pool]
      exact staffed
    have first := List.getElem_mem some_worker
    rcases workers _ first with ⟨parked, _⟩ | done
    · rw [parked] at first
      exact rest.waiting first
    · rw [done] at first
      exact (rest.finished first).2
  have hands : total Worker.WorkerPc.inHand e.pool.workers = 0 := by
    apply total_eq_zero
    intro worker member
    rcases workers worker member with ⟨rfl, _⟩ | rfl <;> rfl
  have transit : total Worker.Caller.inTransit e.pool.callers = 0 := by
    apply total_eq_zero
    intro caller member
    rcases still.answered _ member with finished | panicked
    · exact inTransit_finished finished
    · rw [Worker.Caller.inTransit, panicked]
  by_cases serving : e.main = .serving
  · have waiting := still_waiting positive engine still serving
    have pending := parked_pending idle waiting.loop
    exact ⟨.inl waiting, queue, (idle waiting.loop).1,
      run_delivered run transit queue hands pending⟩
  · obtain ⟨ended, inbound, pending⟩ := still_ended engine still serving
    exact ⟨.inr ended, queue, inbound, run_delivered run transit queue hands pending⟩

/-- An engine that is left to itself takes no more steps than its sizes and the requests in progress
allow, and it can always be led to where none is left. Then it waits for requests with less than a
batch in its buffer, or it has been shut down, up to a `Stop` that waits for a goroutine that waits
for itself; and every event whose `Enqueue` returned nil was passed to `FlushBatch`, is in the
buffer, or was refused by `Submit`. -/
theorem engine_settles (staffed : 1 ≤ workerCount) (positive : 1 ≤ batchThreshold)
    (run : (system Ev).AnyRun (.start workerCount queueCap batchThreshold) seen e) :
    (∀ schedule last out, (system Ev).exec Inner e schedule = some (last, out) →
      schedule.length ≤ 14 * e.pool.requested + 11 * queueCap + 13 * workerCount +
        8 * (queueCap / 2) + 34 ∧
      ((system Ev).Settled Inner last → Resting batchThreshold (seen ++ out) last)) ∧
    ∃ schedule last out, (system Ev).exec Inner e schedule = some (last, out) ∧
      (system Ev).Settled Inner last := by
  refine ⟨?_, ranked.settles e⟩
  intro schedule last out executed
  constructor
  · have steps := ranked.length executed
    have work := work_le positive run
    omega
  · intro settled
    exact still_rests staffed positive (run.append (System.exec_run executed).any)
      (settled_still settled)

/-- One worker takes three events of a batch through a queue for two. -/
theorem engine_settles_three :
    ∃ seen e, (system Nat).AnyRun (.start 1 2 2) seen e ∧
      ∃ schedule last out, (system Nat).exec Inner e schedule = some (last, out) ∧
        schedule.length ≤ 119 ∧ Resting 2 (seen ++ out) last := by
  obtain ⟨seen, e, run, passed⟩ := System.exec_witness (system Nat) System.unguarded (.start 1 2 2)
    [.pool (.call [1, 2, 3])] (fun (e, _) => e.pool.requested = 3) (by decide)
  have three : e.pool.requested = 3 := of_decide_eq_true passed
  obtain ⟨bounded, schedule, last, out, executed, settled⟩ :=
    engine_settles (by decide) (by decide) run
  obtain ⟨length, rests⟩ := bounded schedule last out executed
  refine ⟨seen, e, run, schedule, last, out, executed, ?_, rests settled⟩
  omega

/-! ### The flush window -/

/-- Nothing more comes to the buffer, and what is in it waits for the tick. -/
structure Batch.Processor.Emptying (p : Batch.Processor Ev) : Prop where
  /-- Nothing is on its way to the buffer. -/
  nothing : p.inCh.queue = [] ∧ p.pc.held = []
  /-- The goroutine looks at the buffer, or has taken it. -/
  taken : p.pc = .ticked ∨ p.pc = .checking ∨ p.buffer = []

/-- A buffer that is about to be taken is taken. -/
theorem step_emptying {p after : Batch.Processor Ev} {action : Batch.Act Ev}
    {out : List (Batch.Obs Ev)} (alone : (∀ ev, action ≠ .submit ev) ∧ action ≠ .cancel)
    (inv : p.Emptying) (stepped : p.step action = some (after, out)) : after.Emptying := by
  obtain ⟨⟨empty, none⟩, taken⟩ := inv
  have buffer {pc : Batch.LoopPc Ev} (here : p.pc = pc) (other : pc ≠ .ticked ∧ pc ≠ .checking) :
      p.buffer = [] := by
    rw [here] at taken
    exact (taken.resolve_left other.1).resolve_left other.2
  cases Batch.Processor.step_cases stepped with
  | submit => exact absurd rfl (alone.1 _)
  | cancelWakes | cancelWaits => exact absurd rfl alone.2
  | tickWakes => exact ⟨⟨empty, rfl⟩, .inl rfl⟩
  | tickWaits | metricsLock | metricsUnlock => exact ⟨⟨empty, none⟩, taken⟩
  | select here moved =>
    have gone : p.buffer = [] := buffer here (by simp)
    cases moved with
    | receive front => simp [front] at empty
    | done | block => exact ⟨⟨empty, rfl⟩, .inr (.inr gone)⟩
    | ticker => exact ⟨⟨empty, rfl⟩, .inl rfl⟩
  | advance moved =>
    cases moved with
    | lock free entered =>
      refine ⟨⟨empty, (Batch.Processor.afterLock_flow entered).2.trans none⟩, ?_⟩
      rcases taken with ticked | checking | gone
      · rw [ticked] at entered
        exact .inr (.inl (Option.some.inj entered).symm)
      · rw [checking] at entered
        contradiction
      · exact .inr (.inr gone)
    | fill here | append here => simp [here, Batch.LoopPc.held] at none
    | drain here received => simp [received] at empty
    | expire | last => exact ⟨⟨empty, rfl⟩, .inr (.inr rfl)⟩
    | expireIdle _ gone | lastIdle _ gone => exact ⟨⟨empty, rfl⟩, .inr (.inr gone)⟩
    | drainStop here | call here | count here | finish here =>
      exact ⟨⟨empty, rfl⟩, .inr (.inr (buffer here (by simp)))⟩
    | @skip reason here | @stamp reason here =>
      refine ⟨⟨empty, ?_⟩, .inr (.inr (buffer here (by simp)))⟩
      cases reason <;> rfl
  | flushStored here => exact ⟨⟨empty, rfl⟩, .inr (.inr (buffer here (by simp)))⟩
  | @flushFailed reason events here =>
    refine ⟨⟨empty, ?_⟩, .inr (.inr (buffer here (by simp)))⟩
    cases reason <;> rfl

/-- A tick wakes the goroutine that waits, which then takes the buffer. -/
theorem tick_emptying {p : Batch.Processor Ev} (idle : p.Idle) (parked : p.pc = .parked) :
    p.tick.Emptying := by
  have empty : p.inCh.queue = [] := (idle parked).1
  simp only [Batch.Processor.tick, parked]
  exact ⟨⟨empty, rfl⟩, .inl rfl⟩

/-- Behind an engine that waits for requests only the processor moves. -/
theorem waiting_exec {threshold : Nat} {e ticked last : Engine Ev} {schedule : List (Act Ev)}
    {out : List (Obs Ev)} (settled : (system Ev).Settled Inner e) (waiting : e.Waiting threshold)
    (same : ticked.pool = e.pool ∧ ticked.main = .serving) (emptying : ticked.proc.Emptying)
    (executed : (system Ev).exec Inner ticked schedule = some (last, out)) :
    (last.pool = e.pool ∧ last.main = .serving) ∧ last.proc.Emptying := by
  apply (System.exec_run executed).state_invariant
    fun state => (state.pool = e.pool ∧ state.main = .serving) ∧ state.proc.Emptying
  · exact ⟨same, emptying⟩
  · intro state action after out held inner stepped
    obtain ⟨⟨pool, serving⟩, emptying⟩ := held
    cases step_cases stepped with
    | @pool action _ _ allowed moved =>
      have free : e.allows action = true := by
        cases action <;> first | rfl | contradiction
      have stays := settled (.pool action) inner
      simp only [system, Engine.step, free, if_true, Option.map_eq_none_iff] at stays
      rw [pool, stays] at moved
      contradiction
    | submit submitting =>
      rw [parked_submitting (pool ▸ waiting.workers)] at submitting
      contradiction
    | proc alone moved => exact ⟨⟨pool, serving⟩, step_emptying alone emptying moved⟩
    | httpDown => contradiction
    | poolShutdown here | poolDown here | stop here | exit here =>
      rw [serving] at here
      contradiction

/-- A tick that finds an engine waiting for requests, and after which it is left to itself until it
waits again, leaves nothing in the buffer: every event whose `Enqueue` returned nil was passed to
`FlushBatch` or was refused by `Submit`. -/
theorem tick_delivers (staffed : 1 ≤ workerCount) (positive : 1 ≤ batchThreshold)
    (run : (system Ev).AnyRun (.start workerCount queueCap batchThreshold) seen e)
    (settled : (system Ev).Settled Inner e) (serving : e.main = .serving) {ticked last : Engine Ev}
    {shown later : List (Obs Ev)} (fired : (system Ev).step e (.proc .tick) = some (ticked, shown))
    {schedule : List (Act Ev)}
    (executed : (system Ev).exec Inner ticked schedule = some (last, later))
    (resettled : (system Ev).Settled Inner last) :
    last.Waiting batchThreshold ∧ last.proc.buffer = [] ∧
      (enqueuedNil (seen ++ shown ++ later) : Multiset Ev) =
        ↑(handedToFlush (seen ++ shown ++ later)) +
          ↑(refusedBySubmit (seen ++ shown ++ later)) := by
  have engine := run
  rw [start_assembled] at engine
  have waiting := still_waiting positive engine (settled_still settled) serving
  have idle := (Batch.run_pending (run_proc engine)).2
  have next : ticked = { e with proc := e.proc.tick } := by
    have moved : some (({ e with proc := e.proc.tick } : Engine Ev), ([] : List (Obs Ev))) =
        some (ticked, shown) := fired
    exact (Prod.mk.inj (Option.some.inj moved)).1.symm
  obtain ⟨⟨pool, serves⟩, emptying⟩ : (last.pool = e.pool ∧ last.main = .serving) ∧
      last.proc.Emptying := by
    apply waiting_exec settled waiting _ _ executed
    · rw [next]
      exact ⟨rfl, serving⟩
    · rw [next]
      exact tick_emptying idle waiting.loop
  have whole : (system Ev).AnyRun (.start workerCount queueCap batchThreshold)
      (seen ++ shown ++ later) last :=
    (System.Run.next run trivial fired).append (System.exec_run executed).any
  have rests := still_rests staffed positive whole (settled_still resettled)
  have again : last.Waiting batchThreshold := by
    rw [start_assembled] at whole
    exact still_waiting positive whole (settled_still resettled) serves
  have gone : last.proc.buffer = [] := by
    rcases emptying.taken with ticked | checking | gone
    · simp [again.loop] at ticked
    · simp [again.loop] at checking
    · exact gone
  refine ⟨again, gone, ?_⟩
  have delivered := rests.delivered
  rwa [gone, Multiset.coe_nil, add_zero] at delivered

/-- One event waits in a buffer for two until the tick. -/
theorem tick_delivers_one :
    ∃ seen e, (system Nat).AnyRun (.start 1 2 2) seen e ∧ handedToFlush seen = [] ∧
      ∃ later last, enqueuedNil (seen ++ later) = [7] ∧ last.proc.buffer = [] ∧
        (enqueuedNil (seen ++ later) : Multiset Nat) =
          ↑(handedToFlush (seen ++ later)) + ↑(refusedBySubmit (seen ++ later)) ∧
        (system Nat).AnyRun e later last := by
  let flush : List (Act Nat) :=
    [.proc .advance, .proc .advance, .proc .advance, .proc (.flushReturns true), .proc .advance,
      .proc .advance, .proc .advance, .proc (.select .block)]
  obtain ⟨seen, e, run, passed⟩ := System.exec_witness (system Nat) System.unguarded (.start 1 2 2)
    ([.pool (.call [7])] ++ throughPool ++
      [.pool (.select 0 .block), .proc (.select .inCh), .proc .advance, .proc .advance,
        .proc (.select .block)])
    (fun (e, seen) => decide (e.Waiting 2 ∧ e.proc.mu ≠ some .metrics ∧ handedToFlush seen = []) &&
      ((system Nat).step e (.proc .tick)).any fun (ticked, shown) =>
        ((system Nat).exec Inner ticked flush).any fun (last, later) =>
          decide (last.Waiting 2 ∧ last.proc.mu ≠ some .metrics ∧
            enqueuedNil (seen ++ (shown ++ later)) = [7])) (by decide)
  simp only [Bool.and_eq_true, decide_eq_true_eq, Option.any_eq_true, Prod.exists] at passed
  obtain ⟨⟨waiting, unread, nothing⟩, ticked, shown, fired, last, later, executed, again, free,
    enqueued⟩ := passed
  have settled := waiting_settled run waiting unread
  have whole : (system Nat).AnyRun (.start 1 2 2) (seen ++ shown ++ later) last :=
    (System.Run.next run trivial fired).append (System.exec_run executed).any
  have resettled := waiting_settled whole again free
  obtain ⟨_, buffer, delivered⟩ := tick_delivers (by decide) (by decide) run settled waiting.serving
    fired executed resettled
  have rest : (system Nat).AnyRun e (shown ++ later) last :=
    (System.Run.next .start trivial fired).append (System.exec_run executed).any
  rw [List.append_assoc] at delivered
  exact ⟨seen, e, run, nothing, shown ++ later, last, enqueued, buffer, delivered, rest⟩

end Rest

end IngestionEngine
