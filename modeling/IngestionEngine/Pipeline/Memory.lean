import IngestionEngine.Batch.Memory
import IngestionEngine.Pipeline.ZeroDrop

/-!
# How many events the engine holds

The channels are bounded by their capacities and the hands of the workers by their number. The
workers have all returned before `main` stops the processor, so nothing is accepted in its drain,
and what it holds stays within its channel and one batch.
-/

namespace IngestionEngine

open Systems

variable {Ev : Type} {numWorkers queueSize bufferSize threshold : Nat}

namespace Worker

/-- A worker has at most one event in its hand. -/
theorem card_inHand (worker : WorkerPc Ev) : worker.inHand.card ≤ 1 := by
  cases worker with
  | received ev | rangeReceived ev => exact Nat.le_refl 1
  | select | parked | counting | ranging | rangeCounting | done => exact Nat.zero_le 1

/-- Workers have no more events in their hands than there are workers. -/
theorem card_hands (workers : List (WorkerPc Ev)) :
    (total WorkerPc.inHand workers).card ≤ workers.length := by
  induction workers with
  | nil => exact Nat.le_refl 0
  | cons worker rest ih =>
    have first := card_inHand worker
    rw [total_cons, Multiset.card_add, List.length_cons]
    omega

end Worker

/-- In every state of the engine the events in `taskCh`, in the hands of the workers, in `inCh`,
in the buffer and in the hands of the batch loop, which include the batch inside `FlushBatch`,
are no more than the capacities, the workers and one batch. -/
theorem bounded_memory (positive : 1 ≤ threshold) {seen : List (Obs Ev)} {e : Engine Ev}
    (run : (system Ev).AnyRun (.assemble numWorkers queueSize bufferSize threshold) seen e) :
    e.pool.taskCh.queue.length + (total Worker.WorkerPc.inHand e.pool.workers).card +
        e.proc.inCh.queue.length + e.proc.buffer.length + e.proc.pc.inLoop ≤
      queueSize + numWorkers + bufferSize + threshold := by
  have queued : e.pool.taskCh.queue.length ≤ queueSize := by
    have bounded := e.pool.taskCh.bounded
    rwa [Worker.run_capacity (run_pool run)] at bounded
  have hands : (total Worker.WorkerPc.inHand e.pool.workers).card ≤ numWorkers := by
    have each := Worker.card_hands e.pool.workers
    rwa [Worker.run_workers (run_pool run)] at each
  have processor : e.proc.held ≤ bufferSize + threshold :=
    Batch.run_size positive (run_proc run) (run_shutdown run).quiet
  unfold Batch.Processor.held at processor
  omega

/-- The bound is met behind a slow write: one event is inside `FlushBatch`, one waits in `inCh`,
one is in the hand of the worker and two wait in `taskCh`. -/
theorem bounded_memory_met :
    ∃ seen e, (system Nat).AnyRun (.assemble 1 2 1 1) seen e ∧
      e.pool.taskCh.queue.length + (total Worker.WorkerPc.inHand e.pool.workers).card +
        e.proc.inCh.queue.length + e.proc.buffer.length + e.proc.pc.inLoop = 2 + 1 + 1 + 1 := by
  let enqueue : List (Act Nat) :=
    [.pool (.caller 0 none), .pool (.caller 0 none), .pool (.caller 0 none)]
  obtain ⟨seen, e, run, passed⟩ := System.exec_witness (system Nat) System.unguarded
    (.assemble 1 2 1 1)
    (slowFlush [1, 2, 3, 4, 5] ++ enqueue ++ [.pool (.select 0 .taskCh)] ++ enqueue ++ enqueue)
    (fun (e, _) => 2 + 1 + 1 + 1 ≤ e.pool.taskCh.queue.length +
      (total Worker.WorkerPc.inHand e.pool.workers).card +
      e.proc.inCh.queue.length + e.proc.buffer.length + e.proc.pc.inLoop) (by decide)
  have most := bounded_memory (Nat.le_refl 1) run
  exact ⟨seen, e, run, Nat.le_antisymm most (of_decide_eq_true passed)⟩

end IngestionEngine
