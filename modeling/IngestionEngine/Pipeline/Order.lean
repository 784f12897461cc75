import Mathlib.Data.List.Flatten
import IngestionEngine.Pipeline.Memory
import IngestionEngine.Systems.Reordering

/-!
# How far the events get out of order

The workers take the events off `taskCh` in the order of the sends, and pass them to `Submit` each
at its own pace. At most one event is in the hand of each worker, so an event overtakes fewer
others than there are workers, and the processor keeps the order in which it was given them.
-/

namespace IngestionEngine

open Systems

variable {Ev : Type}

namespace Worker

variable {numWorkers : Nat} {seen out : List (Obs Ev)} {p after : Pool Ev} {action : Act Ev}

/-- A step submits nothing, or one event, and then sends and receives nothing. -/
theorem step_submits (stepped : p.step action = some (after, out)) :
    out.flatMap Obs.submittedEvents = [] ∨
      ∃ ev, out.flatMap Obs.submittedEvents = [ev] ∧ out.flatMap Obs.sentEvents = [] ∧
        out.flatMap Obs.receivedEvents = [] := by
  cases Pool.step_cases stepped with
  | call | callShutdown => exact .inl rfl
  | caller moved | select moved | worker moved | shutdown moved => cases moved <;> exact .inl rfl
  | submit moved =>
    cases moved with
    | @returns ev | @returnsDrained ev => exact .inr ⟨ev, rfl, rfl, rfl⟩

/-- The events in the hands of the workers form a row in front of the queue, and `Submit` takes
one of the first of it at a time. -/
def Lined (numWorkers : Nat) (seen : List (Obs Ev)) (p : Pool Ev) : Prop :=
  ∃ hands : List Ev, (hands : Multiset Ev) = total WorkerPc.inHand p.workers ∧
    Taken numWorkers (seen.flatMap Obs.sentEvents) (seen.flatMap Obs.submittedEvents)
      (hands ++ p.taskCh.queue)

/-- Every step keeps the row. -/
theorem step_lined (rest : p.RestInv) (staff : p.workers.length = numWorkers)
    (lined : Lined numWorkers seen p) (stepped : p.step action = some (after, out)) :
    Lined numWorkers (seen ++ out) after := by
  obtain ⟨hands, held, taken⟩ := lined
  have order := Pool.step_fifo rest stepped
  have moved := Pool.step_inHands stepped
  have grown := taken.grow (out.flatMap Obs.sentEvents)
  rw [List.append_assoc, order] at grown
  unfold Lined
  rw [List.flatMap_append, List.flatMap_append]
  rcases step_submits stepped with quiet | ⟨ev, submitted, sent, received⟩
  · refine ⟨hands ++ out.flatMap Obs.receivedEvents, ?_, ?_⟩
    · rw [← Multiset.coe_add, held, moved, quiet, Multiset.coe_nil, zero_add]
    · rw [quiet, List.append_nil, List.append_assoc]
      exact grown
  · rw [submitted, received, Multiset.coe_nil, add_zero, ← held, Multiset.coe_singleton] at moved
    have member : ev ∈ (hands : Multiset Ev) := by
      rw [moved]
      exact Multiset.mem_add.mpr (.inl (Multiset.mem_singleton_self ev))
    obtain ⟨front, back, rfl⟩ := List.append_of_mem (Multiset.mem_coe.mp member)
    have near : front.length < numWorkers := by
      have bounded := card_hands p.workers
      rw [← held, Multiset.coe_card, staff] at bounded
      simp only [List.length_append, List.length_cons] at bounded
      omega
    refine ⟨front ++ back, ?_, ?_⟩
    · have whole : (↑(front ++ ev :: back) : Multiset Ev) = {ev} + ↑(front ++ back) := by
        rw [Multiset.singleton_add, Multiset.cons_coe, Multiset.coe_eq_coe]
        exact List.perm_middle
      exact add_left_cancel (whole.symm.trans moved)
    · rw [sent, received, List.nil_append, List.append_nil, List.append_assoc,
        List.cons_append] at grown
      rw [submitted, sent, List.append_nil, List.append_assoc]
      exact .next grown near

/-- In every run the events of the pool form that row. -/
theorem run_lined {queueSize : Nat}
    (run : (system Ev).AnyRun (.start numWorkers queueSize) seen p) :
    Lined numWorkers seen p := by
  induction run with
  | start =>
    have idle : total WorkerPc.inHand (List.replicate numWorkers (.select : WorkerPc Ev)) = 0 :=
      total_replicate numWorkers rfl
    exact ⟨[], idle.symm, .none⟩
  | next before _ stepped ih => exact step_lined (run_flow before).1 (run_workers before) ih stepped

end Worker

/-- The events in the order in which they were sent on `taskCh`. -/
def sentToPool (seen : List (Obs Ev)) : List Ev :=
  (seen.flatMap Obs.ofPool).flatMap Worker.Obs.sentEvents

/-- What `Submit` accepts is accepted in the order of the calls. -/
theorem forwarded_sublist (seen : List (Worker.Obs Ev)) :
    (seen.flatMap Worker.Obs.forwardedEvents).Sublist
      (seen.flatMap Worker.Obs.submittedEvents) := by
  apply List.Sublist.flatMap_right
  intro obs _
  cases obs with
  | submitted ev accepted =>
    cases accepted with
    | true => exact List.Sublist.refl _
    | false => exact List.nil_sublist _
  | sent | received | enqueued | panicked | closed => exact List.Sublist.refl _

/-- The events passed to `FlushBatch` and then those still in the processor were each sent on
`taskCh`, at places that are all different, and of those that follow one of them fewer than
`workerCount` were sent before it. With one worker they are in the order of the sends. -/
theorem batches_nearly_in_order {workerCount queueCap batchThreshold : Nat} {seen : List (Obs Ev)}
    {e : Engine Ev} (run : (system Ev).AnyRun (.start workerCount queueCap batchThreshold) seen e) :
    NearlyInOrder workerCount (sentToPool seen) (handedToFlush seen ++ e.proc.pending) ∧
      (workerCount = 1 → (handedToFlush seen ++ e.proc.pending).Sublist (sentToPool seen)) := by
  rw [start_assembled] at run
  obtain ⟨hands, _, taken⟩ := Worker.run_lined (run_pool run)
  have kept := (Batch.run_pending (run_proc run)).1
  rw [← (run_shutdown run).link] at kept
  have near : NearlyInOrder workerCount (sentToPool seen)
      (handedToFlush seen ++ e.proc.pending) := by
    apply taken.nearlyInOrder.sublist
    have part := forwarded_sublist (seen.flatMap Obs.ofPool)
    rwa [kept] at part
  refine ⟨near, ?_⟩
  rintro rfl
  exact near.in_order

/-- The second of two workers submits first, and its event overtakes the other. -/
theorem batches_nearly_in_order_two :
    ∃ seen e, (system Nat).AnyRun (.start 2 4 2) seen e ∧ sentToPool seen = [1, 2] ∧
      handedToFlush seen = [2, 1] ∧
      NearlyInOrder 2 (sentToPool seen) (handedToFlush seen ++ e.proc.pending) := by
  obtain ⟨seen, e, run, passed⟩ := System.exec_witness (system Nat) System.unguarded (.start 2 4 2)
    ([.pool (.call [1, 2])] ++ List.replicate 6 (.pool (.caller 0 none)) ++
      [.pool (.select 0 .taskCh), .pool (.select 1 .taskCh), .submit 1, .submit 0,
        .proc (.select .inCh), .proc .advance, .proc .advance,
        .proc (.select .inCh), .proc .advance, .proc .advance, .proc .advance])
    (fun (_, seen) => sentToPool seen = [1, 2] && handedToFlush seen = [2, 1]) (by decide)
  simp only [Bool.and_eq_true, decide_eq_true_eq] at passed
  exact ⟨seen, e, run, passed.1, passed.2, (batches_nearly_in_order run).1⟩

end IngestionEngine
