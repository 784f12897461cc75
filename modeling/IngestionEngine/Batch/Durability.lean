import IngestionEngine.Batch.Flow

/-!
# What a failed flush does to its events

`doFlush` swaps the buffer out before it calls `FlushBatch`, counts an error and returns.
There is no path by which a batch comes back: an accepted event is in the channel, in the
buffer, in a batch that was written, or in one that was discarded with its error.
-/

namespace IngestionEngine.Batch

open Systems

variable {Ev : Type}

/-- The events of a batch for which `FlushBatch` returned nil. -/
def Obs.stored : Obs Ev → List Ev
  | .flushReturned _ events true => events
  | _ => []

/-- The events of a batch for which `FlushBatch` returned an error. -/
def Obs.discarded : Obs Ev → List Ev
  | .flushReturned _ events false => events
  | _ => []

/-- The events of a batch for which `FlushBatch` has returned. -/
def Obs.settled : Obs Ev → List Ev
  | .flushReturned _ events _ => events
  | _ => []

/-- `FlushBatch` returned an error. -/
def Obs.failed : Obs Ev → Bool
  | .flushReturned _ _ stored => !stored
  | _ => false

/-- The batch inside `FlushBatch`. -/
def LoopPc.inFlight : LoopPc Ev → List Ev
  | .flushing _ events => events
  | _ => []

/-- Every settled batch was stored or discarded. -/
theorem settled_perm (seen : List (Obs Ev)) :
    (seen.flatMap Obs.settled).Perm (seen.flatMap Obs.stored ++ seen.flatMap Obs.discarded) := by
  induction seen with
  | nil => exact .nil
  | cons first rest ih =>
    simp only [List.flatMap_cons]
    have split : first.settled.Perm (first.stored ++ first.discarded) := by
      cases first with
      | flushReturned reason events stored =>
        cases stored <;> simp [Obs.settled, Obs.stored, Obs.discarded]
      | _ => exact .nil
    have regroup : ((first.stored ++ first.discarded) ++
        (rest.flatMap Obs.stored ++ rest.flatMap Obs.discarded)).Perm
        ((first.stored ++ rest.flatMap Obs.stored) ++
          (first.discarded ++ rest.flatMap Obs.discarded)) := by
      simp only [List.append_assoc]
      refine List.Perm.append_left _ ?_
      rw [← List.append_assoc, ← List.append_assoc]
      exact List.perm_append_comm.append_right _
    exact (split.append ih).trans regroup

namespace Processor

/-- No `p.mu.Lock()` stands around a `FlushBatch`. -/
theorem afterLock_inFlight {pc next : LoopPc Ev} (entered : pc.afterLock = some next) :
    next.inFlight = pc.inFlight := by
  cases pc <;> cases entered <;> rfl

/-- A batch in flight and what a step passes on is what the step settles and the batch in
flight after it. -/
theorem step_inFlight {p after : Processor Ev} {action : Act Ev} {out : List (Obs Ev)}
    (stepped : p.step action = some (after, out)) :
    p.pc.inFlight ++ out.flatMap Obs.flushed =
        out.flatMap Obs.settled ++ after.pc.inFlight ∧
      after.flushErrors = p.flushErrors + out.countP Obs.failed := by
  cases step_cases stepped with
  | submit moved =>
    cases moved with
    | meet waiting => simp [waiting, LoopPc.inFlight, Obs.flushed, Obs.settled, Obs.failed]
    | queue | refuse => simp [Obs.flushed, Obs.settled, Obs.failed]
  | tickWakes waiting | cancelWakes waiting =>
    simp [waiting, LoopPc.inFlight, Obs.flushed, Obs.settled, Obs.failed]
  | tickWaits | cancelWaits | metricsLock | metricsUnlock =>
    simp [Obs.flushed, Obs.settled, Obs.failed]
  | select here moved => cases moved <;> simp [here, LoopPc.inFlight]
  | advance moved =>
    cases moved with
    | lock free entered => simp [afterLock_inFlight entered]
    | @skip reason here | @stamp reason here =>
      cases reason <;> simp [here, LoopPc.inFlight, Reason.resume]
    | call here filled => simp [here, LoopPc.inFlight, Obs.flushed, Obs.settled, Obs.failed]
    | fill here | append here | expire here | expireIdle here | drain here | drainStop here
    | last here | lastIdle here | count here | finish here => simp [here, LoopPc.inFlight]
  | flushStored here => simp [here, LoopPc.inFlight, Obs.flushed, Obs.settled, Obs.failed]
  | @flushFailed reason events here =>
    cases reason <;>
      simp [here, LoopPc.inFlight, Reason.resume, Obs.flushed, Obs.settled, Obs.failed]

end Processor

/-- In every run the flushed batches are the settled ones followed by the one in flight, and
`flushErrors` counts the failures. -/
theorem run_inFlight {threshold bufferSize : Nat} {guard : Processor Ev → Act Ev → Prop}
    {seen : List (Obs Ev)} {p : Processor Ev}
    (run : (system Ev).Run guard (.start threshold bufferSize) seen p) :
    seen.flatMap Obs.flushed = seen.flatMap Obs.settled ++ p.pc.inFlight ∧
      p.flushErrors = seen.countP Obs.failed := by
  refine run.invariant (fun seen p =>
    seen.flatMap Obs.flushed = seen.flatMap Obs.settled ++ p.pc.inFlight ∧
      p.flushErrors = seen.countP Obs.failed) ⟨rfl, rfl⟩ ?_
  intro seen p action after out held _ stepped
  obtain ⟨flushed, errors⟩ := held
  obtain ⟨moved, counted⟩ := Processor.step_inFlight stepped
  constructor
  · rw [List.flatMap_append, List.flatMap_append, flushed, List.append_assoc, moved,
      List.append_assoc]
  · rw [List.countP_append, counted, errors]

/-- Between two iterations of the loop each accepted event is in exactly one of the inbound
channel, the buffer, a batch for which `FlushBatch` returned nil, or a batch for which it
returned an error; `flushErrors` counts the latter batches. -/
theorem accepted_partition {threshold bufferSize : Nat} {seen : List (Obs Ev)}
    {p : Processor Ev} (run : (system Ev).AnyRun (.start threshold bufferSize) seen p)
    (between : p.pc = .select ∨ p.pc = .parked) :
    (seen.flatMap Obs.accepted).Perm (p.inCh.queue ++ p.buffer ++ seen.flatMap Obs.stored ++
        seen.flatMap Obs.discarded) ∧
      p.flushErrors = seen.countP Obs.failed := by
  have flow := (run_pending run).1
  obtain ⟨flushed, errors⟩ := run_inFlight run
  have resting : p.pc.inFlight = [] ∧ p.pc.taken = [] ∧ p.pc.held = [] := by
    rcases between with here | here <;> rw [here] <;> exact ⟨rfl, rfl, rfl⟩
  obtain ⟨inFlight, taken, held⟩ := resting
  refine ⟨?_, errors⟩
  rw [inFlight, List.append_nil] at flushed
  rw [flow, flushed]
  simp only [Processor.pending, taken, held, List.nil_append, List.append_nil]
  have whole := (settled_perm seen).append_right (p.buffer ++ p.inCh.queue)
  have swapped : (p.buffer ++ p.inCh.queue).Perm (p.inCh.queue ++ p.buffer) :=
    List.perm_append_comm
  rw [List.append_assoc (p.inCh.queue ++ p.buffer)]
  exact whole.trans (List.perm_append_comm.trans (swapped.append_right _))

/-- One event below the threshold of two is flushed by the ticker, and the write fails. -/
def failedTick : List (Act Nat) :=
  [.submit 5, .select .inCh, .advance, .advance, .tick, .select .ticker, .advance, .advance,
    .advance, .flushReturns false]

/-- After a failed write the event is among the discarded ones and the error is counted. -/
theorem accepted_partition_failed :
    ∃ seen p, (system Nat).AnyRun (.start 2 1) seen p ∧ p.flushErrors = 1 ∧
      [5].Perm (p.inCh.queue ++ p.buffer ++ [5]) := by
  obtain ⟨seen, p, run, passed⟩ := System.exec_witness (system Nat) System.unguarded (.start 2 1)
    failedTick (fun (p, seen) => p.pc = .select && seen = [.submitted 5 true,
      .flushCalled .windowTimeout [5], .flushReturned .windowTimeout [5] false]) (by decide)
  simp only [Bool.and_eq_true, decide_eq_true_eq] at passed
  obtain ⟨here, rfl⟩ := passed
  have kept := accepted_partition run (.inl here)
  refine ⟨_, p, run, kept.2, ?_⟩
  simpa [Obs.accepted, Obs.stored, Obs.discarded] using kept.1

/-- A failed flush does not leave its event in the processor: between two iterations the
accepted event is neither in the channel, nor in the buffer, nor in a written batch. -/
theorem failed_flush_keeps_nothing :
    ¬ ∀ (threshold bufferSize : Nat) (seen : List (Obs Nat)) (p : Processor Nat),
      (system Nat).AnyRun (.start threshold bufferSize) seen p →
      p.pc = .select ∨ p.pc = .parked →
      (seen.flatMap Obs.accepted).Perm (p.inCh.queue ++ p.buffer ++ seen.flatMap Obs.stored) := by
  intro durable
  obtain ⟨seen, p, run, passed⟩ := System.exec_witness (system Nat) System.unguarded (.start 2 1)
    failedTick (fun (p, seen) => p.pc = .select && (seen.flatMap Obs.accepted).length = 1 &&
      (p.inCh.queue ++ p.buffer ++ seen.flatMap Obs.stored).length = 0) (by decide)
  simp only [Bool.and_eq_true, decide_eq_true_eq] at passed
  obtain ⟨⟨here, one⟩, none⟩ := passed
  have same := (durable 2 1 seen p run (.inl here)).length_eq
  omega

end IngestionEngine.Batch
