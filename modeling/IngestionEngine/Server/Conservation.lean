import IngestionEngine.Server.Changes
import IngestionEngine.Server.Stall

/-!
# What becomes of the accepted events

The events that were pushed leave the queue for the buffer and the buffer for a flush, in their
order. No change of the core loses, adds or reorders one, and the counters count them.
-/

namespace IngestionEngine.Server

open Systems

/-- The event that was pushed. -/
def Obs.pushedEvents : Obs → List TelemetryEvent
  | .pushed _ event => [event]
  | _ => []

/-- The batch that was flushed. -/
def Obs.flushedEvents : Obs → List TelemetryEvent
  | .flushed _ _ _ events _ => events
  | _ => []

/-- A batch was flushed. -/
def Obs.flushes : Obs → List Unit
  | .flushed _ _ _ _ _ => [()]
  | _ => []

/-- What was flushed, the buffer and the queue are what was pushed, and the counters are right. -/
structure Conserves (seen : List Obs) (c : Core) : Prop where
  /-- The events in their order. -/
  fifo : seen.flatMap Obs.flushedEvents ++ c.batchBuffer ++ c.queue =
    seen.flatMap Obs.pushedEvents
  /-- `totalAccepted` counts the events pushed. -/
  accepted : c.totalAccepted = (seen.flatMap Obs.pushedEvents).length
  /-- `totalEventsFlushed` counts the events flushed. -/
  flushed : c.totalEventsFlushed = (seen.flatMap Obs.flushedEvents).length
  /-- `totalBatchesFlushed` counts the flushes. -/
  batches : c.totalBatchesFlushed = (seen.flatMap Obs.flushes).length

/-- Such observations show no event pushed and no batch flushed. -/
theorem reads_still {out : List Obs} (still : ∀ obs ∈ out, obs.still = true) :
    out.flatMap Obs.pushedEvents = [] ∧ out.flatMap Obs.flushedEvents = [] ∧
      out.flatMap Obs.flushes = [] := by
  refine ⟨?_, ?_, ?_⟩
  all_goals
    refine List.flatMap_eq_nil_iff.mpr fun obs member => ?_
    have quiet := still obs member
    cases obs with
    | pushed | flushed => contradiction
    | limited | moved | drained | logged | latency | single | batch | metrics | shutdown | threw
    | crashed => rfl

/-- A change that leaves the holdings alone conserves them. -/
theorem Conserves.hold {seen out : List Obs} {c after : Core} (conserves : Conserves seen c)
    (same : after.holdings = c.holdings) (still : ∀ obs ∈ out, obs.still = true) :
    Conserves (seen ++ out) after := by
  obtain ⟨pushes, flushes, batches⟩ := reads_still still
  simp only [Core.holdings, Prod.mk.injEq] at same
  obtain ⟨buffer, queue, _, accepted, flushed, counted⟩ := same
  constructor
  · rw [List.flatMap_append, List.flatMap_append, pushes, flushes, buffer, queue,
      List.append_nil, List.append_nil]
    exact conserves.fifo
  · rw [List.flatMap_append, pushes, accepted, List.append_nil]
    exact conserves.accepted
  · rw [List.flatMap_append, flushes, flushed, List.append_nil]
    exact conserves.flushed
  · rw [List.flatMap_append, batches, counted, List.append_nil]
    exact conserves.batches

/-- Every change conserves the events. -/
theorem change_conserves {seen out : List Obs} {c after : Core} {change : Change}
    (conserves : Conserves seen c) (stepped : c.step change = some (after, out)) :
    Conserves (seen ++ out) after := by
  cases core_cases stepped with
  | push | move | drain | flush =>
    constructor
    · have fifo := conserves.fifo
      simp only [List.flatMap_append, List.flatMap_singleton, Obs.pushedEvents, Obs.flushedEvents,
        List.append_nil, ← fifo, List.append_assoc, List.take_append_drop]
    · simp [Obs.pushedEvents, conserves.accepted]
    · simp [Obs.flushedEvents, conserves.flushed]
    · simp [Obs.flushes, conserves.batches]
  | touch | refill | spend | refuse | refuseBatch | drop | setRps | setBurst | capTokens
  | finish =>
    obtain ⟨same, still⟩ := change_holds rfl stepped
    exact conserves.hold same still

/-- The core conserves the events in every run. -/
theorem core_conserves {permits : Core → Change → Prop} {init c : Core} {seen : List Obs}
    (initially : Conserves [] init) (run : coreSystem.Run permits init seen c) :
    Conserves seen c :=
  run.invariant Conserves initially
    fun _ _ _ _ _ conserves _ stepped => change_conserves conserves stepped

/-- The process conserves the events in every run. -/
theorem run_conserves {env : Env} {seen : List Obs} {p : Process}
    (run : system.AnyRun (.start env) seen p) : Conserves seen p.engine.core := by
  have conserves := core_conserves ⟨rfl, rfl, rfl, rfl⟩
    (run_core (fun _ => True) (fun _ _ _ _ _ _ _ => trivial) run)
  obtain ⟨fifo, accepted, flushed, batches⟩ := conserves
  rw [flatMap_core _ (fun _ => rfl) fun _ => rfl] at accepted flushed batches
  rw [flatMap_core _ (fun _ => rfl) fun _ => rfl, flatMap_core _ (fun _ => rfl) fun _ => rfl]
    at fifo
  exact ⟨fifo, accepted, flushed, batches⟩

/-- In every run the batches flushed, then the buffer, then the queue are the events pushed, in
their order, and the counters count the events pushed, those flushed and the flushes. -/
theorem flushed_buffered_queued {env : Env} {seen : List Obs} {p : Process}
    (run : system.AnyRun (.start env) seen p) :
    seen.flatMap Obs.flushedEvents ++ p.engine.batchBuffer ++ p.engine.queue =
        seen.flatMap Obs.pushedEvents ∧
      p.engine.totalAccepted = (seen.flatMap Obs.pushedEvents).length ∧
      p.engine.totalEventsFlushed = (seen.flatMap Obs.flushedEvents).length ∧
      p.engine.totalBatchesFlushed = (seen.flatMap Obs.flushes).length := by
  obtain ⟨fifo, accepted, flushed, batches⟩ := run_conserves run
  exact ⟨fifo, accepted, flushed, batches⟩

/-- Two events are accepted, one of them moved and flushed by a shutdown, and one more is queued
after it. -/
theorem flushed_buffered_queued_shutdown :
    ∃ seen p, system.AnyRun (.start (.calm 0)) seen p ∧ p.engine.queue.length = 1 ∧
      seen.flatMap Obs.flushedEvents ++ p.engine.batchBuffer ++ p.engine.queue =
        seen.flatMap Obs.pushedEvents ∧
      p.engine.totalAccepted = 3 ∧ p.engine.totalBatchesFlushed = 1 := by
  obtain ⟨seen, p, run, passed⟩ := System.exec_witness system System.unguarded (.start (.calm 0))
    [.request (.calm 1) (.ingestBatch [plainEvent]), .fire (.calm 10) 0,
      .request (.calm 11) (.ingestSingle plainEvent), .request (.calm 12) (.ingestBatch [.null]),
      .request (.calm 13) .simulateGracefulShutdown,
      .request (.calm 14) (.ingestSingle plainEvent)]
    (fun (p, _) => p.engine.queue.length = 1 && p.engine.totalAccepted = 3 &&
      p.engine.totalBatchesFlushed = 1) (by decide +kernel)
  simp only [Bool.and_eq_true, decide_eq_true_eq] at passed
  obtain ⟨⟨queued, accepted⟩, batches⟩ := passed
  exact ⟨seen, p, run, queued, (flushed_buffered_queued run).1, accepted, batches⟩

end IngestionEngine.Server
