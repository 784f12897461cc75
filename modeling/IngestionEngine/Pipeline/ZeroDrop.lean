import IngestionEngine.Pipeline.Engine

/-!
# What the shutdown of the engine delivers

The result of a worker's `Submit` is the one place where an accepted event leaves the
engine. When the server has shut down in time and the last batch has been passed on, the
events whose `Enqueue` returned nil are the flushed ones and the ones `Submit` refused;
`Submit` refuses exactly when the inbound channel is full and the loop does not wait on it.
-/

namespace IngestionEngine

open Systems

variable {Ev : Type} {workerCount queueCap batchThreshold : Nat}

/-- The events whose `Enqueue` returned nil. -/
def enqueuedNil (seen : List (Obs Ev)) : List Ev :=
  (seen.flatMap Obs.ofPool).flatMap Worker.Obs.acceptedEvents

/-- The events passed to `FlushBatch`. -/
def handedToFlush (seen : List (Obs Ev)) : List Ev :=
  (seen.flatMap Obs.ofProc).flatMap Batch.Obs.flushed

/-- The events that `Submit` refused. -/
def refusedBySubmit (seen : List (Obs Ev)) : List Ev :=
  (seen.flatMap Obs.ofPool).flatMap Worker.Obs.refusedEvents

/-- The batch goroutine waits in its `select`. -/
def Batch.LoopPc.isParked : Batch.LoopPc Ev → Bool
  | .parked => true
  | _ => false

/-- `inCh` has room, or the batch goroutine waits for an event. -/
def Batch.Processor.CanTake (p : Batch.Processor Ev) : Prop :=
  p.pc.isParked = true ∨ p.inCh.HasRoom

instance (p : Batch.Processor Ev) : Decidable p.CanTake :=
  inferInstanceAs (Decidable (p.pc.isParked = true ∨ p.inCh.HasRoom))

/-- The action is not a `Submit` to a processor that cannot take the event. -/
def SubmitsFit (e : Engine Ev) : Act Ev → Prop
  | .submit _ => e.proc.CanTake
  | _ => True

instance (e : Engine Ev) (action : Act Ev) : Decidable (SubmitsFit e action) :=
  match action with
  | .submit _ => inferInstanceAs (Decidable e.proc.CanTake)
  | .pool _ | .proc _ | .httpDown _ | .poolShutdown | .poolDown | .stop | .exit =>
    inferInstanceAs (Decidable True)

/-- `Submit` accepts an event exactly when the processor can take it. -/
theorem submit_accepts_iff (p : Batch.Processor Ev) (ev : Ev) :
    (p.submit ev).2 = true ↔ p.CanTake := by
  unfold Batch.Processor.submit Batch.Processor.CanTake
  cases here : p.pc with
  | parked => simp [Batch.LoopPc.isParked]
  | _ =>
    simp only [Batch.LoopPc.isParked, Bool.false_eq_true, false_or]
    cases sent : p.inCh.trySend ev with
    | none => simpa using Channel.trySend_none.mp sent
    | some after => simpa using (Channel.trySend_some sent).1

/-- What `main` has established on its way down. -/
structure ShutdownInv (pools : List (Worker.Obs Ev)) (procs : List (Batch.Obs Ev))
    (e : Engine Ev) : Prop where
  /-- `main` goes on only when its `workerPool.Shutdown()` has waited for the workers. -/
  joined : 3 ≤ e.main.stage → .returned true ∈ e.pool.shutdowns
  /-- Only `main` stops the processor. -/
  stopped : .stopped ∈ procs → 4 ≤ e.main.stage
  /-- No worker submits after that. -/
  quiet : Batch.NoLateSubmit procs
  /-- A server that has shut down in time runs no handler. -/
  idle : e.drained = true → ∀ caller ∈ e.pool.callers, caller.rest = []
  /-- The pool and the processor saw the same successful submits. -/
  link : pools.flatMap Worker.Obs.forwardedEvents = procs.flatMap Batch.Obs.accepted

/-- A step of the pool without a new call leaves callers that have finished alone. -/
theorem pool_idle {p after : Worker.Pool Ev} {action : Worker.Act Ev} {out : List (Worker.Obs Ev)}
    (idle : ∀ caller ∈ p.callers, caller.rest = []) (closed : ∀ events, action ≠ .call events)
    (stepped : p.step action = some (after, out)) : ∀ caller ∈ after.callers, caller.rest = [] := by
  cases Worker.Pool.step_cases stepped with
  | call events => exact absurd rfl (closed events)
  | callShutdown => exact idle
  | caller moved =>
    cases moved with
    | shut running current | load running current | panic running current | meet running current
    | queue running current | refuse running current | accept running current
    | drop running current =>
      have empty := idle _ (List.mem_of_getElem? running)
      rw [current] at empty
      contradiction
  | select moved | worker moved =>
    obtain ⟨_, _, _, _, _, callers⟩ := Worker.Pool.work_frame moved
    rw [callers]
    exact idle
  | submit moved =>
    rw [(Worker.Pool.submit_frame moved).1.2.2.2.2.2]
    exact idle
  | shutdown moved => cases moved <;> exact idle

/-- The processor alone neither accepts an event nor stops itself. -/
theorem proc_silent {p after : Batch.Processor Ev} {action : Batch.Act Ev}
    {out : List (Batch.Obs Ev)} (alone : (∀ ev, action ≠ .submit ev) ∧ action ≠ .cancel)
    (stepped : p.step action = some (after, out)) :
    out.flatMap Batch.Obs.accepted = [] ∧ .stopped ∉ out := by
  cases Batch.Processor.step_cases stepped with
  | submit => exact absurd rfl (alone.1 _)
  | cancelWakes | cancelWaits => exact absurd rfl alone.2
  | tickWakes | tickWaits | metricsLock => exact ⟨rfl, List.not_mem_nil⟩
  | metricsUnlock => exact ⟨rfl, by simp⟩
  | select => exact ⟨rfl, List.not_mem_nil⟩
  | advance moved => cases moved <;> exact ⟨rfl, by simp⟩
  | flushStored | flushFailed => exact ⟨rfl, by simp⟩

/-- A worker submits one event, and shows the answer of the processor. -/
theorem pool_submits {e : Engine Ev} {pool : Worker.Pool Ev} {out : List (Worker.Obs Ev)}
    {worker : Nat} {ev : Ev} {accepted : Bool} (submitting : e.submitting worker = some ev)
    (moved : e.pool.step (.submit worker accepted) = some (pool, out)) :
    out = [.submitted ev accepted] ∧ ∃ thread ∈ e.pool.workers, thread ≠ .done := by
  have submitted := Worker.Pool.submit_cases moved
  unfold Engine.submitting at submitting
  cases submitted with
  | returns running | returnsDrained running =>
    rw [running] at submitting
    obtain rfl := Option.some.inj submitting
    exact ⟨rfl, _, List.mem_of_getElem? running, nofun⟩

/-- Without the processor the pool submits nothing. -/
theorem allows_other {e : Engine Ev} {action : Worker.Act Ev} (allowed : e.allows action = true) :
    ∀ index accepted, action ≠ .submit index accepted := by
  rintro index accepted rfl
  simp [Engine.allows] at allowed

/-- Every step keeps what `main` has established. -/
theorem step_shutdown {pools : List (Worker.Obs Ev)} {procs : List (Batch.Obs Ev)}
    {out : List (Obs Ev)} {e after : Engine Ev} {action : Act Ev}
    (closing : e.pool.ClosingInv pools) (rest : e.pool.RestInv) (inv : ShutdownInv pools procs e)
    (stepped : e.step action = some (after, out)) :
    ShutdownInv (pools ++ out.flatMap Obs.ofPool) (procs ++ out.flatMap Obs.ofProc) after := by
  obtain ⟨joined, stopped, quiet, idle, link⟩ := inv
  cases step_cases stepped with
  | @pool action pool out allowed moved =>
    have other := allows_other allowed
    rw [ofPool_pool, ofProc_pool, List.append_nil]
    refine ⟨fun far => Worker.Pool.step_returned (joined far) moved, stopped, quiet, ?_, ?_⟩
    · intro drained
      refine pool_idle (idle drained) ?_ moved
      rintro events rfl
      have serving : e.drained = false := by simpa [Engine.allows] using allowed
      simp [serving] at drained
    · rw [List.flatMap_append, link, (Worker.step_other other moved).1, List.append_nil]
  | @submit worker ev pool out submitting moved =>
    obtain ⟨rfl, thread, member, runs⟩ := pool_submits submitting moved
    have early : .stopped ∉ procs := by
      intro down
      have far := stopped down
      exact runs (rest.joined (joined (by omega)) thread member)
    refine ⟨fun far => Worker.Pool.step_returned (joined far) moved, ?_, ?_, ?_, ?_⟩
    · intro down
      have old : .stopped ∈ procs := by simpa [Obs.ofProc] using down
      exact absurd old early
    · exact .running early rfl
    · intro drained
      exact pool_idle (idle drained) (by simp) moved
    · have same : (e.proc.submit ev).2 = true ∨ (e.proc.submit ev).2 = false := by
        cases (e.proc.submit ev).2 <;> simp
      rcases same with accepted | refused
      · simp [accepted, link, Obs.ofPool, Obs.ofProc, Worker.Obs.forwardedEvents,
          Batch.Obs.accepted]
      · simp [refused, link, Obs.ofPool, Obs.ofProc, Worker.Obs.forwardedEvents,
          Batch.Obs.accepted]
  | proc alone moved =>
    obtain ⟨silent, running⟩ := proc_silent alone moved
    rw [ofPool_proc, ofProc_proc, List.append_nil]
    refine ⟨joined, ?_, quiet.append silent, idle, ?_⟩
    · intro down
      exact stopped ((List.mem_append.mp down).resolve_right running)
    · rw [List.flatMap_append, silent, List.append_nil, link]
  | httpDown here finished =>
    simp only [List.flatMap_nil, List.append_nil]
    refine ⟨fun far => ?_, fun down => ?_, quiet, finished, link⟩
    · simp [MainPc.stage] at far
    · have far := stopped down
      simp [here, MainPc.stage] at far
  | @poolShutdown pool out here moved =>
    obtain ⟨rfl, rfl⟩ := moved
    simp only [List.map_nil, List.flatMap_nil, List.append_nil]
    refine ⟨fun far => ?_, fun down => ?_, quiet, idle, link⟩
    · simp [MainPc.stage] at far
    · have far := stopped down
      simp [here, MainPc.stage] at far
  | @poolDown won here returned =>
    simp only [List.flatMap_nil, List.append_nil]
    refine ⟨fun _ => ?_, fun down => ?_, quiet, idle, link⟩
    · cases won with
      | true => simp [returned]
      | false =>
        have flag := closing.lost (by simp [returned])
        have swaps := closing.swapped
        rw [returned, flag] at swaps
        simp [Worker.ShutdownPc.swapped] at swaps
    · have far := stopped down
      simp [here, MainPc.stage] at far
  | stop here =>
    simp only [List.flatMap_cons, List.flatMap_nil, Obs.ofPool, Obs.ofProc, List.append_nil]
    refine ⟨fun _ => joined (by simp [here, MainPc.stage]), fun _ => ?_, quiet.append rfl, idle, ?_⟩
    · simp [MainPc.stage]
    · rw [List.flatMap_append, link]
      simp [Batch.Obs.accepted]
  | exit here returned =>
    simp only [List.flatMap_nil, List.append_nil]
    have far : 4 ≤ e.main.stage := by simp [here, MainPc.stage]
    exact ⟨fun _ => joined (by omega), fun _ => by simp [MainPc.stage], quiet, idle, link⟩

/-- What `main` has established holds in every run. -/
theorem run_shutdown {numWorkers queueSize bufferSize threshold : Nat} {seen : List (Obs Ev)}
    {e : Engine Ev}
    (run : (system Ev).AnyRun (.assemble numWorkers queueSize bufferSize threshold) seen e) :
    ShutdownInv (seen.flatMap Obs.ofPool) (seen.flatMap Obs.ofProc) e := by
  induction run with
  | start =>
    refine ⟨fun far => ?_, nofun, rfl, nofun, rfl⟩
    simp [Engine.assemble, MainPc.stage] at far
  | next before _ stepped ih =>
    have pool := run_pool before
    rw [List.flatMap_append, List.flatMap_append]
    exact step_shutdown (Worker.run_closing pool) (Worker.run_flow pool).1 ih stepped

/-- A caller that has finished has nothing in transit. -/
theorem inTransit_finished {caller : Worker.Caller Ev} (finished : caller.rest = []) :
    caller.inTransit = 0 := by
  unfold Worker.Caller.inTransit
  rw [finished]
  split
  · rfl
  · rfl

/-- Once the server has shut down in time and the last batch has been passed on, the events
whose `Enqueue` returned nil are the flushed ones and the ones that `Submit` refused. -/
theorem run_account {seen : List (Obs Ev)} {e : Engine Ev} (positive : 1 ≤ workerCount)
    (run : (system Ev).AnyRun (.start workerCount queueCap batchThreshold) seen e)
    (drained : e.drained = true) (last : e.proc.pc.phase = 4) :
    (enqueuedNil seen : Multiset Ev) = ↑(handedToFlush seen) + ↑(refusedBySubmit seen) := by
  rw [start_assembled] at run
  have rest := (Worker.run_flow (run_pool run)).1
  have flow := (Worker.run_flow (run_pool run)).2
  have shut := run_shutdown run
  have drain := Batch.run_drain (run_proc run)
  have far : 4 ≤ e.main.stage := shut.stopped (drain.stopped (drain.cancelled (by omega)))
  have finished := rest.joined (shut.joined (by omega))
  have hands : total Worker.WorkerPc.inHand e.pool.workers = 0 := by
    apply total_eq_zero
    intro worker member
    rw [finished worker member]
    rfl
  have transit : total Worker.Caller.inTransit e.pool.callers = 0 := by
    apply total_eq_zero
    intro caller member
    exact inTransit_finished (shut.idle drained caller member)
  have empty : e.pool.taskCh.queue = [] := by
    have some_worker : 0 < e.pool.workers.length := by
      rw [Worker.run_workers (run_pool run)]
      exact positive
    have member := List.getElem_mem some_worker
    rw [finished _ member] at member
    exact (rest.finished member).2
  have flushed := (Batch.run_drained (run_proc run) shut.quiet last).2.2
  have sent : ((seen.flatMap Obs.ofPool).flatMap Worker.Obs.sentEvents : Multiset Ev) =
      ↑((seen.flatMap Obs.ofPool).flatMap Worker.Obs.submittedEvents) := by
    rw [flow.fifo, empty, List.append_nil, flow.handled, hands, add_zero]
  calc (enqueuedNil seen : Multiset Ev)
    _ = ↑((seen.flatMap Obs.ofPool).flatMap Worker.Obs.sentEvents) := by
      rw [flow.answered, transit, add_zero]
      rfl
    _ = ↑((seen.flatMap Obs.ofPool).flatMap Worker.Obs.forwardedEvents) +
        ↑(refusedBySubmit seen) := by
      rw [sent, Worker.submitted_split]
      rfl
    _ = ↑(handedToFlush seen) + ↑(refusedBySubmit seen) := by
      rw [shut.link, ← flushed]
      rfl

/-- A step whose submit fits refuses nothing, and one whose submit does not fit refuses. -/
theorem step_refuses {e after : Engine Ev} {action : Act Ev} {out : List (Obs Ev)}
    (stepped : e.step action = some (after, out)) :
    refusedBySubmit out = [] ↔ SubmitsFit e action := by
  cases step_cases stepped with
  | pool allowed moved =>
    have silent := (Worker.step_other (allows_other allowed) moved).2
    simp [refusedBySubmit, ofPool_pool, silent, SubmitsFit]
  | @submit worker ev pool out submitting moved =>
    obtain ⟨rfl, _⟩ := pool_submits submitting moved
    have answer := submit_accepts_iff e.proc ev
    cases accepted : (e.proc.submit ev).2 with
    | true =>
      rw [accepted] at answer
      simp [refusedBySubmit, Obs.ofPool, Worker.Obs.refusedEvents, SubmitsFit, answer.mp rfl]
    | false =>
      rw [accepted] at answer
      have full : ¬ e.proc.CanTake := fun fits => Bool.false_ne_true (answer.mpr fits)
      simp [refusedBySubmit, Obs.ofPool, Worker.Obs.refusedEvents, SubmitsFit, full]
  | proc alone moved => simp [refusedBySubmit, ofPool_proc, SubmitsFit]
  | poolShutdown here moved =>
    obtain ⟨rfl, rfl⟩ := moved
    simp [refusedBySubmit, SubmitsFit]
  | httpDown | poolDown | stop | exit => simp [refusedBySubmit, Obs.ofPool, SubmitsFit]

/-- A run whose submits all fit refuses nothing. -/
theorem run_refuses_nothing {seen : List (Obs Ev)} {e : Engine Ev}
    (run : (system Ev).Run SubmitsFit (.start workerCount queueCap batchThreshold) seen e) :
    refusedBySubmit seen = [] := by
  refine run.invariant (fun seen _ => refusedBySubmit seen = []) rfl ?_
  intro seen e action after out nothing fits stepped
  have silent := (step_refuses stepped).mpr fits
  unfold refusedBySubmit at nothing silent ⊢
  rw [List.flatMap_append, List.flatMap_append, nothing, silent, List.append_nil]

/-- Take any run in which the server has shut down in time and the last batch has been passed
to `FlushBatch`. If every `Submit` of a worker found room in `inCh` or the batch loop waiting,
the events whose `Enqueue` returned nil have each been passed to `FlushBatch` once. If one
`Submit` did not, they have not. -/
theorem zero_drop_iff (positive : 1 ≤ workerCount) :
    (∀ (seen : List (Obs Ev)) (e : Engine Ev),
        (system Ev).Run SubmitsFit (.start workerCount queueCap batchThreshold) seen e →
        e.drained = true → e.proc.pc.phase = 4 → (enqueuedNil seen).Perm (handedToFlush seen)) ∧
      ∀ (seen out later : List (Obs Ev)) (e after last : Engine Ev) (action : Act Ev),
        (system Ev).AnyRun (.start workerCount queueCap batchThreshold) seen e →
        (system Ev).step e action = some (after, out) → ¬ SubmitsFit e action →
        (system Ev).AnyRun after later last → last.drained = true → last.proc.pc.phase = 4 →
        ¬ (enqueuedNil (seen ++ out ++ later)).Perm (handedToFlush (seen ++ out ++ later)) := by
  constructor
  · intro seen e run drained last
    have account := run_account positive run.any drained last
    rw [run_refuses_nothing run, Multiset.coe_nil, add_zero] at account
    exact Multiset.coe_eq_coe.mp account
  · intro seen out later e after last action before stepped unfit rest drained final same
    have run : (system Ev).AnyRun (.start workerCount queueCap batchThreshold)
        (seen ++ out ++ later) last := (System.Run.next before trivial stepped).append rest
    have account := run_account positive run drained final
    rw [Multiset.coe_eq_coe.mpr same] at account
    have nothing : refusedBySubmit (seen ++ out ++ later) = [] := by
      have sizes := congrArg Multiset.card account
      simp only [Multiset.card_add, Multiset.coe_card] at sizes
      apply List.length_eq_zero_iff.mp
      omega
    unfold refusedBySubmit at nothing
    simp only [List.flatMap_append, List.append_eq_nil_iff] at nothing
    exact unfit ((step_refuses stepped).mp nothing.1.2)

/-- One handler enqueues the event in hand, and one worker submits it. -/
def throughPool : List (Act Nat) :=
  [.pool (.caller 0 none), .pool (.caller 0 none), .pool (.caller 0 none),
    .pool (.select 0 .taskCh), .submit 0, .pool (.worker 0)]

/-- The loop waits, takes the first of some events, and calls `FlushBatch`; the second waits
in `inCh`. -/
def slowFlush (events : List Nat) : List (Act Nat) :=
  [.proc (.select .block), .pool (.call events)] ++ throughPool ++
    [.proc .advance, .proc .advance, .proc .advance] ++ throughPool

/-- `FlushBatch` returns nil, `main` shuts everything down, and the drain passes on its batch. -/
def shutDown : List (Act Nat) :=
  [.proc (.flushReturns true), .proc .advance, .proc .advance, .proc .advance, .httpDown true,
    .poolShutdown, .pool (.shutdown 0), .pool (.shutdown 0), .pool (.shutdown 0),
    .pool (.select 0 .taskCh), .pool (.shutdown 0), .poolDown, .stop, .proc (.select .done),
    .proc .advance, .proc .advance, .proc .advance, .proc .advance, .proc .advance]

/-- Two events cross a channel with room for one behind a slow write. -/
theorem zero_drop_iff_two :
    ∃ seen e, (system Nat).Run SubmitsFit (.start 1 2 1) seen e ∧ enqueuedNil seen = [1, 2] ∧
      (enqueuedNil seen).Perm (handedToFlush seen) := by
  obtain ⟨seen, e, run, passed⟩ := System.exec_witness (system Nat) SubmitsFit (.start 1 2 1)
    (slowFlush [1, 2] ++ shutDown)
    (fun (e, seen) => e.drained && e.proc.pc.phase = 4 && enqueuedNil seen = [1, 2]) (by decide)
  simp only [Bool.and_eq_true, decide_eq_true_eq] at passed
  exact ⟨seen, e, run, passed.2,
    (zero_drop_iff (Nat.le_refl 1)).1 seen e run passed.1.1 passed.1.2⟩

/-- A third event that a worker submits during that write is lost. -/
theorem zero_drop_fails :
    ∃ seen e, (system Nat).AnyRun (.start 1 2 1) seen e ∧ e.drained = true ∧
      e.proc.pc.phase = 4 ∧ enqueuedNil seen = [1, 2, 3] ∧ handedToFlush seen = [1, 2] := by
  obtain ⟨seen, e, run, passed⟩ := System.exec_witness (system Nat) System.unguarded
    (.start 1 2 1) (slowFlush [1, 2, 3] ++ throughPool ++ shutDown)
    (fun (e, seen) => e.drained && e.proc.pc.phase = 4 && enqueuedNil seen = [1, 2, 3] &&
      handedToFlush seen = [1, 2]) (by decide)
  simp only [Bool.and_eq_true, decide_eq_true_eq] at passed
  exact ⟨seen, e, run, passed.1.1.1, passed.1.1.2, passed.1.2, passed.2⟩

end IngestionEngine
