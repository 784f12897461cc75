import IngestionEngine.Server.Buffer
import IngestionEngine.Server.Gate

/-!
# What `totalProcessed` counts

A tick of the workers counts every event that it takes out of the queue. A shutdown takes the whole
queue and counts none of it. So the counter accounts for the events that have left the queue exactly
as long as no shutdown finds one there.
-/

namespace IngestionEngine.Server

open Systems Program

/-- `totalProcessed` counts the events that have left the queue, which are in the buffer or have
been flushed. -/
structure Processed (p : Process) : Prop where
  /-- The accepted events are queued or processed. -/
  accepted : p.engine.totalAccepted = p.engine.queue.length + p.engine.totalProcessed
  /-- The processed events are buffered or flushed. -/
  processed : p.engine.totalProcessed =
    p.engine.batchBuffer.length + p.engine.totalEventsFlushed

/-- How many events a shutdown takes out of the queue: all of them if a spread call can. -/
def Engine.drained (e : Engine) (env : Env) : Nat :=
  if e.queue.length ≤ env.spreadLimit then e.queue.length else 0

/-- How many events an action takes out of the queue for a shutdown. -/
def Process.drains (p : Process) : Act → Nat
  | .request env .simulateGracefulShutdown => p.engine.drained env
  | .request _ (.ingestSingle _) | .request _ (.ingestBatch _) | .request _ .getMetrics
  | .request _ (.startLoadTest _ _) | .request _ .stopLoadTest | .request _ (.updateConfig _)
  | .fire _ _ => 0

/-- The action is not a shutdown that finds events in the queue and can spread them. -/
def Drainless (p : Process) (action : Act) : Prop := p.drains action = 0

instance (p : Process) (action : Act) : Decidable (Drainless p action) :=
  inferInstanceAs (Decidable (p.drains action = 0))

/-- So many of the events that have left the queue are not counted. -/
def Uncounted (missed : Nat) (p : Process) : Prop :=
  p.engine.batchBuffer.length + p.engine.totalEventsFlushed = p.engine.totalProcessed + missed

/-! ### What each method leaves uncounted -/

section Methods

variable (env : Env) {missed : Nat}

/-- A flush moves the events of the buffer to those flushed. -/
theorem triggerFlush_uncounted (reason : FlushReason) :
    Keeps (Uncounted missed) (triggerFlush env reason) := by
  intro p held
  by_cases empty : p.engine.batchBuffer.length = 0
  · simp only [triggerFlush, run_bind, run_engine, andThen_ok, if_pos empty]
    exact held
  · have flushed : 0 + (p.engine.totalEventsFlushed + p.engine.batchBuffer.length) =
        p.engine.totalProcessed + missed := by
      have before : p.engine.batchBuffer.length + p.engine.totalEventsFlushed =
        p.engine.totalProcessed + missed := held
      omega
    simp only [triggerFlush, run_bind, run_engine, andThen_ok, if_neg empty, run_update]
    split
    all_goals
      simp only [run_bind, run_update, run_emit, run_addLog, andThen_ok, after_state]
      exact flushed

/-- A tick of the workers counts what it moves. -/
theorem workerTick_uncounted : Keeps (Uncounted missed) (workerTick env) := by
  refine keeps_workerTick env (fun p held => ?_) (triggerFlush_uncounted env _) fun _ held => held
  have before : p.engine.batchBuffer.length + p.engine.totalEventsFlushed =
    p.engine.totalProcessed + missed := held
  show (p.engine.batchBuffer ++ p.engine.items).length + p.engine.totalEventsFlushed =
    p.engine.totalProcessed + p.engine.items.length + missed
  rw [List.length_append]
  omega

/-- A shutdown that can spread the queue counts none of it. -/
theorem shutdown_uncounted {p : Process} (held : Uncounted missed p) :
    Uncounted (missed + p.engine.drained env) ((simulateGracefulShutdown env).run p).state := by
  unfold Engine.drained
  by_cases fits : p.engine.queue.length ≤ env.spreadLimit
  · have drained : (p.engine.batchBuffer ++ p.engine.queue).length + p.engine.totalEventsFlushed =
        p.engine.totalProcessed + (missed + p.engine.queue.length) := by
      have before : p.engine.batchBuffer.length + p.engine.totalEventsFlushed =
        p.engine.totalProcessed + missed := held
      rw [List.length_append]
      omega
    rw [if_pos fits]
    simp only [simulateGracefulShutdown, stopLoadTest, run_bind, run_update, run_engine,
      run_clearTimer, run_addLog, run_lift, run_emit, andThen_ok, after_mk, after_state,
      if_neg (Nat.not_lt.mpr fits)]
    -- The queue is in the buffer now, and what is left of the call only flushes it.
    apply leaves_bind
    · exact triggerFlush_uncounted env .gracefulShutdown _ drained
    · intro _
      refine keeps_bind (keeps_addLog fun _ _ kept => kept) fun _ => ?_
      exact keeps_bind (fun _ kept => kept) fun _ => keeps_pure _
  · rw [if_neg fits, Nat.add_zero]
    simp only [simulateGracefulShutdown, stopLoadTest, run_bind, run_update, run_engine,
      run_clearTimer, run_addLog, run_lift, andThen_ok, after_mk, if_pos (Nat.not_le.mp fits)]
    exact held

/-- What leaves the buffer and its counters alone leaves as many events uncounted. -/
theorem uncounted_same {p q : Process} (same : q.engine.processing = p.engine.processing)
    (held : Uncounted missed p) : Uncounted missed q := by
  simp only [Engine.processing, Prod.mk.injEq] at same
  obtain ⟨buffer, flushed, processed⟩ := same
  unfold Uncounted
  rw [buffer, flushed, processed]
  exact held

/-- Every callback of a timer leaves as many events uncounted. -/
theorem callback_uncounted (task : Task) : Keeps (Uncounted missed) (task.callback env) := by
  by_cases other : task ≠ .workers ∧ task ≠ .flush
  · intro p held
    exact uncounted_same (processing_callback env other p rfl) held
  · cases task with
    | workers => exact workerTick_uncounted env
    | flush => exact keeps_bind keeps_engine fun _ => keeps_onlyIf (triggerFlush_uncounted env _)
    | release | metrics | loadTest | reset => simp at other

end Methods

/-! ### What runs leave uncounted -/

section Runs

variable {missed : Nat}

/-- A step leaves uncounted what was before, and what it drains. -/
theorem step_uncounted {p after : Process} {action : Act} {out : List Obs}
    (held : Uncounted missed p) (stepped : step p action = some (after, out)) :
    Uncounted (missed + p.drains action) after := by
  cases step_cases stepped with
  | @request env request alive =>
    rw [respond_state]
    have kept (other : request ≠ .simulateGracefulShutdown) :
        Uncounted missed ((request.call env).run (p.begin env)).state :=
      uncounted_same (processing_request env other (p.begin env) rfl) held
    cases request with
    | simulateGracefulShutdown =>
      apply leaves_bind
      · exact shutdown_uncounted env (p := p.begin env) held
      · exact fun _ => keeps_emit _
    | ingestSingle | ingestBatch | getMetrics | startLoadTest | stopLoadTest | updateConfig =>
      exact kept (by simp)
  | @fire env timer alive live =>
    have left := callback_uncounted env timer.task (p.fired env timer) held
    unfold Uncounted at left ⊢
    rw [(finish_state _).2]
    exact left

/-- Nothing that is uncounted is ever counted again. -/
theorem run_uncounted {guard : Process → Act → Prop} {init p : Process} {seen : List Obs}
    (initially : Uncounted missed init) (run : system.Run guard init seen p) :
    ∃ more, missed ≤ more ∧ Uncounted more p := by
  refine run.state_invariant (fun p => ∃ more, missed ≤ more ∧ Uncounted more p)
    ⟨missed, le_refl _, initially⟩ ?_
  rintro p action after out ⟨more, grown, held⟩ _ stepped
  exact ⟨_, le_trans grown (Nat.le_add_right _ _), step_uncounted held stepped⟩

/-- In every run the counter is right exactly when nothing is uncounted. -/
theorem processed_iff {start : Env} {seen : List Obs} {p : Process}
    (run : system.AnyRun (.start start) seen p) (held : Uncounted missed p) :
    Processed p ↔ missed = 0 := by
  have accepted := run_held run
  unfold Uncounted at held
  constructor
  · intro processed
    have counts := processed.processed
    omega
  · rintro rfl
    exact ⟨by omega, by omega⟩

end Runs

/-- As long as no shutdown takes an event out of the queue, `totalProcessed` is the number of events
that have left it. From the first shutdown that does, it is not any more. -/
theorem totalProcessed_counts (start : Env) :
    (∀ seen p, system.Run Drainless (.start start) seen p → Processed p) ∧
      ∀ seen p action after out later q, system.AnyRun (.start start) seen p →
        ¬ Drainless p action → step p action = some (after, out) →
        system.AnyRun after later q → ¬ Processed q := by
  have initially : Uncounted 0 (.start start) := rfl
  constructor
  · intro seen p run
    have held : Uncounted 0 p := by
      refine run.state_invariant (Uncounted 0) initially ?_
      intro p action after out held drainless stepped
      have left := step_uncounted held stepped
      rwa [show p.drains action = 0 from drainless] at left
    exact (processed_iff run.any held).mpr rfl
  · intro seen p action after out later q run drains stepped rest processed
    obtain ⟨missed, _, held⟩ := run_uncounted initially run
    obtain ⟨more, grown, last⟩ := run_uncounted (step_uncounted held stepped) rest
    have reached : system.AnyRun (.start start) (seen ++ out ++ later) q :=
      (run.next trivial stepped).append rest
    have none := (processed_iff reached last).mp processed
    have some : 0 < p.drains action := Nat.pos_of_ne_zero drains
    omega

/-- One event goes through the queue by a tick, a shutdown finds the queue empty and flushes the
event, and another event is still queued. -/
theorem totalProcessed_counts_tick : ∃ seen p, system.Run Drainless (.start (.calm 0)) seen p ∧
    p.engine.isShuttingDown = true ∧ p.engine.queue.length = 1 ∧ p.engine.totalProcessed = 1 ∧
    Processed p := by
  obtain ⟨seen, p, run, passed⟩ := System.exec_witness system Drainless (.start (.calm 0))
    [.request (.calm 1) (.ingestSingle plainEvent), .fire (.calm 10) 0,
      .request (.calm 11) .simulateGracefulShutdown,
      .request (.calm 12) (.ingestSingle plainEvent)]
    (fun (p, _) => p.engine.isShuttingDown && p.engine.queue.length = 1 &&
      p.engine.totalProcessed = 1) (by decide +kernel)
  simp only [Bool.and_eq_true, decide_eq_true_eq] at passed
  obtain ⟨⟨down, queued⟩, processed⟩ := passed
  exact ⟨seen, p, run, down, queued, processed, (totalProcessed_counts (.calm 0)).1 seen p run⟩

/-- A shutdown finds one event in the queue, and flushes it without counting it. -/
theorem totalProcessed_misses : ∃ seen p, system.AnyRun (.start (.calm 0)) seen p ∧
    p.engine.totalAccepted = 1 ∧ p.engine.queue = [] ∧ p.engine.batchBuffer = [] ∧
    p.engine.totalEventsFlushed = 1 ∧ p.engine.totalProcessed = 0 ∧ ¬ Processed p := by
  obtain ⟨seen, p, run, passed⟩ := System.exec_witness system System.unguarded (.start (.calm 0))
    [.request (.calm 1) (.ingestSingle plainEvent), .request (.calm 2) .simulateGracefulShutdown]
    (fun (p, _) => p.engine.totalAccepted = 1 && p.engine.queue.isEmpty &&
      p.engine.batchBuffer.isEmpty && p.engine.totalEventsFlushed = 1 &&
      p.engine.totalProcessed = 0) (by decide +kernel)
  simp only [Bool.and_eq_true, decide_eq_true_eq, List.isEmpty_iff] at passed
  obtain ⟨⟨⟨⟨accepted, queue⟩, buffer⟩, flushed⟩, processed⟩ := passed
  refine ⟨seen, p, run, accepted, queue, buffer, flushed, processed, fun counts => ?_⟩
  have lost := counts.accepted
  rw [accepted, queue, processed] at lost
  exact absurd lost (by decide)

end IngestionEngine.Server
