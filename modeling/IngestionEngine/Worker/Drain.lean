import IngestionEngine.Worker.Conservation

/-!
# What a shutdown of the pool has drained

The caller of `Shutdown` that swapped the flag returns only when every worker has, and a worker
returns only when the channel is closed and empty. By then no worker holds an event, so what was
sent has been received and submitted. That caller does return: once it has cancelled the context,
each step of a worker that drains lowers a rank.
-/

namespace IngestionEngine.Worker

open Systems

variable {Ev : Type}

/-- The events received from `taskCh`, each with the worker that received it. -/
def Obs.receipts : Obs Ev → List (Nat × Ev)
  | .received worker ev => [(worker, ev)]
  | _ => []

/-- Each event is received by the worker of its receipt. -/
theorem receipts_events (seen : List (Obs Ev)) :
    (seen.flatMap Obs.receipts).map Prod.snd = seen.flatMap Obs.receivedEvents := by
  induction seen with
  | nil => rfl
  | cons first rest ih =>
    rw [List.flatMap_cons, List.map_append, ih, List.flatMap_cons]
    cases first <;> rfl

/-- A worker that has returned holds nothing. -/
theorem inHand_done {worker : WorkerPc Ev} (done : worker = .done) : worker.inHand = 0 := by
  rw [done]
  rfl

/-- The step is one of a worker or of a caller of `Shutdown`, or ends a worker's `Submit`. -/
def Act.drains : Act Ev → Bool
  | .select _ _ | .worker _ | .submit _ _ | .shutdown _ => true
  | .call _ | .callShutdown | .caller _ _ => false

/-- An upper bound on the steps of a worker that drains an empty channel. -/
def WorkerPc.rank : WorkerPc Ev → Nat
  | .received _ => 4
  | .counting _ | .rangeReceived _ => 3
  | .select | .rangeCounting => 2
  | .parked | .ranging => 1
  | .done => 0

/-- The step by which a worker comes closer to its return, once the context is cancelled. -/
def WorkerPc.leave (index : Nat) : WorkerPc Ev → Act Ev
  | .select => .select index .done
  | .parked => .select index .taskCh
  | .received _ | .rangeReceived _ => .submit index true
  | .counting _ | .ranging | .rangeCounting | .done => .worker index

namespace Pool

/-- An upper bound on the steps of the workers that drain the channel. -/
def rank (p : Pool Ev) : Nat := total WorkerPc.rank p.workers + 3 * p.taskCh.queue.length

/-- A step that takes one worker to a lower rank and leaves the channel lowers the rank. -/
theorem rank_set {p after : Pool Ev} {index : Nat} {old new : WorkerPc Ev}
    (running : p.workers[index]? = some old) (moved : after.workers = p.workers.set index new)
    (lower : new.rank + 3 * after.taskCh.queue.length < old.rank + 3 * p.taskCh.queue.length) :
    after.rank < p.rank := by
  have traded := total_set WorkerPc.rank running new
  rw [rank, rank, moved]
  omega

/-- A worker of a closed and cancelled pool that has not returned can take a step that lowers
the rank. -/
theorem worker_leaves {p : Pool Ev} {index : Nat} {pc : WorkerPc Ev}
    (running : p.workers[index]? = some pc) (unfinished : pc ≠ .done) (closed : p.closed = true)
    (cancelled : p.ctxDone = true) :
    ∃ after out, p.step (pc.leave index) = some (after, out) ∧ after.rank < p.rank ∧
      after.closed = true ∧ after.ctxDone = true ∧ after.shutdowns = p.shutdowns := by
  cases pc with
  | select =>
    have stepped : p.step (.select index .done) =
        some ({ p with workers := p.workers.set index .ranging }, []) := by
      simp only [step, select, running, cancelled, if_true]
    exact ⟨_, _, stepped, rank_set running rfl (by simp [WorkerPc.rank]), closed, cancelled, rfl⟩
  | parked =>
    have stepped : p.step (.select index .taskCh) =
        some ({ p with workers := p.workers.set index .done }, []) := by
      simp only [step, select, running, closed, if_true]
    exact ⟨_, _, stepped, rank_set running rfl (by simp [WorkerPc.rank]), closed, cancelled, rfl⟩
  | received ev =>
    have stepped : p.step (.submit index true) =
        some ({ p with workers := p.workers.set index (.counting true) },
          [.submitted ev true]) := by
      simp only [step, submit, running]
    exact ⟨_, _, stepped, rank_set running rfl (by simp [WorkerPc.rank]), closed, cancelled, rfl⟩
  | rangeReceived ev =>
    have stepped : p.step (.submit index true) =
        some ({ p with workers := p.workers.set index .rangeCounting },
          [.submitted ev true]) := by
      simp only [step, submit, running]
    exact ⟨_, _, stepped, rank_set running rfl (by simp [WorkerPc.rank]), closed, cancelled, rfl⟩
  | counting accepted =>
    cases accepted with
    | true =>
      have stepped : p.step (.worker index) = some ({ p with
          processed := p.processed + 1, workers := p.workers.set index .select }, []) := by
        simp only [step, advance, running]
      exact ⟨_, _, stepped, rank_set running rfl (by simp [WorkerPc.rank]), closed, cancelled,
        rfl⟩
    | false =>
      have stepped : p.step (.worker index) = some ({ p with
          dropped := p.dropped + 1, workers := p.workers.set index .select }, []) := by
        simp only [step, advance, running]
      exact ⟨_, _, stepped, rank_set running rfl (by simp [WorkerPc.rank]), closed, cancelled,
        rfl⟩
  | rangeCounting =>
    have stepped : p.step (.worker index) = some ({ p with
        processed := p.processed + 1, workers := p.workers.set index .ranging }, []) := by
      simp only [step, advance, running]
    exact ⟨_, _, stepped, rank_set running rfl (by simp [WorkerPc.rank]), closed, cancelled, rfl⟩
  | ranging =>
    cases received : p.taskCh.tryReceive with
    | none =>
      have stepped : p.step (.worker index) =
          some ({ p with workers := p.workers.set index .done }, []) := by
        simp only [step, advance, running, received, closed, if_true]
      exact ⟨_, _, stepped, rank_set running rfl (by simp [WorkerPc.rank]), closed, cancelled,
        rfl⟩
    | some front =>
      obtain ⟨ev, taskCh⟩ := front
      have stepped : p.step (.worker index) = some ({ p with
          taskCh, workers := p.workers.set index (.rangeReceived ev) },
            [.received index ev]) := by
        simp only [step, advance, running, received]
      have shorter : p.taskCh.queue.length = taskCh.queue.length + 1 := by
        rw [(Channel.tryReceive_some received).1, List.length_cons]
      refine ⟨_, _, stepped, rank_set running rfl ?_, closed, cancelled, rfl⟩
      simp only [WorkerPc.rank]
      omega
  | done => exact absurd rfl unfinished

/-- A schedule of steps of the workers and of the callers of `Shutdown` takes the caller that
swapped the flag to its return. -/
def Finishes (p : Pool Ev) : Prop :=
  ∃ schedule last out, (∀ action ∈ schedule, Act.drains action = true) ∧
    (system Ev).exec System.unguarded p schedule = some (last, out) ∧
    .returned true ∈ last.shutdowns

/-- A pool that finishes after one more such step finishes. -/
theorem Finishes.step {p after : Pool Ev} {action : Act Ev} {out : List (Obs Ev)}
    (finishes : after.Finishes) (own : action.drains = true)
    (stepped : p.step action = some (after, out)) : p.Finishes := by
  obtain ⟨schedule, last, later, drains, executed, returned⟩ := finishes
  refine ⟨action :: schedule, last, out ++ later, ?_, ?_, returned⟩
  · rintro step (_ | ⟨_, member⟩)
    · exact own
    · exact drains step member
  · have first : (system Ev).step p action = some (after, out) := stepped
    simp only [System.exec, System.unguarded, if_true, first, executed]

/-- The caller that waits for the workers returns. -/
theorem waiting_finishes {p : Pool Ev} {caller : Nat}
    (waiting : p.shutdowns[caller]? = some .waiting) (closed : p.closed = true)
    (cancelled : p.ctxDone = true) : p.Finishes := by
  induction bound : p.rank using Nat.strongRecOn generalizing p with
  | ind rank ih =>
    by_cases finished : ∀ worker ∈ p.workers, worker = .done
    · have all : p.workers.all WorkerPc.isDone = true := by
        refine List.all_eq_true.mpr fun worker member => ?_
        rw [finished worker member]
        rfl
      have stepped : p.step (.shutdown caller) =
          some ({ p with shutdowns := p.shutdowns.set caller (.returned true) }, []) := by
        simp only [step, shutdown, waiting, all, if_true]
      have inside : caller < p.shutdowns.length := (List.getElem?_eq_some_iff.mp waiting).1
      have last : Finishes
          { p with shutdowns := p.shutdowns.set caller (.returned true) } := by
        exact ⟨[], _, [], by simp, rfl, List.mem_set inside _⟩
      exact last.step rfl stepped
    · push Not at finished
      obtain ⟨worker, member, unfinished⟩ := finished
      obtain ⟨index, running⟩ := List.getElem?_of_mem member
      obtain ⟨after, out, stepped, lower, closed, cancelled, same⟩ :=
        worker_leaves running unfinished closed cancelled
      have rest : after.Finishes :=
        ih after.rank (bound ▸ lower) (same ▸ waiting) closed cancelled rfl
      exact rest.step (by cases worker <;> rfl) stepped

/-- A flag that counts for at least one is set. -/
theorem set_of_counted {flag : Bool} (counted : 1 ≤ flag.toNat) : flag = true := by
  cases flag with
  | true => rfl
  | false => simp at counted

/-- The caller of `Shutdown` that swapped the flag returns. -/
theorem swapped_finishes {seen : List (Obs Ev)} {p : Pool Ev} {index : Nat} {caller : ShutdownPc}
    (inv : p.ClosingInv seen) (running : p.shutdowns[index]? = some caller)
    (won : caller.swapped = 1) : p.Finishes := by
  have inside : index < p.shutdowns.length := (List.getElem?_eq_some_iff.mp running).1
  have counted (held : ShutdownPc → Nat) : held caller ≤ total held p.shutdowns := by
    have gap := total_gap (fun thread => Nat.zero_le (held thread)) running
    omega
  have closes := counted ShutdownPc.hasClosed
  have cancels := counted ShutdownPc.hasCancelled
  rw [inv.closed] at closes
  rw [inv.cancelled] at cancels
  have cancelling {q : Pool Ev} (here : q.shutdowns[index]? = some .cancelling)
      (closed : q.closed = true) : q.Finishes := by
    have stepped : q.step (.shutdown index) = some ({ q with
        ctxDone := true, shutdowns := q.shutdowns.set index .waiting }, []) := by
      simp only [step, shutdown, here]
    have bound : index < q.shutdowns.length := (List.getElem?_eq_some_iff.mp here).1
    have rest : Finishes { q with
        ctxDone := true, shutdowns := q.shutdowns.set index .waiting } :=
      waiting_finishes (List.getElem?_set_self bound) closed rfl
    exact rest.step rfl stepped
  cases caller with
  | cas => simp [ShutdownPc.swapped] at won
  | closing =>
    have stepped : p.step (.shutdown index) = some ({ p with
        closed := true, shutdowns := p.shutdowns.set index .cancelling }, [.closed]) := by
      simp only [step, shutdown, running]
    have rest : Finishes { p with
        closed := true, shutdowns := p.shutdowns.set index .cancelling } :=
      cancelling (List.getElem?_set_self inside) rfl
    exact rest.step rfl stepped
  | cancelling =>
    have closed : p.closed = true := set_of_counted closes
    exact cancelling running closed
  | waiting =>
    have closed : p.closed = true := set_of_counted closes
    have cancelled : p.ctxDone = true := set_of_counted cancels
    exact waiting_finishes running closed cancelled
  | returned result =>
    cases result with
    | true => exact ⟨[], p, [], by simp, rfl, List.mem_of_getElem? running⟩
    | false => simp [ShutdownPc.swapped] at won

/-- Once `Shutdown` has been called, the call that swaps the flag returns. -/
theorem called_finishes {seen : List (Obs Ev)} {p : Pool Ev} (inv : p.ClosingInv seen)
    (called : p.shutdowns ≠ []) : p.Finishes := by
  by_cases won : ∃ caller ∈ p.shutdowns, caller.swapped = 1
  · obtain ⟨caller, member, swapped⟩ := won
    obtain ⟨index, running⟩ := List.getElem?_of_mem member
    exact swapped_finishes inv running swapped
  · push Not at won
    have none : total ShutdownPc.swapped p.shutdowns = 0 := by
      apply total_eq_zero
      intro caller member
      have lost := won caller member
      cases caller with
      | returned result => cases result <;> simp_all [ShutdownPc.swapped]
      | _ => simp_all [ShutdownPc.swapped]
    have clear : p.isShuttingDown = false := by
      rw [inv.swapped] at none
      simpa using none
    obtain ⟨caller, rest, first⟩ := List.exists_cons_of_ne_nil called
    have member : caller ∈ p.shutdowns := by
      rw [first]
      exact List.mem_cons_self
    have before : caller = .cas := by
      have lost := won caller member
      cases caller with
      | cas => rfl
      | returned result =>
        cases result with
        | true => simp [ShutdownPc.swapped] at lost
        | false =>
          have flag := inv.lost member
          simp [clear] at flag
      | _ => simp [ShutdownPc.swapped] at lost
    have running : p.shutdowns[0]? = some .cas := by
      rw [first, before]
      rfl
    have stepped : p.step (.shutdown 0) = some ({ p with
        isShuttingDown := true, shutdowns := p.shutdowns.set 0 .closing }, []) := by
      simp only [step, shutdown, running, clear, Bool.false_eq_true, if_false]
    have after := step_closing inv stepped
    have inside : 0 < p.shutdowns.length := List.length_pos_iff.mpr called
    have finishes := swapped_finishes after (List.getElem?_set_self inside) rfl
    exact finishes.step rfl stepped

end Pool

/-- The channel of a pool with workers is closed at most once. When the call of `Shutdown` that
swapped the flag has returned, it was closed once and is empty, every worker has returned, the
events sent were received in that order, each by one worker, and each was submitted once. Once
`Shutdown` has been called, the workers and its callers lead to that return by themselves. -/
theorem shutdown_drains {numWorkers queueSize : Nat} (positive : 1 ≤ numWorkers)
    {seen : List (Obs Ev)} {p : Pool Ev}
    (run : (system Ev).AnyRun (.start numWorkers queueSize) seen p) :
    seen.countP Obs.isClosed ≤ 1 ∧
      (.returned true ∈ p.shutdowns →
        seen.countP Obs.isClosed = 1 ∧ p.taskCh.queue = [] ∧
          (∀ worker ∈ p.workers, worker = .done) ∧
          (seen.flatMap Obs.receipts).map Prod.snd = seen.flatMap Obs.sentEvents ∧
          (seen.flatMap Obs.submittedEvents).Perm (seen.flatMap Obs.sentEvents)) ∧
      (p.shutdowns ≠ [] → p.Finishes) := by
  have closing := run_closing run
  obtain ⟨rest, flow⟩ := run_flow run
  refine ⟨?_, fun returned => ?_, Pool.called_finishes closing⟩
  · rw [closing.observed]
    exact Bool.toNat_le _
  · have joined := rest.joined returned
    have some_worker : 0 < p.workers.length := by
      rw [run_workers run]
      exact positive
    have first := List.getElem_mem some_worker
    have stopped : .done ∈ p.workers := by
      rw [← joined _ first]
      exact first
    obtain ⟨closed, empty⟩ := rest.finished stopped
    have hands : total WorkerPc.inHand p.workers = 0 :=
      total_eq_zero fun worker member => inHand_done (joined worker member)
    have received : seen.flatMap Obs.receivedEvents = seen.flatMap Obs.sentEvents := by
      rw [flow.fifo, empty, List.append_nil]
    refine ⟨?_, empty, joined, ?_, ?_⟩
    · rw [closing.observed, closed]
      rfl
    · rw [receipts_events, received]
    · have handled := flow.handled
      rw [hands, add_zero, received] at handled
      exact Multiset.coe_eq_coe.mp handled.symm

/-- Two workers: one receives an event and sees the close, the other drains a second event after
the cancel; both events are submitted when `Shutdown` returns. -/
theorem shutdown_drains_two :
    ∃ seen p, (system Nat).AnyRun (.start 2 2) seen p ∧ p.taskCh.queue = [] ∧
      (seen.flatMap Obs.receipts).map Prod.snd = [1, 2] ∧
      (seen.flatMap Obs.submittedEvents).Perm [1, 2] := by
  obtain ⟨seen, p, run, passed⟩ := System.exec_witness (system Nat) System.unguarded (.start 2 2)
    [.call [1, 2], .caller 0 none, .caller 0 none, .caller 0 none, .caller 0 none, .caller 0 none,
      .caller 0 none, .callShutdown, .callShutdown, .shutdown 0, .shutdown 1, .shutdown 0,
      .select 0 .taskCh, .shutdown 0, .select 1 .done, .worker 1, .submit 1 false, .submit 0 true,
      .worker 1, .worker 0, .worker 1, .select 0 .taskCh, .shutdown 0]
    (fun (p, seen) => p.shutdowns.contains (.returned true) &&
      seen.flatMap Obs.sentEvents = [1, 2]) (by decide)
  simp only [Bool.and_eq_true, List.contains_iff_mem, decide_eq_true_eq] at passed
  obtain ⟨returned, sent⟩ := passed
  obtain ⟨_, empty, _, received, submitted⟩ :=
    (shutdown_drains (by decide) run).2.1 returned
  rw [sent] at received submitted
  exact ⟨seen, p, run, empty, received, submitted⟩

end IngestionEngine.Worker
