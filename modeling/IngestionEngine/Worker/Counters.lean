import IngestionEngine.Worker.Conservation

/-!
# What the counters of the pool say

A counter is updated after the operation that it counts, so between the two the event is in the
hand of a goroutine. With what is in hand added the counters balance in every state. The loop that
drains after a cancel counts an event as processed whatever `Submit` returned; without a refusal
there, `processed` is the number of events that the batch processor took.
-/

namespace IngestionEngine.Worker

open Systems

variable {Ev : Type}

/-- An event was sent. -/
def Obs.isSent : Obs Ev → Bool
  | .sent _ => true
  | _ => false

/-- An `Enqueue` returned nil. -/
def Obs.isAccepted : Obs Ev → Bool
  | .enqueued _ none => true
  | _ => false

/-- An `Enqueue` returned `ErrQueueFull`. -/
def Obs.isRejected : Obs Ev → Bool
  | .enqueued _ (some .queueFull) => true
  | _ => false

/-- A `Submit` returned true. -/
def Obs.isForwarded : Obs Ev → Bool
  | .submitted _ accepted => accepted
  | _ => false

/-- A `Submit` returned false. -/
def Obs.isRefused : Obs Ev → Bool
  | .submitted _ accepted => !accepted
  | _ => false

/-- Events that a caller has sent and not yet counted. -/
def Caller.uncounted (caller : Caller Ev) : Nat :=
  match caller.pc with
  | .sent => 1
  | .check | .send | .refused | .panicked => 0

/-- Events that a worker has received and not yet counted. -/
def WorkerPc.uncounted : WorkerPc Ev → Nat
  | .received _ | .counting _ | .rangeReceived _ | .rangeCounting => 1
  | .select | .parked | .ranging | .done => 0

/-- Events that a worker is about to count as processed. -/
def WorkerPc.processing : WorkerPc Ev → Nat
  | .counting true | .rangeCounting => 1
  | .counting false | .received _ | .rangeReceived _ | .select | .parked | .ranging | .done => 0

/-- Events that a worker is about to count as dropped. -/
def WorkerPc.dropping : WorkerPc Ev → Nat
  | .counting false => 1
  | .counting true | .rangeCounting | .received _ | .rangeReceived _ | .select | .parked | .ranging
  | .done => 0

/-- The worker drains after a cancel, and is about to submit an event. -/
def WorkerPc.drains : WorkerPc Ev → Bool
  | .rangeReceived _ => true
  | _ => false

/-- No `Submit` of the loop that drains after a cancel returns false. -/
def DrainAccepted (p : Pool Ev) : Act Ev → Prop
  | .submit index false => p.workers[index]?.any WorkerPc.drains = false
  | _ => True

instance (p : Pool Ev) (action : Act Ev) : Decidable (DrainAccepted p action) :=
  match action with
  | .submit index false =>
    inferInstanceAs (Decidable (p.workers[index]?.any WorkerPc.drains = false))
  | .submit _ true | .call _ | .callShutdown | .caller _ _ | .select _ _ | .worker _
  | .shutdown _ => inferInstanceAs (Decidable True)

namespace Pool

/-- No goroutine is between an operation on `taskCh` and the update of the counter for it. -/
structure Quiescent (p : Pool Ev) : Prop where
  /-- Each sent event is counted. -/
  callers : ∀ caller ∈ p.callers, caller.pc ≠ .sent ∧ caller.pc ≠ .refused
  /-- Each received event is counted. -/
  workers : ∀ worker ∈ p.workers, worker.uncounted = 0

/-- No worker is between its `Submit` and the update of the counter for it. -/
def Counted (p : Pool Ev) : Prop :=
  ∀ worker ∈ p.workers, worker ≠ .rangeCounting ∧ ∀ accepted, worker ≠ .counting accepted

/-! ### The balance -/

/-- `accepted` counts the calls that return nil. -/
theorem step_accepted {p after : Pool Ev} {action : Act Ev} {out : List (Obs Ev)}
    (stepped : p.step action = some (after, out)) :
    after.accepted = p.accepted + out.countP Obs.isAccepted := by
  cases step_cases stepped with
  | call | callShutdown => rfl
  | caller moved => cases moved <;> rfl
  | select moved | worker moved => cases moved <;> rfl
  | submit moved => cases moved <;> rfl
  | shutdown moved => cases moved <;> rfl

/-- A caller has an event to count from its send until it counts it as accepted. -/
theorem enqueue_uncounted {p after : Pool Ev} {index : Nat} {out : List (Obs Ev)}
    (moved : Enqueue p index after out) :
    total Caller.uncounted after.callers + out.countP Obs.isAccepted =
      total Caller.uncounted p.callers + out.countP Obs.isSent := by
  cases moved with
  | @shut caller _ _ running current here | @drop caller _ _ running current here =>
    have callers := total_set Caller.uncounted running caller.lost
    simp only [Caller.uncounted, Caller.lost, here] at callers
    exact callers
  | @load caller _ _ running current here =>
    have callers := total_set Caller.uncounted running { caller with pc := .send }
    simp only [Caller.uncounted, here] at callers
    exact callers
  | @panic caller _ _ running current here =>
    have callers := total_set Caller.uncounted running { caller with pc := .panicked }
    simp only [Caller.uncounted, here] at callers
    exact callers
  | @refuse caller _ _ running current here =>
    have callers := total_set Caller.uncounted running { caller with pc := .refused }
    simp only [Caller.uncounted, here] at callers
    exact callers
  | @meet caller _ _ _ running current here | @queue caller _ _ _ running current here =>
    have callers := total_set Caller.uncounted running { caller with pc := .sent }
    simp only [Caller.uncounted, here] at callers
    exact callers
  | @accept caller _ _ running current here =>
    have callers := total_set Caller.uncounted running caller.kept
    simp only [Caller.uncounted, Caller.kept, here] at callers
    exact callers

/-- What a caller sends goes into the queue or to a worker, and what it rejects is counted. -/
theorem enqueue_sent {p after : Pool Ev} {index : Nat} {out : List (Obs Ev)}
    (moved : Enqueue p index after out) :
    after.processed + after.dropped + after.taskCh.queue.length +
        total WorkerPc.uncounted after.workers =
      p.processed + p.dropped + p.taskCh.queue.length + total WorkerPc.uncounted p.workers +
        out.countP Obs.isSent + out.countP Obs.isRejected := by
  cases moved with
  | @meet _ ev _ _ running current here opened waiting =>
    have workers := total_set WorkerPc.uncounted waiting (.received ev)
    simp only [WorkerPc.uncounted] at workers
    simp only [List.countP_cons, List.countP_nil, Obs.isSent, Obs.isRejected, Bool.false_eq_true,
      if_false, if_true]
    omega
  | queue running current here opened busy room sent =>
    simp only [sent, List.length_append, List.length_singleton, List.countP_singleton, Obs.isSent,
      Obs.isRejected, Bool.false_eq_true, if_false, if_true]
    omega
  | drop =>
    simp only [List.countP_singleton, Obs.isSent, Obs.isRejected, Bool.false_eq_true, if_false,
      if_true]
    omega
  | shut | load | panic | refuse | accept => rfl

/-- A step of a caller keeps the balance. -/
theorem enqueue_balance {p after : Pool Ev} {index : Nat} {out : List (Obs Ev)}
    (moved : Enqueue p index after out) :
    after.processed + after.dropped + after.taskCh.queue.length +
        total WorkerPc.uncounted after.workers + total Caller.uncounted p.callers =
      p.processed + p.dropped + p.taskCh.queue.length + total WorkerPc.uncounted p.workers +
        total Caller.uncounted after.callers + out.countP Obs.isAccepted +
        out.countP Obs.isRejected := by
  have callers := enqueue_uncounted moved
  have sent := enqueue_sent moved
  omega

/-- A step of a worker keeps the balance. -/
theorem work_balance {p after : Pool Ev} {index : Nat} {out : List (Obs Ev)}
    (moved : Work p index after out) :
    after.processed + after.dropped + after.taskCh.queue.length +
        total WorkerPc.uncounted after.workers =
      p.processed + p.dropped + p.taskCh.queue.length + total WorkerPc.uncounted p.workers := by
  have idle {pc : WorkerPc Ev} (here : pc = .select ∨ pc = .parked ∨ pc = .ranging) :
      pc.uncounted = 0 := by
    rcases here with rfl | rfl | rfl <;> rfl
  cases moved with
  | @cancelled pc running here =>
    have workers := total_gain WorkerPc.uncounted running (idle (here.imp_right .inl)) .ranging
    simp only [WorkerPc.uncounted, Nat.add_zero] at workers
    simp only [workers]
  | @finish pc running here =>
    have workers := total_gain WorkerPc.uncounted running (idle (here.imp_right .inr)) .done
    simp only [WorkerPc.uncounted, Nat.add_zero] at workers
    simp only [workers]
  | @receive ev taskCh running front =>
    have workers := total_set WorkerPc.uncounted running (.received ev)
    simp only [WorkerPc.uncounted] at workers
    simp only [front, List.length_cons]
    omega
  | @drain ev taskCh running front =>
    have workers := total_set WorkerPc.uncounted running (.rangeReceived ev)
    simp only [WorkerPc.uncounted] at workers
    simp only [front, List.length_cons]
    omega
  | woken running =>
    have workers := total_set WorkerPc.uncounted running .done
    simp only [WorkerPc.uncounted, Nat.add_zero] at workers
    simp only [workers]
  | block running =>
    have workers := total_set WorkerPc.uncounted running .parked
    simp only [WorkerPc.uncounted, Nat.add_zero] at workers
    simp only [workers]
  | count running | lose running =>
    have workers := total_set WorkerPc.uncounted running .select
    simp only [WorkerPc.uncounted] at workers
    dsimp only
    omega
  | countDrained running =>
    have workers := total_set WorkerPc.uncounted running .ranging
    simp only [WorkerPc.uncounted] at workers
    dsimp only
    omega

/-- What the counters of a pool say together: received events are processed, dropped, in the
channel or in the hand of a worker, and they were accepted or are in the hand of a caller. -/
structure BalanceInv (seen : List (Obs Ev)) (p : Pool Ev) : Prop where
  /-- `accepted` counts the calls that returned nil. -/
  accepted : p.accepted = seen.countP Obs.isAccepted
  /-- Every event that a caller sent or refused is somewhere. -/
  balance : p.processed + p.dropped + p.taskCh.queue.length + total WorkerPc.uncounted p.workers =
    seen.countP Obs.isAccepted + seen.countP Obs.isRejected + total Caller.uncounted p.callers

/-- Every step keeps the balance. -/
theorem step_balance {seen out : List (Obs Ev)} {p after : Pool Ev} {action : Act Ev}
    (inv : p.BalanceInv seen) (stepped : p.step action = some (after, out)) :
    after.BalanceInv (seen ++ out) := by
  have accepted := step_accepted stepped
  have before := inv.balance
  refine ⟨by rw [accepted, inv.accepted, List.countP_append], ?_⟩
  rw [List.countP_append, List.countP_append]
  cases step_cases stepped with
  | call events =>
    have fresh : total Caller.uncounted (p.callers ++ [⟨events, .check, 0, 0⟩]) =
        total Caller.uncounted p.callers := by simp [Caller.uncounted]
    simp only [fresh, List.countP_nil]
    omega
  | callShutdown =>
    simp only [List.countP_nil]
    omega
  | caller moved =>
    have kept := enqueue_balance moved
    omega
  | select moved | worker moved =>
    have kept := work_balance moved
    obtain ⟨_, _, _, _, _, callers⟩ := work_frame moved
    have silent : out.countP Obs.isAccepted = 0 ∧ out.countP Obs.isRejected = 0 := by
      cases moved <;> exact ⟨rfl, rfl⟩
    rw [callers, silent.1, silent.2]
    omega
  | submit moved =>
    cases moved with
    | @returns ev running =>
      have workers := total_set WorkerPc.uncounted running (.counting ‹Bool›)
      simp only [WorkerPc.uncounted] at workers
      simp only [List.countP_singleton, Obs.isAccepted, Obs.isRejected, Bool.false_eq_true,
        if_false]
      omega
    | @returnsDrained ev running =>
      have workers := total_set WorkerPc.uncounted running .rangeCounting
      simp only [WorkerPc.uncounted] at workers
      simp only [List.countP_singleton, Obs.isAccepted, Obs.isRejected, Bool.false_eq_true,
        if_false]
      omega
  | shutdown moved =>
    cases moved <;> simp only [List.countP_singleton, List.countP_nil, Obs.isAccepted,
      Obs.isRejected, Bool.false_eq_true, if_false] <;> omega

end Pool

/-- In every run the counters balance. -/
theorem run_balance {numWorkers queueSize : Nat} {guard : Pool Ev → Act Ev → Prop}
    {seen : List (Obs Ev)} {p : Pool Ev}
    (run : (system Ev).Run guard (.start numWorkers queueSize) seen p) : p.BalanceInv seen := by
  apply run.invariant fun seen p => p.BalanceInv seen
  · refine ⟨rfl, ?_⟩
    have idle : total WorkerPc.uncounted (List.replicate numWorkers (.select : WorkerPc Ev)) = 0 :=
      total_replicate numWorkers rfl
    show 0 + 0 + 0 + total WorkerPc.uncounted (List.replicate numWorkers .select) = 0 + 0 + 0
    rw [idle]
  · intro seen p action after out inv _ stepped
    exact Pool.step_balance inv stepped

/-- When no goroutine is between an operation on `taskCh` and the counter for it, `accepted` is the
number of `Enqueue` calls that returned nil, and together with those that returned `ErrQueueFull`
they are the events that were processed or dropped and those in the channel. -/
theorem counters_balance {numWorkers queueSize : Nat} {seen : List (Obs Ev)} {p : Pool Ev}
    (run : (system Ev).AnyRun (.start numWorkers queueSize) seen p) (quiescent : p.Quiescent) :
    p.accepted = seen.countP Obs.isAccepted ∧
      p.accepted + seen.countP Obs.isRejected =
        p.processed + p.dropped + p.taskCh.queue.length := by
  have inv := run_balance run
  have workers : total WorkerPc.uncounted p.workers = 0 := total_eq_zero quiescent.workers
  have callers : total Caller.uncounted p.callers = 0 := by
    apply total_eq_zero
    intro caller member
    have counted := quiescent.callers caller member
    unfold Caller.uncounted
    cases here : caller.pc with
    | sent => exact absurd here counted.1
    | check | send | refused | panicked => rfl
  have balance := inv.balance
  rw [inv.accepted]
  rw [workers, callers] at balance
  exact ⟨rfl, by omega⟩

/-- Of three events one is processed, one waits in the channel and one is rejected. -/
theorem counters_balance_three :
    ∃ seen p, (system Nat).AnyRun (.start 1 1) seen p ∧ p.accepted = 2 ∧
      2 + seen.countP Obs.isRejected = p.processed + p.dropped + p.taskCh.queue.length := by
  obtain ⟨seen, p, run, passed⟩ := System.exec_witness (system Nat) System.unguarded (.start 1 1)
    [.call [1, 2, 3], .caller 0 none, .caller 0 none, .caller 0 none, .select 0 .taskCh,
      .submit 0 true, .worker 0, .caller 0 none, .caller 0 none, .caller 0 none, .caller 0 none,
      .caller 0 none, .caller 0 none]
    (fun (p, _) => p.accepted = 2 && p.callers.all (fun caller => caller.pc = .check) &&
      p.workers.all (fun worker => worker = .select)) (by decide)
  simp only [Bool.and_eq_true, decide_eq_true_eq, List.all_eq_true] at passed
  obtain ⟨⟨two, callers⟩, workers⟩ := passed
  have quiescent : p.Quiescent := by
    refine ⟨fun caller member => ?_, fun worker member => ?_⟩
    · rw [callers caller member]
      exact ⟨nofun, nofun⟩
    · rw [workers worker member]
      rfl
  have kept := counters_balance run quiescent
  rw [two] at kept
  exact ⟨seen, p, run, two, kept.2⟩

/-! ### What `processed` counts -/

namespace Pool

/-- A step of a caller counts what it rejects, and nothing that a worker counts. -/
theorem enqueue_counts {p after : Pool Ev} {index : Nat} {out : List (Obs Ev)}
    (moved : Enqueue p index after out) :
    after.processed = p.processed ∧ after.dropped = p.dropped + out.countP Obs.isRejected ∧
      total WorkerPc.processing after.workers = total WorkerPc.processing p.workers ∧
      total WorkerPc.dropping after.workers = total WorkerPc.dropping p.workers ∧
      out.countP Obs.isForwarded = 0 ∧ out.countP Obs.isRefused = 0 := by
  cases moved with
  | meet running current here opened waiting =>
    exact ⟨rfl, rfl, total_gain WorkerPc.processing waiting rfl _,
      total_gain WorkerPc.dropping waiting rfl _, rfl, rfl⟩
  | shut | load | panic | queue | refuse | accept | drop => exact ⟨rfl, rfl, rfl, rfl, rfl, rfl⟩

/-- A worker updates the counter that it stands before. -/
theorem work_counts {p after : Pool Ev} {index : Nat} {out : List (Obs Ev)}
    (moved : Work p index after out) :
    after.processed + total WorkerPc.processing after.workers =
        p.processed + total WorkerPc.processing p.workers ∧
      after.dropped + total WorkerPc.dropping after.workers =
        p.dropped + total WorkerPc.dropping p.workers ∧
      out.countP Obs.isForwarded = 0 ∧ out.countP Obs.isRefused = 0 ∧
      out.countP Obs.isRejected = 0 := by
  -- a worker that stands before no counter leaves both totals alone
  have others {old : WorkerPc Ev} (running : p.workers[index]? = some old)
      (before : old.processing = 0 ∧ old.dropping = 0) (new : WorkerPc Ev)
      (later : new.processing = 0 ∧ new.dropping = 0) :
      total WorkerPc.processing (p.workers.set index new) = total WorkerPc.processing p.workers ∧
        total WorkerPc.dropping (p.workers.set index new) = total WorkerPc.dropping p.workers := by
    constructor
    · rw [total_gain WorkerPc.processing running before.1, later.1, Nat.add_zero]
    · rw [total_gain WorkerPc.dropping running before.2, later.2, Nat.add_zero]
  cases moved with
  | @cancelled pc running here =>
    have still := others running (by rcases here with rfl | rfl <;> exact ⟨rfl, rfl⟩) .ranging
      ⟨rfl, rfl⟩
    exact ⟨by simp only [still.1], by simp only [still.2], rfl, rfl, rfl⟩
  | @finish pc running here =>
    have still := others running (by rcases here with rfl | rfl <;> exact ⟨rfl, rfl⟩) .done
      ⟨rfl, rfl⟩
    exact ⟨by simp only [still.1], by simp only [still.2], rfl, rfl, rfl⟩
  | @receive ev taskCh running =>
    have still := others running ⟨rfl, rfl⟩ (.received ev) ⟨rfl, rfl⟩
    exact ⟨by simp only [still.1], by simp only [still.2], rfl, rfl, rfl⟩
  | @drain ev taskCh running =>
    have still := others running ⟨rfl, rfl⟩ (.rangeReceived ev) ⟨rfl, rfl⟩
    exact ⟨by simp only [still.1], by simp only [still.2], rfl, rfl, rfl⟩
  | woken running =>
    have still := others running ⟨rfl, rfl⟩ .done ⟨rfl, rfl⟩
    exact ⟨by simp only [still.1], by simp only [still.2], rfl, rfl, rfl⟩
  | block running =>
    have still := others running ⟨rfl, rfl⟩ .parked ⟨rfl, rfl⟩
    exact ⟨by simp only [still.1], by simp only [still.2], rfl, rfl, rfl⟩
  | count running | lose running =>
    have processing := total_set WorkerPc.processing running .select
    have dropping := total_set WorkerPc.dropping running .select
    simp only [WorkerPc.processing, WorkerPc.dropping] at processing dropping
    exact ⟨by dsimp only; omega, by dsimp only; omega, rfl, rfl, rfl⟩
  | countDrained running =>
    have processing := total_set WorkerPc.processing running .ranging
    have dropping := total_set WorkerPc.dropping running .ranging
    simp only [WorkerPc.processing, WorkerPc.dropping] at processing dropping
    exact ⟨by dsimp only; omega, by dsimp only; omega, rfl, rfl, rfl⟩

/-- A `Submit` is counted as it returned, unless a worker drains: then it is counted as
processed in either case. -/
theorem submit_counts {p after : Pool Ev} {index : Nat} {accepted : Bool} {out : List (Obs Ev)}
    (moved : Submit p index accepted after out) :
    ∃ lost, (lost = 0 ↔ DrainAccepted p (.submit index accepted)) ∧
      after.processed + total WorkerPc.processing after.workers =
        p.processed + total WorkerPc.processing p.workers + out.countP Obs.isForwarded + lost ∧
      after.dropped + total WorkerPc.dropping after.workers + lost =
        p.dropped + total WorkerPc.dropping p.workers + out.countP Obs.isRejected +
          out.countP Obs.isRefused := by
  cases moved with
  | @returns ev running =>
    have processing := total_gain WorkerPc.processing running rfl (.counting accepted)
    have dropping := total_gain WorkerPc.dropping running rfl (.counting accepted)
    refine ⟨0, ?_, ?_, ?_⟩
    · cases accepted <;> simp [DrainAccepted, running, WorkerPc.drains]
    · simp only [processing]
      cases accepted <;> rfl
    · simp only [dropping]
      cases accepted <;> rfl
  | @returnsDrained ev running =>
    have processing := total_gain WorkerPc.processing running rfl .rangeCounting
    have dropping := total_gain WorkerPc.dropping running rfl .rangeCounting
    refine ⟨if accepted then 0 else 1, ?_, ?_, ?_⟩
    · cases accepted <;> simp [DrainAccepted, running, WorkerPc.drains]
    · simp only [processing]
      cases accepted <;> rfl
    · simp only [dropping]
      cases accepted <;> rfl

/-- A step loses an event from the counters if it is the refusal of one that a worker drains: that
one is counted as processed and not as dropped. -/
theorem step_counts {p after : Pool Ev} {action : Act Ev} {out : List (Obs Ev)}
    (stepped : p.step action = some (after, out)) :
    ∃ lost, (lost = 0 ↔ DrainAccepted p action) ∧
      after.processed + total WorkerPc.processing after.workers =
        p.processed + total WorkerPc.processing p.workers + out.countP Obs.isForwarded + lost ∧
      after.dropped + total WorkerPc.dropping after.workers + lost =
        p.dropped + total WorkerPc.dropping p.workers + out.countP Obs.isRejected +
          out.countP Obs.isRefused := by
  cases step_cases stepped with
  | call | callShutdown => exact ⟨0, by simp [DrainAccepted], rfl, rfl⟩
  | caller moved =>
    obtain ⟨processed, dropped, processing, dropping, forwarded, refused⟩ := enqueue_counts moved
    refine ⟨0, by simp [DrainAccepted], ?_, ?_⟩
    · omega
    · omega
  | select moved | worker moved =>
    obtain ⟨processed, dropped, forwarded, refused, rejected⟩ := work_counts moved
    refine ⟨0, by simp [DrainAccepted], ?_, ?_⟩
    · omega
    · omega
  | submit moved => exact submit_counts moved
  | shutdown moved =>
    refine ⟨0, by simp [DrainAccepted], ?_, ?_⟩
    · cases moved <;> rfl
    · cases moved <;> rfl

/-- When no worker stands before a counter, nothing is about to be counted. -/
theorem Counted.totals {p : Pool Ev} (counted : p.Counted) :
    total WorkerPc.processing p.workers = 0 ∧ total WorkerPc.dropping p.workers = 0 := by
  have idle (worker : WorkerPc Ev) (member : worker ∈ p.workers) :
      worker.processing = 0 ∧ worker.dropping = 0 := by
    obtain ⟨drained, submitted⟩ := counted worker member
    cases worker with
    | counting accepted => exact absurd rfl (submitted accepted)
    | rangeCounting => exact absurd rfl drained
    | select | parked | received | ranging | rangeReceived | done => exact ⟨rfl, rfl⟩
  exact ⟨total_eq_zero fun worker member => (idle worker member).1,
    total_eq_zero fun worker member => (idle worker member).2⟩

end Pool

/-- In a run in which no `Submit` of a draining worker is refused the counters of the workers say
what `Submit` returned. -/
theorem run_counts {numWorkers queueSize : Nat} {seen : List (Obs Ev)} {p : Pool Ev}
    (run : (system Ev).Run DrainAccepted (.start numWorkers queueSize) seen p) :
    p.processed + total WorkerPc.processing p.workers = seen.countP Obs.isForwarded ∧
      p.dropped + total WorkerPc.dropping p.workers =
        seen.countP Obs.isRejected + seen.countP Obs.isRefused := by
  refine run.invariant (fun seen p =>
    p.processed + total WorkerPc.processing p.workers = seen.countP Obs.isForwarded ∧
      p.dropped + total WorkerPc.dropping p.workers =
        seen.countP Obs.isRejected + seen.countP Obs.isRefused) ?_ ?_
  · have processing : total WorkerPc.processing
        (List.replicate numWorkers (.select : WorkerPc Ev)) = 0 := total_replicate numWorkers rfl
    have dropping : total WorkerPc.dropping
        (List.replicate numWorkers (.select : WorkerPc Ev)) = 0 := total_replicate numWorkers rfl
    exact ⟨by simp only [Pool.start, processing, List.countP_nil],
      by simp only [Pool.start, dropping, List.countP_nil]⟩
  · intro seen p action after out inv permitted stepped
    obtain ⟨lost, none, processed, dropped⟩ := Pool.step_counts stepped
    have nothing := none.mpr permitted
    simp only [List.countP_append]
    constructor <;> omega

/-- From a state on, the events counted as processed stay ahead of those that `Submit` took. -/
theorem run_ahead {guard : Pool Ev → Act Ev → Prop} {first p : Pool Ev} {later : List (Obs Ev)}
    (run : (system Ev).Run guard first later p) :
    first.processed + total WorkerPc.processing first.workers + later.countP Obs.isForwarded ≤
      p.processed + total WorkerPc.processing p.workers := by
  refine run.invariant (fun later p =>
    first.processed + total WorkerPc.processing first.workers + later.countP Obs.isForwarded ≤
      p.processed + total WorkerPc.processing p.workers) (Nat.le_refl _) ?_
  intro later p action after out ahead _ stepped
  obtain ⟨lost, _, processed, _⟩ := Pool.step_counts stepped
  rw [List.countP_append]
  omega

/-- As long as the loop that drains after a cancel has no `Submit` refused, `processed` is the
number of events that `Submit` took and each refusal is counted as dropped, whenever no worker is
between a `Submit` and its counter. After the first refusal there `processed` is ahead of that
number for good. -/
theorem processed_truthful (numWorkers queueSize : Nat) :
    (∀ (seen : List (Obs Ev)) (p : Pool Ev),
        (system Ev).Run DrainAccepted (.start numWorkers queueSize) seen p → p.Counted →
        p.processed = seen.countP Obs.isForwarded ∧
          p.dropped = seen.countP Obs.isRejected + seen.countP Obs.isRefused) ∧
      ∀ (seen out later : List (Obs Ev)) (p after last : Pool Ev) (action : Act Ev),
        (system Ev).AnyRun (.start numWorkers queueSize) seen p →
        (system Ev).step p action = some (after, out) → ¬ DrainAccepted p action →
        (system Ev).AnyRun after later last → last.Counted →
        (seen ++ out ++ later).countP Obs.isForwarded < last.processed := by
  constructor
  · intro seen p run counted
    have counts := run_counts run
    obtain ⟨processing, dropping⟩ := counted.totals
    rw [processing, dropping] at counts
    exact counts
  · intro seen out later p after last action run stepped refused rest counted
    have started := run_ahead run
    obtain ⟨lost, none, processed, _⟩ := Pool.step_counts stepped
    have one : lost ≠ 0 := fun nothing => refused (none.mp nothing)
    have ended := run_ahead rest
    rw [counted.totals.1] at ended
    have idle : total WorkerPc.processing (List.replicate numWorkers (.select : WorkerPc Ev)) = 0 :=
      total_replicate numWorkers rfl
    simp only [Pool.start, idle] at started
    rw [List.countP_append, List.countP_append]
    omega

/-- One worker has one `Submit` refused, sees the shutdown and drains an event that the batch
processor takes. -/
theorem processed_truthful_drained :
    ∃ seen p, (system Nat).Run DrainAccepted (.start 1 2) seen p ∧
      1 = seen.countP Obs.isForwarded ∧
      1 = seen.countP Obs.isRejected + seen.countP Obs.isRefused := by
  obtain ⟨seen, p, run, passed⟩ := System.exec_witness (system Nat) DrainAccepted (.start 1 2)
    [.call [1, 2], .caller 0 none, .caller 0 none, .caller 0 none, .caller 0 none, .caller 0 none,
      .caller 0 none, .select 0 .taskCh, .submit 0 false, .worker 0, .callShutdown, .shutdown 0,
      .shutdown 0, .shutdown 0, .select 0 .done, .worker 0, .submit 0 true, .worker 0]
    (fun (p, _) => p.processed = 1 && p.dropped = 1 &&
      p.workers.all (fun worker => worker = .ranging)) (by decide)
  simp only [Bool.and_eq_true, decide_eq_true_eq, List.all_eq_true] at passed
  obtain ⟨⟨processed, dropped⟩, workers⟩ := passed
  have counted : p.Counted := by
    intro worker member
    rw [workers worker member]
    exact ⟨nofun, nofun⟩
  have kept := (processed_truthful 1 2).1 seen p run counted
  rw [processed, dropped] at kept
  exact ⟨seen, p, run, kept⟩

/-- A worker that drains counts an event as processed that the batch processor refused. -/
theorem processed_overstated :
    ¬ ∀ (numWorkers queueSize : Nat) (seen : List (Obs Nat)) (p : Pool Nat),
      (system Nat).AnyRun (.start numWorkers queueSize) seen p → p.Counted →
      p.processed = seen.countP Obs.isForwarded ∧
        p.dropped = seen.countP Obs.isRejected + seen.countP Obs.isRefused := by
  intro truthful
  obtain ⟨seen, p, run, passed⟩ := System.exec_witness (system Nat) System.unguarded (.start 1 1)
    [.call [1], .caller 0 none, .caller 0 none, .caller 0 none, .callShutdown, .shutdown 0,
      .shutdown 0, .shutdown 0, .select 0 .done, .worker 0, .submit 0 false, .worker 0]
    (fun (p, seen) => p.processed = 1 && seen.countP Obs.isForwarded = 0 &&
      p.workers.all (fun worker => worker = .ranging)) (by decide)
  simp only [Bool.and_eq_true, decide_eq_true_eq, List.all_eq_true] at passed
  obtain ⟨⟨processed, forwarded⟩, workers⟩ := passed
  have counted : p.Counted := by
    intro worker member
    rw [workers worker member]
    exact ⟨nofun, nofun⟩
  have same := (truthful 1 1 seen p run counted).1
  omega

end IngestionEngine.Worker
