import Mathlib.Algebra.Group.Prod
import IngestionEngine.Worker.Counters
import IngestionEngine.Worker.Race

/-!
# The callers of the pool

What a goroutine in `Enqueue` or `EnqueueBatch` has counted for itself adds up to what the pool has
counted. It never waits: unless it has panicked, its next step can be taken in every state, and each
of its steps brings it closer to its return.
-/

namespace IngestionEngine.Worker

open Systems

variable {Ev : Type}

/-- An `Enqueue` returned an error. -/
def Obs.isFailed : Obs Ev → Bool
  | .enqueued _ (some _) => true
  | _ => false

/-- An `Enqueue` returned `ErrPoolShut`. -/
def Obs.isShut : Obs Ev → Bool
  | .enqueued _ (some .poolShut) => true
  | _ => false

/-- What a caller has counted as accepted and as dropped. -/
def Caller.tally (caller : Caller Ev) : Nat × Nat := (caller.acceptedCount, caller.droppedCount)

/-- The number of events that it was given. -/
def Caller.size (caller : Caller Ev) : Nat :=
  caller.acceptedCount + caller.droppedCount + caller.rest.length

/-- An upper bound on the steps that it still takes. -/
def Caller.rank (caller : Caller Ev) : Nat :=
  match caller.pc with
  | .check => 3 * caller.rest.length
  | .send => 3 * caller.rest.length - 1
  | .sent | .refused => 3 * caller.rest.length - 2
  | .panicked => 0

/-- An error is `ErrQueueFull` or `ErrPoolShut`. -/
theorem failed_split (seen : List (Obs Ev)) :
    seen.countP Obs.isFailed = seen.countP Obs.isRejected + seen.countP Obs.isShut := by
  induction seen with
  | nil => rfl
  | cons first rest ih =>
    have one : (if Obs.isFailed first then 1 else 0) =
        (if Obs.isRejected first then 1 else 0) + if Obs.isShut first then 1 else 0 := by
      cases first with
      | enqueued ev result =>
        cases result with
        | none => rfl
        | some error => cases error <;> rfl
      | sent | received | panicked | submitted | closed => rfl
    rw [List.countP_cons, List.countP_cons, List.countP_cons, ih]
    omega

namespace Pool

variable {p after : Pool Ev} {index : Nat} {action : Act Ev} {out : List (Obs Ev)}

/-- A step of a caller changes that caller alone: it counts what its `Enqueue` returns, it loses no
event, and it comes closer to its return. -/
theorem enqueue_caller (moved : Enqueue p index after out) : ∃ caller new,
    p.callers[index]? = some caller ∧ after.callers = p.callers.set index new ∧
      new.tally = caller.tally + (out.countP Obs.isAccepted, out.countP Obs.isFailed) ∧
      new.size = caller.size ∧ new.rank < caller.rank := by
  cases moved with
  | @shut caller ev rest running current here | @drop caller ev rest running current here =>
    refine ⟨caller, caller.lost, running, rfl, rfl, ?_, ?_⟩
    · simp only [Caller.size, Caller.lost, current, List.tail_cons, List.length_cons]
      omega
    · simp only [Caller.rank, Caller.lost, current, here, List.tail_cons, List.length_cons]
      omega
  | @accept caller ev rest running current here =>
    refine ⟨caller, caller.kept, running, rfl, rfl, ?_, ?_⟩
    · simp only [Caller.size, Caller.kept, current, List.tail_cons, List.length_cons]
      omega
    · simp only [Caller.rank, Caller.kept, current, here, List.tail_cons, List.length_cons]
      omega
  | @load caller ev rest running current here | @panic caller ev rest running current here
  | @meet caller ev rest _ running current here | @queue caller ev rest _ running current here
  | @refuse caller ev rest running current here =>
    refine ⟨caller, _, running, rfl, rfl, rfl, ?_⟩
    simp only [Caller.rank, current, here, List.length_cons]
    omega

/-- A step of anyone else leaves the callers alone, and counts nothing for them. -/
theorem step_callers (none : ∀ events, action ≠ .call events)
    (other : ∀ index waiter, action ≠ .caller index waiter)
    (stepped : p.step action = some (after, out)) :
    after.callers = p.callers ∧ out.countP Obs.isAccepted = 0 ∧ out.countP Obs.isFailed = 0 := by
  cases step_cases stepped with
  | call events => exact absurd rfl (none events)
  | caller => exact absurd rfl (other _ _)
  | callShutdown => exact ⟨rfl, rfl, rfl⟩
  | select moved | worker moved => cases moved <;> exact ⟨rfl, rfl, rfl⟩
  | submit moved | shutdown moved => cases moved <;> exact ⟨rfl, rfl, rfl⟩

/-- What the callers have counted is what the pool shows. -/
def Tallied (seen : List (Obs Ev)) (p : Pool Ev) : Prop :=
  total Caller.tally p.callers = (seen.countP Obs.isAccepted, seen.countP Obs.isFailed)

/-- Every step keeps the count. -/
theorem step_tallied {seen : List (Obs Ev)} (tallied : p.Tallied seen)
    (stepped : p.step action = some (after, out)) : after.Tallied (seen ++ out) := by
  unfold Tallied at tallied ⊢
  rw [List.countP_append, List.countP_append, ← Prod.mk_add_mk, ← tallied]
  have stays (callers : after.callers = p.callers) (accepted : out.countP Obs.isAccepted = 0)
      (failed : out.countP Obs.isFailed = 0) : total Caller.tally after.callers =
        total Caller.tally p.callers + (out.countP Obs.isAccepted, out.countP Obs.isFailed) := by
    rw [callers, accepted, failed]
    exact (add_zero _).symm
  cases action with
  | call events =>
    obtain ⟨rfl, rfl⟩ := Prod.mk.inj (Option.some.inj stepped)
    show total Caller.tally (p.callers ++ [⟨events, .check, 0, 0⟩]) = _
    rw [total_append, total_cons, total_nil]
    rfl
  | caller index waiter =>
    obtain ⟨caller, new, running, callers, counts, _, _⟩ := enqueue_caller (enqueue_cases stepped)
    have traded := total_set Caller.tally running new
    rw [counts, add_comm caller.tally, ← add_assoc] at traded
    rw [callers]
    exact add_right_cancel traded
  | callShutdown | select | worker | submit | shutdown =>
    obtain ⟨callers, accepted, failed⟩ := step_callers (by simp) (by simp) stepped
    exact stays callers accepted failed

/-- No counter of the pool goes back. -/
theorem step_grows (stepped : p.step action = some (after, out)) :
    p.accepted ≤ after.accepted ∧ p.dropped ≤ after.dropped ∧ p.processed ≤ after.processed := by
  cases step_cases stepped with
  | call | callShutdown => exact ⟨Nat.le_refl _, Nat.le_refl _, Nat.le_refl _⟩
  | caller moved =>
    cases moved with
    | accept => exact ⟨Nat.le_succ _, Nat.le_refl _, Nat.le_refl _⟩
    | drop => exact ⟨Nat.le_refl _, Nat.le_succ _, Nat.le_refl _⟩
    | shut | load | panic | meet | queue | refuse =>
      exact ⟨Nat.le_refl _, Nat.le_refl _, Nat.le_refl _⟩
  | select moved | worker moved =>
    cases moved with
    | count | countDrained => exact ⟨Nat.le_refl _, Nat.le_refl _, Nat.le_succ _⟩
    | lose => exact ⟨Nat.le_refl _, Nat.le_succ _, Nat.le_refl _⟩
    | cancelled | receive | drain | finish | woken | block =>
      exact ⟨Nat.le_refl _, Nat.le_refl _, Nat.le_refl _⟩
  | submit moved | shutdown moved =>
    cases moved <;> exact ⟨Nat.le_refl _, Nat.le_refl _, Nat.le_refl _⟩

/-- The send of `Enqueue` never blocks. -/
theorem send_enabled (p : Pool Ev) (index : Nat) (caller : Caller Ev) (ev : Ev) :
    ∃ waiter, (p.send index caller ev waiter).isSome = true := by
  by_cases closed : p.closed = true
  · refine ⟨none, ?_⟩
    simp only [send, if_pos closed, Option.isSome_some]
  · by_cases waiting : p.workers.any WorkerPc.isParked = true
    · obtain ⟨worker, member, parked⟩ := List.any_eq_true.mp waiting
      obtain ⟨place, found⟩ := List.getElem?_of_mem member
      have same : worker = .parked := by
        cases worker with
        | parked => rfl
        | _ => simp [WorkerPc.isParked] at parked
      refine ⟨some place, ?_⟩
      simp only [send, if_neg closed, found, same, Option.isSome_some]
    · refine ⟨none, ?_⟩
      simp only [send, if_neg closed, if_neg waiting]
      cases p.taskCh.trySend ev <;> rfl

/-- A caller that has not panicked and has events left can take its next step. -/
theorem enqueue_enabled {caller : Caller Ev} (running : p.callers[index]? = some caller)
    (unfinished : caller.rest ≠ []) (alive : caller.pc ≠ .panicked) :
    ∃ waiter, (p.enqueue index waiter).isSome = true := by
  obtain ⟨ev, rest, current⟩ := List.exists_cons_of_ne_nil unfinished
  cases here : caller.pc with
  | check =>
    refine ⟨none, ?_⟩
    simp only [enqueue, running, current, here]
    split <;> rfl
  | send =>
    obtain ⟨waiter, sends⟩ := send_enabled p index caller ev
    refine ⟨waiter, ?_⟩
    simp only [enqueue, running, current, here]
    exact sends
  | sent | refused =>
    refine ⟨none, ?_⟩
    simp only [enqueue, running, current, here, Option.isSome_some]
  | panicked => exact absurd here alive

/-- A closed channel stays closed. -/
theorem step_closed (closed : p.closed = true) (stepped : p.step action = some (after, out)) :
    after.closed = true := by
  cases step_cases stepped with
  | call | callShutdown => exact closed
  | caller moved => exact (enqueue_frame moved).2.2.1.trans closed
  | select moved | worker moved => exact (work_frame moved).2.2.1.trans closed
  | submit moved => exact (submit_frame moved).1.2.2.1.trans closed
  | shutdown moved =>
    cases moved with
    | close => rfl
    | lose | win | cancel | finish => exact closed

/-- A caller panics only on a closed channel. -/
theorem step_panicked (sound : ∀ caller ∈ p.callers, caller.pc = .panicked → p.closed = true)
    (stepped : p.step action = some (after, out)) :
    ∀ caller ∈ after.callers, caller.pc = .panicked → after.closed = true := by
  have old (caller : Caller Ev) (member : caller ∈ p.callers) (panicked : caller.pc = .panicked) :
      after.closed = true := step_closed (sound caller member panicked) stepped
  cases step_cases stepped with
  | call events =>
    intro caller member panicked
    rcases List.mem_append.mp member with before | new
    · exact old caller before panicked
    · rw [List.mem_singleton.mp new] at panicked
      contradiction
  | callShutdown => exact old
  | caller moved =>
    cases moved with
    | panic running current here closed => exact forall_mem_set old fun _ => closed
    | shut | load | meet | queue | refuse | accept | drop =>
      exact forall_mem_set old (by intro panicked; contradiction)
  | select moved | worker moved =>
    rw [(work_frame moved).2.2.2.2.2]
    exact old
  | submit moved =>
    rw [(submit_frame moved).1.2.2.2.2.2]
    exact old
  | shutdown moved => cases moved <;> exact old

end Pool

/-- In every run a caller that has panicked has found the channel closed. -/
theorem run_panicked {numWorkers queueSize : Nat} {guard : Pool Ev → Act Ev → Prop}
    {seen : List (Obs Ev)} {p : Pool Ev}
    (run : (system Ev).Run guard (.start numWorkers queueSize) seen p) :
    ∀ caller ∈ p.callers, caller.pc = .panicked → p.closed = true := by
  apply run.state_invariant fun p => ∀ caller ∈ p.callers, caller.pc = .panicked → p.closed = true
  · exact List.forall_mem_nil _
  · intro p action after out sound _ stepped
    exact Pool.step_panicked sound stepped

/-- In every run the callers have counted what the pool shows. -/
theorem run_tallied {numWorkers queueSize : Nat} {guard : Pool Ev → Act Ev → Prop}
    {seen : List (Obs Ev)} {p : Pool Ev}
    (run : (system Ev).Run guard (.start numWorkers queueSize) seen p) : p.Tallied seen := by
  apply run.invariant fun seen p => p.Tallied seen
  · rfl
  · intro seen p action after out tallied _ stepped
    exact Pool.step_tallied tallied stepped

end IngestionEngine.Worker
