import Mathlib.Algebra.Order.Group.Multiset
import IngestionEngine.Worker.Closing

/-!
# What becomes of the events of the pool

Every event sent on `taskCh` is received once, in the order of the sends, and every received
event is passed to `Submit` once; in between it is in the channel or in the hand of one
worker. A worker returns only when the channel is closed and empty, and `Shutdown` returns
only when every worker has.
-/

namespace IngestionEngine.Worker

open Systems

variable {Ev : Type}

/-- The events sent on `taskCh`. -/
def Obs.sentEvents : Obs Ev → List Ev
  | .sent ev => [ev]
  | _ => []

/-- The events received from `taskCh`. -/
def Obs.receivedEvents : Obs Ev → List Ev
  | .received _ ev => [ev]
  | _ => []

/-- The events whose `Enqueue` returned nil. -/
def Obs.acceptedEvents : Obs Ev → List Ev
  | .enqueued ev none => [ev]
  | _ => []

/-- The events passed to `Submit`. -/
def Obs.submittedEvents : Obs Ev → List Ev
  | .submitted ev _ => [ev]
  | _ => []

/-- The events that `Submit` accepted. -/
def Obs.forwardedEvents : Obs Ev → List Ev
  | .submitted ev true => [ev]
  | _ => []

/-- The events that `Submit` refused. -/
def Obs.refusedEvents : Obs Ev → List Ev
  | .submitted ev false => [ev]
  | _ => []

/-- The event that a caller has sent and not yet answered for. -/
def Caller.inTransit (caller : Caller Ev) : Multiset Ev :=
  match caller.pc with
  | .sent => caller.rest.take 1
  | _ => 0

/-- The event in the hand of a worker. -/
def WorkerPc.inHand : WorkerPc Ev → Multiset Ev
  | .received ev | .rangeReceived ev => {ev}
  | _ => 0

namespace Pool

/-- A worker that waits or has returned tells something about the channel, and a call of
`Shutdown` that has returned about the workers. -/
structure RestInv (p : Pool Ev) : Prop where
  /-- A worker blocks only on an empty channel. -/
  waiting : .parked ∈ p.workers → p.taskCh.queue = []
  /-- A worker returns only once the channel is closed and empty. -/
  finished : .done ∈ p.workers → p.closed = true ∧ p.taskCh.queue = []
  /-- `Shutdown` waits for every worker. -/
  joined : .returned true ∈ p.shutdowns → ∀ worker ∈ p.workers, worker = .done

/-- A worker that runs has not returned. -/
theorem work_running {p after : Pool Ev} {index : Nat} {out : List (Obs Ev)}
    (moved : Work p index after out) : ∃ worker ∈ p.workers, worker ≠ .done := by
  cases moved with
  | @cancelled pc running here =>
    refine ⟨pc, List.mem_of_getElem? running, ?_⟩
    rcases here with rfl | rfl <;> exact nofun
  | @finish pc running here =>
    refine ⟨pc, List.mem_of_getElem? running, ?_⟩
    rcases here with rfl | rfl <;> exact nofun
  | receive running | drain running | woken running | block running | count running
  | lose running | countDrained running =>
    exact ⟨_, List.mem_of_getElem? running, nofun⟩

/-- Every step of a worker keeps what waiting and returning tell. -/
theorem work_rest {p after : Pool Ev} {index : Nat} {out : List (Obs Ev)}
    (inv : p.RestInv) (running : .returned true ∉ p.shutdowns) (moved : Work p index after out) :
    after.RestInv := by
  obtain ⟨waiting, finished, _⟩ := inv
  cases moved with
  | cancelled | count | lose | countDrained =>
    refine ⟨fun parked => waiting ?_, fun stopped => finished ?_, fun returned => ?_⟩
    · exact (List.mem_or_eq_of_mem_set parked).resolve_right nofun
    · exact (List.mem_or_eq_of_mem_set stopped).resolve_right nofun
    · exact absurd returned running
  | receive _ front | drain _ front =>
    refine ⟨fun parked => ?_, fun stopped => ?_, fun returned => absurd returned running⟩
    · have empty := waiting ((List.mem_or_eq_of_mem_set parked).resolve_right nofun)
      simp [front] at empty
    · have empty := finished ((List.mem_or_eq_of_mem_set stopped).resolve_right nofun)
      simp [front] at empty
  | block _ opened empty =>
    refine ⟨fun _ => empty, fun stopped => ?_, fun returned => absurd returned running⟩
    exact finished ((List.mem_or_eq_of_mem_set stopped).resolve_right nofun)
  | finish _ _ closed empty =>
    exact ⟨fun _ => empty, fun _ => ⟨closed, empty⟩, fun returned => absurd returned running⟩
  | woken parked closed =>
    have empty := waiting (List.mem_of_getElem? parked)
    exact ⟨fun _ => empty, fun _ => ⟨closed, empty⟩, fun returned => absurd returned running⟩

/-- Every step keeps what waiting and returning tell. -/
theorem step_rest {p after : Pool Ev} {action : Act Ev} {out : List (Obs Ev)}
    (inv : p.RestInv) (stepped : p.step action = some (after, out)) : after.RestInv := by
  obtain ⟨waiting, finished, joined⟩ := inv
  cases step_cases stepped with
  | call => exact ⟨waiting, finished, joined⟩
  | callShutdown =>
    refine ⟨waiting, finished, fun returned => joined ?_⟩
    simpa using returned
  | caller moved =>
    cases moved with
    | shut | load | panic | accept | drop | refuse => exact ⟨waiting, finished, joined⟩
    | meet running current here opened parked =>
      have empty := waiting (List.mem_of_getElem? parked)
      refine ⟨fun _ => empty, fun stopped => ?_, fun returned => ?_⟩
      · exact finished ((List.mem_or_eq_of_mem_set stopped).resolve_right nofun)
      · exact absurd (joined returned _ (List.mem_of_getElem? parked)) nofun
    | queue running current here opened busy =>
      refine ⟨fun parked => absurd rfl (busy _ parked), fun stopped => ?_, joined⟩
      have closed := (finished stopped).1
      simp [opened] at closed
  | select moved | worker moved =>
    have running : .returned true ∉ p.shutdowns := by
      intro returned
      obtain ⟨worker, member, runs⟩ := work_running moved
      exact runs (joined returned worker member)
    exact work_rest ⟨waiting, finished, joined⟩ running moved
  | submit moved =>
    cases moved with
    | returns running | returnsDrained running =>
      have active : .returned true ∉ p.shutdowns := by
        intro returned
        exact absurd (joined returned _ (List.mem_of_getElem? running)) nofun
      refine ⟨fun parked => waiting ?_, fun stopped => finished ?_, fun returned => ?_⟩
      · exact (List.mem_or_eq_of_mem_set parked).resolve_right nofun
      · exact (List.mem_or_eq_of_mem_set stopped).resolve_right nofun
      · exact absurd returned active
  | shutdown moved =>
    cases moved with
    | close =>
      refine ⟨waiting, fun stopped => ⟨rfl, (finished stopped).2⟩, fun returned => ?_⟩
      exact joined ((List.mem_or_eq_of_mem_set returned).resolve_right nofun)
    | lose | win | cancel =>
      refine ⟨waiting, finished, fun returned => ?_⟩
      exact joined ((List.mem_or_eq_of_mem_set returned).resolve_right (by simp))
    | finish running all => exact ⟨waiting, finished, fun _ => all⟩

/-- What a step receives is the front of the channel, and what it sends goes to its back. -/
theorem step_fifo {p after : Pool Ev} {action : Act Ev} {out : List (Obs Ev)}
    (inv : p.RestInv) (stepped : p.step action = some (after, out)) :
    p.taskCh.queue ++ out.flatMap Obs.sentEvents =
      out.flatMap Obs.receivedEvents ++ after.taskCh.queue := by
  cases step_cases stepped with
  | call | callShutdown => simp
  | caller moved =>
    cases moved with
    | meet running current here opened parked =>
      have empty := inv.waiting (List.mem_of_getElem? parked)
      simp [empty, Obs.sentEvents, Obs.receivedEvents]
    | queue running current here opened busy room sent =>
      simp [sent, Obs.sentEvents, Obs.receivedEvents]
    | shut | load | panic | accept | drop | refuse =>
      simp [Obs.sentEvents, Obs.receivedEvents]
  | select moved | worker moved =>
    cases moved with
    | receive running front | drain running front =>
      simp [front, Obs.sentEvents, Obs.receivedEvents]
    | cancelled | finish | woken | block | count | lose | countDrained => simp
  | submit moved => cases moved <;> simp [Obs.sentEvents, Obs.receivedEvents]
  | shutdown moved => cases moved <;> simp [Obs.sentEvents, Obs.receivedEvents]

/-- What a step receives is in the hand of a worker until a step submits it. -/
theorem step_inHands {p after : Pool Ev} {action : Act Ev} {out : List (Obs Ev)}
    (stepped : p.step action = some (after, out)) :
    total WorkerPc.inHand p.workers + ↑(out.flatMap Obs.receivedEvents) =
      ↑(out.flatMap Obs.submittedEvents) + total WorkerPc.inHand after.workers := by
  cases step_cases stepped with
  | call | callShutdown => simp
  | caller moved =>
    cases moved with
    | meet running current here opened parked =>
      simp only [total_gain WorkerPc.inHand parked rfl]
      simp [WorkerPc.inHand, Obs.receivedEvents, Obs.submittedEvents]
    | shut | load | panic | accept | drop | refuse | queue =>
      simp [Obs.receivedEvents, Obs.submittedEvents]
  | select moved | worker moved =>
    cases moved with
    | @cancelled pc running here | @finish pc running here =>
      have nothing : pc.inHand = 0 := by rcases here with rfl | rfl <;> rfl
      simp only [total_gain WorkerPc.inHand running nothing]
      simp [WorkerPc.inHand]
    | receive running | drain running =>
      simp only [total_gain WorkerPc.inHand running rfl]
      simp [WorkerPc.inHand, Obs.receivedEvents, Obs.submittedEvents]
    | woken running | block running | count running | lose running | countDrained running =>
      simp only [total_gain WorkerPc.inHand running rfl]
      simp [WorkerPc.inHand]
  | @submit index accepted after out moved =>
    cases moved with
    | @returns ev running =>
      rw [total_spend WorkerPc.inHand running (.counting accepted) rfl]
      simp [WorkerPc.inHand, Obs.receivedEvents, Obs.submittedEvents, add_comm]
    | @returnsDrained ev running =>
      rw [total_spend WorkerPc.inHand running .rangeCounting rfl]
      simp [WorkerPc.inHand, Obs.receivedEvents, Obs.submittedEvents, add_comm]
  | shutdown moved => cases moved <;> simp [Obs.receivedEvents, Obs.submittedEvents]

/-- What a step sends is in transit until the `Enqueue` that sent it returns nil. -/
theorem step_inTransit {p after : Pool Ev} {action : Act Ev} {out : List (Obs Ev)}
    (stepped : p.step action = some (after, out)) :
    total Caller.inTransit p.callers + ↑(out.flatMap Obs.sentEvents) =
      ↑(out.flatMap Obs.acceptedEvents) + total Caller.inTransit after.callers := by
  have idle {caller : Caller Ev} (here : caller.pc ≠ .sent) : caller.inTransit = 0 := by
    unfold Caller.inTransit
    split
    · contradiction
    · rfl
  cases step_cases stepped with
  | call => simp [Caller.inTransit]
  | callShutdown => simp
  | caller moved =>
    cases moved with
    | shut running current here | load running current here | panic running current here
    | refuse running current here | drop running current here =>
      simp only [total_gain Caller.inTransit running (idle (by rw [here]; exact nofun))]
      simp [Caller.inTransit, Caller.lost, Obs.sentEvents, Obs.acceptedEvents]
    | meet running current here | queue running current here =>
      simp only [total_gain Caller.inTransit running (idle (by rw [here]; exact nofun))]
      simp [Caller.inTransit, current, Obs.sentEvents, Obs.acceptedEvents]
    | @accept caller ev rest running current here =>
      rw [total_spend Caller.inTransit running caller.kept rfl]
      simp [Caller.inTransit, here, current, Obs.sentEvents, Obs.acceptedEvents, add_comm]
  | select moved | worker moved =>
    obtain ⟨_, _, _, _, _, callers⟩ := work_frame moved
    rw [callers]
    cases moved <;> simp [Obs.sentEvents, Obs.acceptedEvents]
  | submit moved =>
    obtain ⟨⟨_, _, _, _, _, callers⟩, _⟩ := submit_frame moved
    rw [callers]
    cases moved <;> simp [Obs.sentEvents, Obs.acceptedEvents]
  | shutdown moved => cases moved <;> simp [Obs.sentEvents, Obs.acceptedEvents]

/-- Where the events are that were sent on `taskCh`. -/
structure FlowInv (seen : List (Obs Ev)) (p : Pool Ev) : Prop where
  /-- The channel hands the events on in the order of the sends. -/
  fifo : seen.flatMap Obs.sentEvents = seen.flatMap Obs.receivedEvents ++ p.taskCh.queue
  /-- Each received event is submitted or in the hand of one worker. -/
  handled : (seen.flatMap Obs.receivedEvents : Multiset Ev) =
    ↑(seen.flatMap Obs.submittedEvents) + total WorkerPc.inHand p.workers
  /-- Each sent event is answered for or in transit. -/
  answered : (seen.flatMap Obs.sentEvents : Multiset Ev) =
    ↑(seen.flatMap Obs.acceptedEvents) + total Caller.inTransit p.callers

/-- Every step keeps track of the events. -/
theorem step_flow {seen out : List (Obs Ev)} {p after : Pool Ev} {action : Act Ev}
    (rest : p.RestInv) (inv : p.FlowInv seen) (stepped : p.step action = some (after, out)) :
    after.FlowInv (seen ++ out) := by
  obtain ⟨fifo, handled, answered⟩ := inv
  have order := step_fifo rest stepped
  have hands := step_inHands stepped
  have transit := step_inTransit stepped
  refine ⟨?_, ?_, ?_⟩
  · rw [List.flatMap_append, List.flatMap_append, fifo, List.append_assoc, order,
      List.append_assoc]
  · rw [List.flatMap_append, List.flatMap_append, ← Multiset.coe_add, ← Multiset.coe_add, handled,
      add_assoc, hands, add_assoc]
  · rw [List.flatMap_append, List.flatMap_append, ← Multiset.coe_add, ← Multiset.coe_add, answered,
      add_assoc, transit, add_assoc]

end Pool

/-- Only a `Submit` has a result to show. -/
theorem step_other {p after : Pool Ev} {action : Act Ev} {out : List (Obs Ev)}
    (other : ∀ index accepted, action ≠ .submit index accepted)
    (stepped : p.step action = some (after, out)) :
    out.flatMap Obs.forwardedEvents = [] ∧ out.flatMap Obs.refusedEvents = [] := by
  cases Pool.step_cases stepped with
  | call | callShutdown => exact ⟨rfl, rfl⟩
  | caller moved => cases moved <;> exact ⟨rfl, rfl⟩
  | select moved | worker moved => cases moved <;> exact ⟨rfl, rfl⟩
  | submit => exact absurd rfl (other _ _)
  | shutdown moved => cases moved <;> exact ⟨rfl, rfl⟩

/-- The callers have only events with some property still to enqueue. -/
def Pool.CallersHold (holds : Ev → Prop) (p : Pool Ev) : Prop :=
  ∀ caller ∈ p.callers, ∀ ev ∈ caller.rest, holds ev

/-- Callers that hold only events with some property send only such events. -/
theorem step_sends {holds : Ev → Prop} {p after : Pool Ev} {action : Act Ev} {out : List (Obs Ev)}
    (callers : p.CallersHold holds)
    (called : ∀ events, action = .call events → ∀ ev ∈ events, holds ev)
    (stepped : p.step action = some (after, out)) :
    after.CallersHold holds ∧ ∀ ev ∈ out.flatMap Obs.sentEvents, holds ev := by
  have same {caller : Caller Ev} {index : Nat} (new : Caller Ev)
      (running : p.callers[index]? = some caller) (fewer : ∀ ev ∈ new.rest, ev ∈ caller.rest) :
      ∀ caller ∈ p.callers.set index new, ∀ ev ∈ caller.rest, holds ev :=
    forall_mem_set callers fun ev member =>
      callers caller (List.mem_of_getElem? running) ev (fewer ev member)
  cases Pool.step_cases stepped with
  | call events =>
    refine ⟨fun caller member => ?_, nofun⟩
    rcases List.mem_append.mp member with old | new
    · exact callers caller old
    · rw [List.mem_singleton.mp new]
      exact called events rfl
  | callShutdown => exact ⟨callers, nofun⟩
  | caller moved =>
    cases moved with
    | shut running | accept running | drop running =>
      exact ⟨same _ running fun ev member => List.mem_of_mem_tail member, nofun⟩
    | load running | panic running | refuse running =>
      exact ⟨same _ running fun ev member => member, nofun⟩
    | @meet caller first rest _ running current | @queue caller first rest _ running current =>
      refine ⟨same _ running fun ev member => member, fun ev member => ?_⟩
      have head : ev = first := by simpa [Obs.sentEvents] using member
      rw [head]
      apply callers _ (List.mem_of_getElem? running)
      rw [current]
      exact List.mem_cons_self
  | select moved | worker moved =>
    obtain ⟨_, _, _, _, _, kept⟩ := Pool.work_frame moved
    unfold Pool.CallersHold
    rw [kept]
    exact ⟨callers, by cases moved <;> nofun⟩
  | submit moved =>
    obtain ⟨⟨_, _, _, _, _, kept⟩, _⟩ := Pool.submit_frame moved
    unfold Pool.CallersHold
    rw [kept]
    exact ⟨callers, by cases moved <;> nofun⟩
  | shutdown moved => cases moved <;> exact ⟨callers, nofun⟩

/-- A submitted event is accepted or refused. -/
theorem submitted_split (seen : List (Obs Ev)) :
    (seen.flatMap Obs.submittedEvents : Multiset Ev) =
      ↑(seen.flatMap Obs.forwardedEvents) + ↑(seen.flatMap Obs.refusedEvents) := by
  induction seen with
  | nil => rfl
  | cons first rest ih =>
    simp only [List.flatMap_cons, ← Multiset.coe_add, ih]
    cases first with
    | submitted ev accepted =>
      cases accepted with
      | true => simp [Obs.submittedEvents, Obs.forwardedEvents, Obs.refusedEvents]
      | false =>
        simp only [Obs.submittedEvents, Obs.forwardedEvents, Obs.refusedEvents, Multiset.coe_nil,
          zero_add]
        exact add_left_comm _ _ _
    | _ => simp [Obs.submittedEvents, Obs.forwardedEvents, Obs.refusedEvents]

/-- No step starts or forgets a worker. -/
theorem step_workers {p after : Pool Ev} {action : Act Ev} {out : List (Obs Ev)}
    (stepped : p.step action = some (after, out)) : after.workers.length = p.workers.length := by
  cases Pool.step_cases stepped with
  | call | callShutdown => rfl
  | caller moved => cases moved <;> simp
  | select moved | worker moved => cases moved <;> simp
  | submit moved => cases moved <;> simp
  | shutdown moved => cases moved <;> rfl

/-- In every run the pool has the workers it started with. -/
theorem run_workers {numWorkers queueSize : Nat} {guard : Pool Ev → Act Ev → Prop}
    {seen : List (Obs Ev)} {p : Pool Ev}
    (run : (system Ev).Run guard (.start numWorkers queueSize) seen p) :
    p.workers.length = numWorkers := by
  refine run.state_invariant (fun p => p.workers.length = numWorkers) ?_ ?_
  · exact List.length_replicate
  · intro p action after out same _ stepped
    exact (step_workers stepped).trans same

/-- No step changes the capacity of the queue. -/
theorem step_capacity {p after : Pool Ev} {action : Act Ev} {out : List (Obs Ev)}
    (stepped : p.step action = some (after, out)) : after.taskCh.capacity = p.taskCh.capacity := by
  cases Pool.step_cases stepped with
  | call | callShutdown => rfl
  | caller moved =>
    cases moved with
    | queue running current here opened busy room sent same => exact same
    | shut | load | panic | meet | refuse | accept | drop => rfl
  | select moved | worker moved =>
    cases moved with
    | receive running front same | drain running front same => exact same
    | cancelled | finish | woken | block | count | lose | countDrained => rfl
  | submit moved | shutdown moved => cases moved <;> rfl

/-- In every run the queue has the capacity it was made with. -/
theorem run_capacity {numWorkers queueSize : Nat} {guard : Pool Ev → Act Ev → Prop}
    {seen : List (Obs Ev)} {p : Pool Ev}
    (run : (system Ev).Run guard (.start numWorkers queueSize) seen p) :
    p.taskCh.capacity = queueSize := by
  apply run.state_invariant fun p => p.taskCh.capacity = queueSize
  · rfl
  · intro p action after out same _ stepped
    exact (step_capacity stepped).trans same

/-- In every run the pool keeps track of its events. -/
theorem run_flow {numWorkers queueSize : Nat} {guard : Pool Ev → Act Ev → Prop}
    {seen : List (Obs Ev)} {p : Pool Ev}
    (run : (system Ev).Run guard (.start numWorkers queueSize) seen p) :
    p.RestInv ∧ p.FlowInv seen := by
  refine run.invariant (fun seen p => p.RestInv ∧ p.FlowInv seen) ?_ ?_
  · refine ⟨⟨fun _ => rfl, fun stopped => ?_, fun returned => ?_⟩, rfl, ?_, rfl⟩
    · exact absurd (List.eq_of_mem_replicate stopped) nofun
    · exact absurd returned List.not_mem_nil
    · have idle : total WorkerPc.inHand (List.replicate numWorkers (.select : WorkerPc Ev)) = 0 :=
        total_replicate numWorkers rfl
      simp only [List.flatMap_nil, Multiset.coe_nil, zero_add]
      exact idle.symm
  · intro seen p action after out inv _ stepped
    exact ⟨Pool.step_rest inv.1 stepped, Pool.step_flow inv.1 inv.2 stepped⟩

end IngestionEngine.Worker
