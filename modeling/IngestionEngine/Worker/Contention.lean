import IngestionEngine.Worker.Callers

/-!
# One call of `EnqueueBatch` among others

The call enqueues its events one by one, and between two of them any other goroutine may send or
receive. What it sends is therefore a subsequence of its events. As long as nothing is received a
channel that was full stays full, so the call sends a prefix; if it sends alone, the length of the
prefix is what fitted the channel at the start.
-/

namespace IngestionEngine.Worker

open Systems

variable {Ev : Type}

/-- The action is a step of the caller at an index. -/
def Act.isOf (index : Nat) : Act Ev → Bool
  | .caller other _ => other = index
  | _ => false

/-- No one calls `Shutdown`. -/
def NoShutdown (_ : Pool Ev) : Act Ev → Prop
  | .callShutdown => False
  | _ => True

instance (p : Pool Ev) (action : Act Ev) : Decidable (NoShutdown p action) := by
  unfold NoShutdown
  split <;> infer_instance

/-- The events that the caller at an index sent on `taskCh`. -/
def sentBy (index : Nat) (history : List (Act Ev × List (Obs Ev))) : List Ev :=
  history.flatMap fun entry => if entry.1.isOf index then entry.2.flatMap Obs.sentEvents else []

/-- The events whose `Enqueue` returned nil to the caller at an index. -/
def acceptedBy (index : Nat) (history : List (Act Ev × List (Obs Ev))) : List Ev :=
  history.flatMap fun entry =>
    if entry.1.isOf index then entry.2.flatMap Obs.acceptedEvents else []

/-- No worker receives an event. -/
def NoneReceived (history : List (Act Ev × List (Obs Ev))) : Prop :=
  ∀ entry ∈ history, entry.2.flatMap Obs.receivedEvents = []

/-- No one else sends an event. -/
def SendsAlone (index : Nat) (history : List (Act Ev × List (Obs Ev))) : Prop :=
  ∀ entry ∈ history, entry.1.isOf index = false → entry.2.flatMap Obs.sentEvents = []

/-- The current event of a caller, if it is sent and not yet answered for. -/
def Caller.unanswered (caller : Caller Ev) : List Ev :=
  match caller.pc with
  | .sent => caller.rest.take 1
  | _ => []

/-- The call has a refusal behind it. -/
def Caller.Refused (caller : Caller Ev) : Prop :=
  caller.droppedCount ≠ 0 ∨ caller.pc = .refused

/-- The caller has not panicked, and is between two events once none is left. -/
structure Caller.Active (caller : Caller Ev) : Prop where
  /-- It has not panicked. -/
  alive : caller.pc ≠ .panicked
  /-- It stands at none of its events only when it has passed them all. -/
  between : caller.rest = [] → caller.pc = .check

/-- Three steps for each event bound the rank. -/
theorem Caller.rank_le (caller : Caller Ev) : caller.rank ≤ 3 * caller.rest.length := by
  unfold Caller.rank
  split <;> omega

namespace Pool

/-- No one has called `Shutdown`. -/
structure Open (p : Pool Ev) : Prop where
  /-- No one shuts the pool down. -/
  shutdowns : p.shutdowns = []
  /-- The flag is not set. -/
  flag : p.isShuttingDown = false
  /-- The channel is open. -/
  channel : p.closed = false

/-- A pool that no one shuts down stays open. -/
theorem step_open {p after : Pool Ev} {action : Act Ev} {out : List (Obs Ev)} (opened : p.Open)
    (permitted : NoShutdown p action) (stepped : p.step action = some (after, out)) :
    after.Open := by
  obtain ⟨shutdowns, flag, channel⟩ := opened
  cases step_cases stepped with
  | call => exact ⟨shutdowns, flag, channel⟩
  | callShutdown => exact absurd permitted id
  | caller moved =>
    obtain ⟨same, kept, closed, _⟩ := enqueue_frame moved
    exact ⟨same.trans shutdowns, kept.trans flag, closed.trans channel⟩
  | select moved | worker moved =>
    obtain ⟨same, kept, closed, _⟩ := work_frame moved
    exact ⟨same.trans shutdowns, kept.trans flag, closed.trans channel⟩
  | submit moved =>
    obtain ⟨⟨same, kept, closed, _⟩, _⟩ := submit_frame moved
    exact ⟨same.trans shutdowns, kept.trans flag, closed.trans channel⟩
  | shutdown moved =>
    cases moved with
    | lose running | win running | close running | cancel running | finish running =>
      rw [shutdowns] at running
      contradiction

/-- A step of another goroutine leaves a caller where it is. -/
theorem step_other_caller {p after : Pool Ev} {action : Act Ev} {out : List (Obs Ev)} {index : Nat}
    {caller : Caller Ev} (running : p.callers[index]? = some caller)
    (other : action.isOf index = false) (stepped : p.step action = some (after, out)) :
    after.callers[index]? = some caller := by
  cases step_cases stepped with
  | call events =>
    have inside : index < p.callers.length := (List.getElem?_eq_some_iff.mp running).1
    exact (List.getElem?_append_left inside).trans running
  | callShutdown => exact running
  | @caller place waiter _ _ moved =>
    have different : place ≠ index := by simpa [Act.isOf] using other
    cases moved <;> exact (List.getElem?_set_ne different).trans running
  | select moved | worker moved =>
    obtain ⟨_, _, _, _, _, callers⟩ := work_frame moved
    rw [callers]
    exact running
  | submit moved =>
    obtain ⟨⟨_, _, _, _, _, callers⟩, _⟩ := submit_frame moved
    rw [callers]
    exact running
  | shutdown moved => cases moved <;> exact running

/-- While the channel is open, a caller that takes a step does not panic. -/
theorem enqueue_active {p after : Pool Ev} {index : Nat} {out : List (Obs Ev)} (opened : p.Open)
    (moved : Enqueue p index after out) :
    ∃ caller, after.callers[index]? = some caller ∧ caller.Active := by
  have placed {caller new : Caller Ev} (running : p.callers[index]? = some caller)
      (active : new.Active) : ∃ caller, (p.callers.set index new)[index]? = some caller ∧
        caller.Active := by
    have inside : index < p.callers.length := (List.getElem?_eq_some_iff.mp running).1
    exact ⟨new, List.getElem?_set_self inside, active⟩
  cases moved with
  | shut running | accept running | drop running => exact placed running ⟨nofun, fun _ => rfl⟩
  | load running current | meet running current | queue running current
  | refuse running current =>
    refine placed running ⟨nofun, fun empty => ?_⟩
    rw [current] at empty
    contradiction
  | panic _ _ _ closed => exact absurd closed (by simp [opened.channel])

/-- Every step leaves a caller active. -/
theorem step_active {p after : Pool Ev} {action : Act Ev} {out : List (Obs Ev)} {index : Nat}
    (opened : p.Open) (active : ∃ caller, p.callers[index]? = some caller ∧ caller.Active)
    (stepped : p.step action = some (after, out)) :
    ∃ caller, after.callers[index]? = some caller ∧ caller.Active := by
  obtain ⟨caller, running, active⟩ := active
  cases whose : action.isOf index with
  | false => exact ⟨caller, step_other_caller running whose stepped, active⟩
  | true =>
    cases step_cases stepped with
    | @caller place waiter _ _ moved =>
      obtain rfl : place = index := by simpa [Act.isOf] using whose
      exact enqueue_active opened moved
    | call | callShutdown | select | worker | submit | shutdown => contradiction

/-- From every state of an open pool an active caller comes to the end of its call by its own steps
alone. -/
theorem caller_ends {p : Pool Ev} {index : Nat} {caller : Caller Ev} (opened : p.Open)
    (running : p.callers[index]? = some caller) (active : caller.Active) :
    ∃ schedule last out accepted dropped, (∀ action ∈ schedule, action.isOf index = true) ∧
      schedule.length ≤ caller.rank ∧
      (system Ev).exec System.unguarded p schedule = some (last, out) ∧
      last.callers[index]? = some ⟨[], .check, accepted, dropped⟩ := by
  induction bound : caller.rank using Nat.strongRecOn generalizing p caller with
  | ind rank ih =>
    by_cases finished : caller.rest = []
    · refine ⟨[], p, [], caller.acceptedCount, caller.droppedCount, List.forall_mem_nil _,
        Nat.zero_le _, rfl, ?_⟩
      rw [running, ← finished, ← active.between finished]
    · obtain ⟨waiter, moves⟩ := enqueue_enabled running finished active.alive
      obtain ⟨⟨after, out⟩, moved⟩ := Option.isSome_iff_exists.mp moves
      have stepped : p.step (.caller index waiter) = some (after, out) := moved
      obtain ⟨new, here, still⟩ := enqueue_active opened (enqueue_cases moved)
      obtain ⟨old, next, found, replaced, _, _, lower⟩ := enqueue_caller (enqueue_cases moved)
      obtain rfl : old = caller := Option.some.inj (found.symm.trans running)
      have permitted : NoShutdown p (.caller index waiter) := trivial
      have inside : index < p.callers.length := (List.getElem?_eq_some_iff.mp running).1
      rw [replaced, List.getElem?_set_self inside] at here
      obtain rfl := Option.some.inj here
      obtain ⟨schedule, last, later, accepted, dropped, own, short, executed, ended⟩ :=
        ih next.rank (bound ▸ lower) (step_open opened permitted stepped)
          (by rw [replaced, List.getElem?_set_self inside]) still rfl
      refine ⟨.caller index waiter :: schedule, last, out ++ later, accepted, dropped, ?_, ?_, ?_,
        ended⟩
      · exact List.forall_mem_cons.mpr ⟨by simp [Act.isOf], own⟩
      · rw [List.length_cons]
        omega
      · have first : (system Ev).step p (.caller index waiter) = some (after, out) := stepped
        simp only [System.exec, System.unguarded, if_true, first, executed]

end Pool

section Histories

variable {index : Nat} (history : List (Act Ev × List (Obs Ev))) {action : Act Ev}
  (out : List (Obs Ev))

/-- What the caller itself adds. -/
theorem by_own (own : action.isOf index = true) :
    sentBy index (history ++ [(action, out)]) =
        sentBy index history ++ out.flatMap Obs.sentEvents ∧
      acceptedBy index (history ++ [(action, out)]) =
        acceptedBy index history ++ out.flatMap Obs.acceptedEvents := by
  simp [sentBy, acceptedBy, own]

/-- What others do adds nothing. -/
theorem by_other (other : action.isOf index = false) :
    sentBy index (history ++ [(action, out)]) = sentBy index history ∧
      acceptedBy index (history ++ [(action, out)]) = acceptedBy index history := by
  simp [sentBy, acceptedBy, other]

variable {history out}

/-- Nothing is received before and in the last step. -/
theorem NoneReceived.split (quiet : NoneReceived (history ++ [(action, out)])) :
    NoneReceived history ∧ out.flatMap Obs.receivedEvents = [] :=
  ⟨fun entry member => quiet entry (List.mem_append_left _ member),
    quiet (action, out) (List.mem_append_right _ List.mem_cons_self)⟩

/-- The caller sends alone before the last step, and in it. -/
theorem SendsAlone.split (alone : SendsAlone index (history ++ [(action, out)])) :
    SendsAlone index history ∧ (action.isOf index = false → out.flatMap Obs.sentEvents = []) :=
  ⟨fun entry member => alone entry (List.mem_append_left _ member),
    alone (action, out) (List.mem_append_right _ List.mem_cons_self)⟩

end Histories

/-- How far a call has come: what it has passed, and what became of it. -/
structure CallInv (index : Nat) (events : List Ev) (history : List (Act Ev × List (Obs Ev)))
    (p : Pool Ev) (caller : Caller Ev) (passed : List Ev) : Prop where
  /-- The caller. -/
  running : p.callers[index]? = some caller
  /-- What it has passed and what is left. -/
  split : passed ++ caller.rest = events
  /-- Each event passed is counted once. -/
  counted : caller.acceptedCount + caller.droppedCount = passed.length
  /-- `acceptedCount` counts the calls that returned nil. -/
  accepted : (acceptedBy index history).length = caller.acceptedCount
  /-- These were for some of the events passed, in their order. -/
  ordered : (acceptedBy index history).Sublist passed
  /-- Their events were sent, and perhaps the current one. -/
  sent : sentBy index history = acceptedBy index history ++ caller.unanswered

/-- What holds of a call as long as nothing is received. -/
structure FullInv (index : Nat) (events : List Ev) (history : List (Act Ev × List (Obs Ev)))
    (p : Pool Ev) (caller : Caller Ev) : Prop where
  /-- After a refusal the channel is full. -/
  full : caller.Refused → ¬ p.taskCh.HasRoom
  /-- The events sent are the first ones. -/
  first : sentBy index history <+: events

section Steps

variable {index : Nat} {events : List Ev} {history : List (Act Ev × List (Obs Ev))}
  {p after : Pool Ev} {caller : Caller Ev} {passed : List Ev} {action : Act Ev}
  {out : List (Obs Ev)}

/-- A call that has not been refused has sent every event that it has passed. -/
theorem CallInv.all (inv : CallInv index events history p caller passed)
    (kept : caller.droppedCount = 0) : acceptedBy index history = passed := by
  apply inv.ordered.eq_of_length
  rw [inv.accepted, ← inv.counted, kept, Nat.add_zero]

/-- A step of someone else leaves a call where it is. -/
theorem CallInv.other (inv : CallInv index events history p caller passed)
    (other : action.isOf index = false) (stepped : p.step action = some (after, out)) :
    CallInv index events (history ++ [(action, out)]) after caller passed := by
  obtain ⟨sent, accepted⟩ := by_other history out other
  refine ⟨Pool.step_other_caller inv.running other stepped, inv.split, inv.counted, ?_, ?_, ?_⟩
  · rw [accepted]
    exact inv.accepted
  · rw [accepted]
    exact inv.ordered
  · rw [sent, accepted]
    exact inv.sent

/-- A step of the caller that ends no `Enqueue` keeps what it has passed. -/
theorem CallInv.within (inv : CallInv index events history p caller passed)
    (own : action.isOf index = true) {pc : CallerPc}
    (moved : after.callers = p.callers.set index { caller with pc })
    (silent : out.flatMap Obs.acceptedEvents = [])
    (sent : caller.unanswered ++ out.flatMap Obs.sentEvents =
      ({ caller with pc } : Caller Ev).unanswered) :
    CallInv index events (history ++ [(action, out)]) after { caller with pc } passed := by
  obtain ⟨sends, accepts⟩ := by_own history out own
  have inside : index < p.callers.length := (List.getElem?_eq_some_iff.mp inv.running).1
  refine ⟨?_, inv.split, inv.counted, ?_, ?_, ?_⟩
  · rw [moved]
    exact List.getElem?_set_self inside
  · rw [accepts, silent, List.append_nil]
    exact inv.accepted
  · rw [accepts, silent, List.append_nil]
    exact inv.ordered
  · rw [sends, accepts, silent, List.append_nil, inv.sent, List.append_assoc, sent]

/-- An `Enqueue` that returns an error passes its event. -/
theorem CallInv.errs (inv : CallInv index events history p caller passed)
    (own : action.isOf index = true) {ev : Ev} {rest : List Ev} (current : caller.rest = ev :: rest)
    (here : caller.pc ≠ .sent) (moved : after.callers = p.callers.set index caller.lost)
    (silent : out.flatMap Obs.sentEvents = [] ∧ out.flatMap Obs.acceptedEvents = []) :
    CallInv index events (history ++ [(action, out)]) after caller.lost (passed ++ [ev]) := by
  obtain ⟨sends, accepts⟩ := by_own history out own
  have inside : index < p.callers.length := (List.getElem?_eq_some_iff.mp inv.running).1
  have answered : caller.unanswered = [] := by
    unfold Caller.unanswered
    split
    · contradiction
    · rfl
  refine ⟨?_, ?_, ?_, ?_, ?_, ?_⟩
  · rw [moved]
    exact List.getElem?_set_self inside
  · rw [← inv.split, current, Caller.lost, current, List.append_assoc]
    rfl
  · have counted := inv.counted
    rw [List.length_append, List.length_singleton, ← counted]
    rfl
  · rw [accepts, silent.2, List.append_nil]
    exact inv.accepted
  · rw [accepts, silent.2, List.append_nil]
    exact inv.ordered.trans (List.sublist_append_left passed [ev])
  · rw [sends, accepts, silent.1, silent.2, List.append_nil, List.append_nil, inv.sent, answered]
    rfl

/-- An `Enqueue` that returns nil passes its event, which was sent. -/
theorem CallInv.returns (inv : CallInv index events history p caller passed)
    (own : action.isOf index = true) {ev : Ev} {rest : List Ev} (current : caller.rest = ev :: rest)
    (here : caller.pc = .sent) (moved : after.callers = p.callers.set index caller.kept)
    (shows : out.flatMap Obs.sentEvents = [] ∧ out.flatMap Obs.acceptedEvents = [ev]) :
    CallInv index events (history ++ [(action, out)]) after caller.kept (passed ++ [ev]) := by
  obtain ⟨sends, accepts⟩ := by_own history out own
  have inside : index < p.callers.length := (List.getElem?_eq_some_iff.mp inv.running).1
  have unanswered : caller.unanswered = [ev] := by
    simp only [Caller.unanswered, here, current]
    rfl
  refine ⟨?_, ?_, ?_, ?_, ?_, ?_⟩
  · rw [moved]
    exact List.getElem?_set_self inside
  · rw [← inv.split, current, Caller.kept, current, List.append_assoc]
    rfl
  · have counted := inv.counted
    simp only [List.length_append, List.length_singleton, Caller.kept]
    omega
  · rw [accepts, shows.2, List.length_append, inv.accepted]
    rfl
  · rw [accepts, shows.2]
    exact inv.ordered.append (List.Sublist.refl [ev])
  · rw [sends, accepts, shows.1, shows.2, List.append_nil, inv.sent, unanswered]
    exact (List.append_nil _).symm

/-- A step of the caller that sends nothing keeps the channel full after a refusal. -/
theorem FullInv.quiet (inv : FullInv index events history p caller) (own : action.isOf index = true)
    (silent : out.flatMap Obs.sentEvents = []) (channel : after.taskCh = p.taskCh)
    {moved : Caller Ev} (full : moved.Refused → ¬ p.taskCh.HasRoom) :
    FullInv index events (history ++ [(action, out)]) after moved := by
  obtain ⟨sends, _⟩ := by_own history out own
  refine ⟨?_, ?_⟩
  · rw [channel]
    exact full
  · rw [sends, silent, List.append_nil]
    exact inv.first

/-- A send into a channel with room extends the events sent, none of which was refused. -/
theorem FullInv.sends (inv : FullInv index events history p caller)
    (call : CallInv index events history p caller passed) (own : action.isOf index = true)
    {ev : Ev} {rest : List Ev} (current : caller.rest = ev :: rest) (here : caller.pc = .send)
    (room : p.taskCh.HasRoom) (sent : out.flatMap Obs.sentEvents = [ev]) :
    FullInv index events (history ++ [(action, out)]) after { caller with pc := .sent } := by
  obtain ⟨sends, _⟩ := by_own history out own
  have kept : caller.droppedCount = 0 := by
    by_contra refused
    exact inv.full (.inl refused) room
  have unanswered : caller.unanswered = [] := by simp only [Caller.unanswered, here]
  refine ⟨fun refused => ?_, ?_⟩
  · rcases refused with some | refused
    · exact absurd kept some
    · contradiction
  · rw [sends, sent, call.sent, unanswered, List.append_nil, call.all kept, ← call.split, current]
    exact ⟨rest, by rw [List.append_assoc]; rfl⟩

/-- Every step of the caller goes on with the call. -/
theorem CallInv.own (inv : CallInv index events history p caller passed)
    (own : action.isOf index = true) (moved : Pool.Enqueue p index after out) :
    ∃ caller' passed', CallInv index events (history ++ [(action, out)]) after caller' passed' ∧
      (p.isShuttingDown = false → out.flatMap Obs.receivedEvents = [] →
        FullInv index events history p caller →
        FullInv index events (history ++ [(action, out)]) after caller') := by
  have same {other : Caller Ev} (running : p.callers[index]? = some other) : other = caller := by
    rw [inv.running] at running
    exact (Option.some.inj running).symm
  cases moved with
  | shut running current here flag =>
    obtain rfl := same running
    refine ⟨_, _, inv.errs own current (by simp [here]) rfl ⟨rfl, rfl⟩, ?_⟩
    intro opened
    simp [opened] at flag
  | load running current here =>
    obtain rfl := same running
    refine ⟨_, passed, inv.within own rfl rfl (by simp [Caller.unanswered, here]), ?_⟩
    intro _ _ full
    apply full.quiet own
    · rfl
    · rfl
    · exact fun refused => full.full (.inl (refused.resolve_right (by simp)))
  | panic running current here =>
    obtain rfl := same running
    refine ⟨_, passed, inv.within own rfl rfl (by simp [Caller.unanswered, here, Obs.sentEvents]),
      ?_⟩
    intro _ _ full
    apply full.quiet own
    · rfl
    · rfl
    · exact fun refused => full.full (.inl (refused.resolve_right (by simp)))
  | meet running current here =>
    obtain rfl := same running
    refine ⟨_, passed, inv.within own rfl rfl
      (by simp [Caller.unanswered, here, current, Obs.sentEvents]), ?_⟩
    intro _ silent
    simp [Obs.receivedEvents] at silent
  | queue running current here opened busy room =>
    obtain rfl := same running
    refine ⟨_, passed, inv.within own rfl rfl
      (by simp [Caller.unanswered, here, current, Obs.sentEvents]), ?_⟩
    intro _ _ full
    exact full.sends inv own current here room rfl
  | refuse running current here opened busy room =>
    obtain rfl := same running
    refine ⟨_, passed, inv.within own rfl rfl (by simp [Caller.unanswered, here]), ?_⟩
    intro _ _ full
    apply full.quiet own
    · rfl
    · rfl
    · exact fun _ => room
  | accept running current here =>
    obtain rfl := same running
    refine ⟨_, _, inv.returns own current here rfl ⟨rfl, rfl⟩, ?_⟩
    intro _ _ full
    apply full.quiet own
    · rfl
    · rfl
    · intro refused
      apply full.full
      exact .inl (refused.resolve_right fun same => by cases same)
  | drop running current here =>
    obtain rfl := same running
    refine ⟨_, _, inv.errs own current (by simp [here]) rfl ⟨rfl, rfl⟩, ?_⟩
    intro _ _ full
    apply full.quiet own
    · rfl
    · rfl
    · exact fun _ => full.full (.inr here)

/-- A step of someone else that receives nothing leaves a full channel full. -/
theorem FullInv.other (inv : FullInv index events history p caller)
    (other : action.isOf index = false) (longer : p.taskCh.queue.length ≤ after.taskCh.queue.length)
    (same : after.taskCh.capacity = p.taskCh.capacity) :
    FullInv index events (history ++ [(action, out)]) after caller := by
  obtain ⟨sends, _⟩ := by_other history out other
  refine ⟨fun refused room => inv.full refused ?_, ?_⟩
  · unfold Channel.HasRoom at room ⊢
    omega
  · rw [sends]
    exact inv.first

end Steps

/-- In every run from the start of a call on, what holds of the call. -/
theorem run_call {index : Nat} {events : List Ev} {history : List (Act Ev × List (Obs Ev))}
    {first p : Pool Ev} (rest : first.RestInv) (opened : first.Open)
    (started : CallInv index events [] first ⟨events, .check, 0, 0⟩ [])
    (run : (system Ev).labelled.Run NoShutdown first history p) :
    p.Open ∧ p.RestInv ∧ ∃ caller passed, CallInv index events history p caller passed ∧
      (NoneReceived history → FullInv index events history p caller ∧
        (SendsAlone index history →
          p.taskCh.queue.length =
            first.taskCh.queue.length + (sentBy index history).length)) := by
  induction run with
  | start =>
    refine ⟨opened, rest, _, _, started, fun _ => ⟨⟨?_, List.nil_prefix⟩, fun _ => rfl⟩⟩
    intro refused
    rcases refused with some | refused
    · exact absurd rfl some
    · contradiction
  | @next history _ state after action before permitted stepped ih =>
    obtain ⟨out, moved, rfl⟩ := System.labelled_step stepped
    obtain ⟨opened, rest, caller, passed, call, quiet⟩ := ih
    have fifo := Pool.step_fifo rest moved
    refine ⟨Pool.step_open opened permitted moved, Pool.step_rest rest moved, ?_⟩
    -- what the channel holds after a step that receives nothing
    have longer (silent : out.flatMap Obs.receivedEvents = []) :
        after.taskCh.queue.length =
          state.taskCh.queue.length + (out.flatMap Obs.sentEvents).length := by
      rw [silent, List.nil_append] at fifo
      rw [← fifo, List.length_append]
    cases whose : action.isOf index with
    | false =>
      refine ⟨caller, passed, call.other whose moved, fun silent => ?_⟩
      obtain ⟨earlier, last⟩ := silent.split
      obtain ⟨full, length⟩ := quiet earlier
      have grown := longer last
      refine ⟨full.other whose (by omega) (step_capacity moved), fun alone => ?_⟩
      obtain ⟨alone, idle⟩ := alone.split
      rw [(by_other history out whose).1, grown, idle whose, length alone]
      rfl
    | true =>
      cases Pool.step_cases moved with
      | @caller place waiter _ _ taken =>
        obtain rfl : place = index := by simpa [Act.isOf] using whose
        obtain ⟨caller', passed', next, goesOn⟩ := call.own whose taken
        refine ⟨caller', passed', next, fun silent => ?_⟩
        obtain ⟨earlier, last⟩ := silent.split
        obtain ⟨full, length⟩ := quiet earlier
        refine ⟨goesOn opened.flag last full, fun alone => ?_⟩
        rw [(by_own history out whose).1, longer last, length alone.split.1, List.length_append,
          Nat.add_assoc]
      | call | callShutdown | select | worker | submit | shutdown => contradiction

/-- While no one shuts the pool down, a pool is open. -/
theorem run_open {numWorkers queueSize : Nat} {seen : List (Obs Ev)} {p : Pool Ev}
    (run : (system Ev).Run NoShutdown (.start numWorkers queueSize) seen p) : p.Open := by
  apply run.state_invariant Pool.Open
  · exact ⟨rfl, rfl, rfl⟩
  · intro p action after out opened permitted stepped
    exact Pool.step_open opened permitted stepped

/-- In every run from the start of a call on, the caller is active. -/
theorem run_active {index : Nat} {seen : List (Obs Ev)} {first p : Pool Ev} (opened : first.Open)
    (started : ∃ caller, first.callers[index]? = some caller ∧ caller.Active)
    (run : (system Ev).Run NoShutdown first seen p) :
    ∃ caller, p.callers[index]? = some caller ∧ caller.Active := by
  refine (run.state_invariant (fun p => p.Open ∧
    ∃ caller, p.callers[index]? = some caller ∧ caller.Active) ⟨opened, started⟩ ?_).2
  rintro p action after out ⟨opened, active⟩ permitted stepped
  exact ⟨Pool.step_open opened permitted stepped, Pool.step_active opened active stepped⟩

/-- A call of `EnqueueBatch` among any others, in a pool that no one shuts down. The queue stays
within its capacity, and whatever the others have done the call comes to its end by its own steps,
three for each event at most. When the call has come to its end, it has counted each of its events
once; those accepted are the ones that it sent, a subsequence of its events in their order. If
nothing was received meanwhile they are a prefix, and if no one else sent anything either, as long
as fitted the queue. -/
theorem enqueueBatch_contended {numWorkers queueSize : Nat} {seen : List (Obs Ev)}
    {history : List (Act Ev × List (Obs Ev))} {first called p : Pool Ev} {events : List Ev}
    (before : (system Ev).Run NoShutdown (.start numWorkers queueSize) seen first)
    (call : first.step (.call events) = some (called, []))
    (during : (system Ev).labelled.Run NoShutdown called history p) :
    p.taskCh.queue.length ≤ queueSize ∧
      (∃ schedule last out accepted dropped,
        (∀ action ∈ schedule, Act.isOf first.callers.length action = true) ∧
          schedule.length ≤ 3 * events.length ∧
          (system Ev).exec System.unguarded p schedule = some (last, out) ∧
          last.callers[first.callers.length]? = some ⟨[], .check, accepted, dropped⟩) ∧
      ∀ accepted dropped,
        p.callers[first.callers.length]? = some ⟨[], .check, accepted, dropped⟩ →
        accepted + dropped = events.length ∧
          (acceptedBy first.callers.length history).length = accepted ∧
          sentBy first.callers.length history = acceptedBy first.callers.length history ∧
          (sentBy first.callers.length history).Sublist events ∧
          (NoneReceived history → sentBy first.callers.length history <+: events ∧
            (SendsAlone first.callers.length history →
              (sentBy first.callers.length history).length =
                min events.length (queueSize - first.taskCh.queue.length))) := by
  have start : called = { first with callers := first.callers ++ [⟨events, .check, 0, 0⟩] } :=
    (congrArg Prod.fst (Option.some.inj call)).symm
  have permitted : NoShutdown first (.call events) := trivial
  have capacity : p.taskCh.capacity = queueSize :=
    run_capacity ((before.next permitted call).append during.unlabel)
  have opened : called.Open := Pool.step_open (run_open before) permitted call
  have rest : called.RestInv := Pool.step_rest (run_flow before).1 call
  have begun : CallInv first.callers.length events [] called ⟨events, .check, 0, 0⟩ [] := by
    refine ⟨?_, rfl, rfl, rfl, .slnil, rfl⟩
    rw [start]
    exact List.getElem?_concat_length
  obtain ⟨still, _, caller, passed, inv, quiet⟩ := run_call rest opened begun during
  obtain ⟨same, running, active⟩ :=
    run_active opened ⟨_, begun.running, nofun, fun _ => rfl⟩ during.unlabel
  obtain rfl : caller = same := Option.some.inj (inv.running.symm.trans running)
  have few : caller.rank ≤ 3 * events.length := by
    rw [← inv.split, List.length_append]
    exact caller.rank_le.trans (by omega)
  obtain ⟨schedule, last, out, accepted, dropped, own, short, executed, ended⟩ :=
    Pool.caller_ends still running active
  have bounded := p.taskCh.bounded
  rw [capacity] at bounded
  refine ⟨bounded, ⟨schedule, last, out, accepted, dropped, own, short.trans few, executed, ended⟩,
    fun accepted dropped finished => ?_⟩
  rw [inv.running] at finished
  obtain rfl := Option.some.inj finished
  have whole : passed = events := (List.append_nil passed).symm.trans inv.split
  subst whole
  have sent : sentBy first.callers.length history = acceptedBy first.callers.length history :=
    inv.sent.trans (List.append_nil _)
  have fewer := inv.ordered.length_le
  have counts := inv.counted
  have kept := inv.accepted
  dsimp only at counts kept
  refine ⟨counts, kept, sent, sent ▸ inv.ordered, fun silent => ?_⟩
  obtain ⟨full, length⟩ := quiet silent
  refine ⟨full.first, fun alone => ?_⟩
  have grown := length alone
  rw [start, sent] at grown
  dsimp only at grown
  rw [sent]
  rcases Nat.eq_zero_or_pos dropped with none | some
  · omega
  · have saturated := full.full (.inl (Nat.ne_of_gt some))
    unfold Channel.HasRoom at saturated
    omega

/-- One producer stands before its send. -/
def producing : Pool Nat := { Pool.start 1 2 with callers := [⟨[9], .send, 0, 0⟩] }

/-- Beside it a call of `EnqueueBatch` with three events starts. -/
def contended : Pool Nat :=
  { producing with callers := producing.callers ++ [⟨[1, 2, 3], .check, 0, 0⟩] }

/-- The other producer takes a place in the queue of two and the worker makes room again, so the
call has two of its events accepted; from its start it would have come to its end alone as well. In
a pool where no one else sends or receives the queue takes the first two events. -/
theorem enqueueBatch_contended_three :
    (∃ history p, (system Nat).labelled.Run NoShutdown contended history p ∧
        ¬ NoneReceived history ∧ sentBy 0 history = [9] ∧ 2 + 1 = [1, 2, 3].length ∧
        sentBy 1 history = acceptedBy 1 history ∧ (sentBy 1 history).Sublist [1, 2, 3]) ∧
      (∃ schedule last out accepted dropped,
        (∀ action ∈ schedule, Act.isOf 1 action = true) ∧ schedule.length ≤ 9 ∧
          (system Nat).exec System.unguarded contended schedule = some (last, out) ∧
          last.callers[1]? = some ⟨[], .check, accepted, dropped⟩) ∧
      ∃ history p, (system Nat).labelled.Run NoShutdown
          { Pool.start 1 2 with callers := [⟨[1, 2, 3], .check, 0, 0⟩] } history p ∧
        2 + 1 = [1, 2, 3].length ∧ sentBy 0 history <+: [1, 2, 3] ∧
        (sentBy 0 history).length = min 3 (2 - 0) := by
  have calls : (system Nat).step (.start 1 2) (.call [9]) =
      some ({ Pool.start 1 2 with callers := [⟨[9], .check, 0, 0⟩] }, []) := rfl
  have loads : (system Nat).step { Pool.start 1 2 with callers := [⟨[9], .check, 0, 0⟩] }
      (.caller 0 none) = some (producing, []) := rfl
  have before : (system Nat).Run NoShutdown (.start 1 2) [] producing :=
    (System.Run.start.next trivial calls).next (show NoShutdown _ (.caller 0 none) from trivial)
      loads
  have call : producing.step (.call [1, 2, 3]) = some (contended, []) := rfl
  refine ⟨?_, (enqueueBatch_contended before call .start).2.1, ?_⟩
  · obtain ⟨history, p, run, passed⟩ := System.exec_witness (system Nat).labelled NoShutdown
      contended [.caller 1 none, .caller 0 none, .caller 1 none, .select 0 .taskCh, .caller 1 none,
        .caller 1 none, .caller 0 none, .caller 1 none, .caller 1 none, .caller 1 none,
        .caller 1 none, .caller 1 none]
      (fun (p, history) => p.callers[1]? = some ⟨[], .check, 2, 1⟩ && sentBy 0 history = [9] &&
        history.any fun entry => entry.2.flatMap Obs.receivedEvents ≠ []) (by decide)
    simp only [Bool.and_eq_true, decide_eq_true_eq, List.any_eq_true] at passed
    obtain ⟨⟨finished, other⟩, entry, member, received⟩ := passed
    obtain ⟨counts, _, sent, ordered, _⟩ :=
      (enqueueBatch_contended before call run).2.2 2 1 finished
    exact ⟨history, p, run, fun silent => received (silent entry member), other, counts, sent,
      ordered⟩
  · obtain ⟨history, p, run, passed⟩ := System.exec_witness (system Nat).labelled NoShutdown
      { Pool.start 1 2 with callers := [⟨[1, 2, 3], .check, 0, 0⟩] }
      (List.replicate 9 (.caller 0 none))
      (fun (p, history) => p.callers[0]? = some ⟨[], .check, 2, 1⟩ &&
        (history.all fun entry => entry.2.flatMap Obs.receivedEvents = []) &&
        history.all fun entry => entry.1.isOf 0) (by decide)
    simp only [Bool.and_eq_true, decide_eq_true_eq, List.all_eq_true] at passed
    obtain ⟨⟨finished, silent⟩, own⟩ := passed
    obtain ⟨counts, _, _, _, first⟩ := (enqueueBatch_contended .start rfl run).2.2 2 1 finished
    have alone : SendsAlone 0 history := by
      intro entry member other
      rw [own entry member] at other
      contradiction
    exact ⟨history, p, run, counts, (first silent).1, (first silent).2 alone⟩

end IngestionEngine.Worker
