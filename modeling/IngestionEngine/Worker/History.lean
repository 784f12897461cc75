import IngestionEngine.Worker.Counters

/-!
# Which events are counted

The counters of the pool say how many events are accepted and processed. A history that no step
reads says which, by the numbers of the events in the order of their sends.
-/

namespace IngestionEngine.Worker

open Systems

variable {Ev : Type}

/-- The goroutine that takes a step. -/
def Act.thread : Act Ev → Nat
  | .caller index _ | .select index _ | .worker index | .submit index _ | .shutdown index => index
  | .call _ | .callShutdown => 0

/-- The action is the update of `processed` by a worker. -/
def Pool.counts (p : Pool Ev) : Act Ev → Bool
  | .worker index => p.workers[index]?.any fun worker => worker.processing = 1
  | .call _ | .callShutdown | .caller _ _ | .select _ _ | .submit _ _ | .shutdown _ => false

/-- Which events are counted. The events are received in the order in which they are sent, so the
number of an event is how many were sent before it, and how many were received before it. -/
structure History where
  /-- How many events were sent. -/
  sent : Nat
  /-- How many events were received. -/
  received : Nat
  /-- The number of the event that a caller has sent last. -/
  ofCaller : Nat → Nat
  /-- The number of the event that a worker has received last. -/
  ofWorker : Nat → Nat
  /-- The events counted as accepted. -/
  accepted : List Nat
  /-- The events counted as processed. -/
  processed : List Nat
  /-- The events that were counted as accepted when a caller of `QueueStats` loaded `accepted`. -/
  loaded : Nat → List Nat

/-- Nothing has happened. -/
def History.start : History := ⟨0, 0, fun _ => 0, fun _ => 0, [], [], fun _ => []⟩

namespace History

/-- A caller sends an event. -/
def send (h : History) (caller : Nat) : History :=
  { h with sent := h.sent + 1, ofCaller := Function.update h.ofCaller caller h.sent }

/-- A worker receives an event. -/
def receive (h : History) (worker : Nat) : History :=
  { h with received := h.received + 1, ofWorker := Function.update h.ofWorker worker h.received }

/-- A caller updates `accepted`. -/
def accept (h : History) (caller : Nat) : History :=
  { h with accepted := h.ofCaller caller :: h.accepted }

/-- A worker updates `processed`. -/
def count (h : History) (worker : Nat) : History :=
  { h with processed := h.ofWorker worker :: h.processed }

/-- A caller of `QueueStats` loads `accepted`. -/
def load (h : History) (reader : Nat) : History :=
  { h with loaded := Function.update h.loaded reader h.accepted }

/-- Something is seen of the pool when a goroutine takes a step. -/
def observe (thread : Nat) (h : History) : Obs Ev → History
  | .sent _ => h.send thread
  | .received worker _ => h.receive worker
  | .enqueued _ none => h.accept thread
  | .enqueued _ (some _) | .panicked _ | .submitted _ _ | .closed => h

/-- The pool takes a step. -/
def pool (h : History) (p : Pool Ev) (action : Act Ev) (out : List (Obs Ev)) : History :=
  if p.counts action then h.count action.thread else out.foldl (observe action.thread) h

/-- The event that a caller has sent has the number of those sent before. -/
theorem send_self (h : History) (caller : Nat) : (h.send caller).ofCaller caller = h.sent :=
  Function.update_self _ _ _

/-- The other callers have the events that they had. -/
theorem send_other (h : History) {caller other : Nat} (different : other ≠ caller) :
    (h.send caller).ofCaller other = h.ofCaller other := Function.update_of_ne different _ _

/-- The event that a worker has received has the number of those received before. -/
theorem receive_self (h : History) (worker : Nat) :
    (h.receive worker).ofWorker worker = h.received := Function.update_self _ _ _

/-- The other workers have the events that they had. -/
theorem receive_other (h : History) {worker other : Nat} (different : other ≠ worker) :
    (h.receive worker).ofWorker other = h.ofWorker other := Function.update_of_ne different _ _

/-- A load is of the events that are counted by then. -/
theorem load_self (h : History) (reader : Nat) : (h.load reader).loaded reader = h.accepted :=
  Function.update_self _ _ _

/-- The other calls have loaded what they had. -/
theorem load_other (h : History) {reader other : Nat} (different : other ≠ reader) :
    (h.load reader).loaded other = h.loaded other := Function.update_of_ne different _ _

end History

/-! ### The numbers are those of the events -/

/-- What the numbers say of the events that were sent. -/
structure Numbered (seen : List (Obs Ev)) (p : Pool Ev) (h : History) : Prop where
  /-- The number of the next event that is sent. -/
  sent : h.sent = (seen.flatMap Obs.sentEvents).length
  /-- The number of the next event that is received. -/
  received : h.received = (seen.flatMap Obs.receivedEvents).length
  /-- A caller has sent the event with its number. -/
  callers : ∀ (index : Nat) (caller : Caller Ev) (ev : Ev) (rest : List Ev),
    p.callers[index]? = some caller → caller.pc = .sent → caller.rest = ev :: rest →
    (seen.flatMap Obs.sentEvents)[h.ofCaller index]? = some ev
  /-- A worker has received the event with its number. -/
  workers : ∀ (index : Nat) (worker : WorkerPc Ev) (ev : Ev), p.workers[index]? = some worker →
    worker = .received ev ∨ worker = .rangeReceived ev →
    (seen.flatMap Obs.sentEvents)[h.ofWorker index]? = some ev

section Numbered

variable {seen : List (Obs Ev)} {p after : Pool Ev} {h : History} {index : Nat}

/-- A step that neither sends nor receives. -/
theorem Numbered.keep (numbered : Numbered seen p h) {out : List (Obs Ev)}
    (sends : out.flatMap Obs.sentEvents = []) (receives : out.flatMap Obs.receivedEvents = [])
    (callers : ∀ (other : Nat) (caller : Caller Ev), after.callers[other]? = some caller →
      caller.pc = .sent → p.callers[other]? = some caller)
    (workers : ∀ (other : Nat) (worker : WorkerPc Ev) (ev : Ev),
      after.workers[other]? = some worker →
        worker = .received ev ∨ worker = .rangeReceived ev → p.workers[other]? = some worker) :
    Numbered (seen ++ out) after h := by
  have sent : (seen ++ out).flatMap Obs.sentEvents = seen.flatMap Obs.sentEvents := by
    rw [List.flatMap_append, sends, List.append_nil]
  have received : (seen ++ out).flatMap Obs.receivedEvents = seen.flatMap Obs.receivedEvents := by
    rw [List.flatMap_append, receives, List.append_nil]
  refine ⟨?_, ?_, ?_, ?_⟩
  · rw [sent]
    exact numbered.sent
  · rw [received]
    exact numbered.received
  · intro other caller ev rest running here current
    rw [sent]
    exact numbered.callers other caller ev rest (callers other caller running here) here current
  · intro other worker ev running holds
    rw [sent]
    exact numbered.workers other worker ev (workers other worker ev running holds) holds

/-- A caller sends an event, which has the next number. -/
theorem Numbered.send (numbered : Numbered seen p h) {ev : Ev}
    (callers : ∀ (other : Nat) (caller : Caller Ev), after.callers[other]? = some caller →
      caller.pc = .sent → (other = index ∧ ∃ rest, caller.rest = ev :: rest) ∨
        (other ≠ index ∧ p.callers[other]? = some caller))
    (workers : after.workers = p.workers) :
    Numbered (seen ++ [.sent ev]) after (h.send index) := by
  have sent : (seen ++ [Obs.sent ev]).flatMap Obs.sentEvents =
      seen.flatMap Obs.sentEvents ++ [ev] := List.flatMap_append
  have received : (seen ++ [Obs.sent ev]).flatMap Obs.receivedEvents =
      seen.flatMap Obs.receivedEvents := List.flatMap_append.trans (List.append_nil _)
  have older {place : Nat} {old : Ev} (found : (seen.flatMap Obs.sentEvents)[place]? = some old) :
      (seen.flatMap Obs.sentEvents ++ [ev])[place]? = some old := by
    rw [List.getElem?_append_left (List.getElem?_eq_some_iff.mp found).1]
    exact found
  refine ⟨?_, ?_, ?_, ?_⟩
  · rw [sent, List.length_append]
    exact congrArg (· + 1) numbered.sent
  · rw [received]
    exact numbered.received
  · intro other caller old rest running here current
    rw [sent]
    rcases callers other caller running here with ⟨rfl, tail, mine⟩ | ⟨different, found⟩
    · obtain ⟨rfl, _⟩ := List.cons.inj (mine.symm.trans current)
      rw [h.send_self, numbered.sent]
      exact List.getElem?_concat_length
    · rw [h.send_other different]
      exact older (numbered.callers other caller old rest found here current)
  · intro other worker old running holds
    rw [sent]
    rw [workers] at running
    exact older (numbered.workers other worker old running holds)

/-- A worker receives the event with the next number. -/
theorem Numbered.receive (numbered : Numbered seen p h) {ev : Ev}
    (front : (seen.flatMap Obs.sentEvents)[(seen.flatMap Obs.receivedEvents).length]? = some ev)
    (callers : after.callers = p.callers)
    (workers : ∀ (other : Nat) (worker : WorkerPc Ev) (old : Ev),
      after.workers[other]? = some worker →
        worker = .received old ∨ worker = .rangeReceived old →
      (other = index ∧ old = ev) ∨ (other ≠ index ∧ p.workers[other]? = some worker)) :
    Numbered (seen ++ [.received index ev]) after (h.receive index) := by
  have sent : (seen ++ [Obs.received index ev]).flatMap Obs.sentEvents =
      seen.flatMap Obs.sentEvents := List.flatMap_append.trans (List.append_nil _)
  have received : (seen ++ [Obs.received index ev]).flatMap Obs.receivedEvents =
      seen.flatMap Obs.receivedEvents ++ [ev] := List.flatMap_append
  refine ⟨?_, ?_, ?_, ?_⟩
  · rw [sent]
    exact numbered.sent
  · rw [received, List.length_append]
    exact congrArg (· + 1) numbered.received
  · rw [sent, callers]
    exact numbered.callers
  · intro other worker old running holds
    rw [sent]
    rcases workers other worker old running holds with ⟨rfl, rfl⟩ | ⟨different, found⟩
    · rw [h.receive_self, numbered.received]
      exact front
    · rw [h.receive_other different]
      exact numbered.workers other worker old found holds

/-- What a caller of `QueueStats` loads changes no number. -/
theorem Numbered.load (numbered : Numbered seen p h) (reader : Nat) :
    Numbered seen p (h.load reader) :=
  ⟨numbered.sent, numbered.received, numbered.callers, numbered.workers⟩

/-- Neither do the counts of the callers. -/
theorem Numbered.accept (numbered : Numbered seen p h) (caller : Nat) :
    Numbered seen p (h.accept caller) :=
  ⟨numbered.sent, numbered.received, numbered.callers, numbered.workers⟩

/-- Neither do those of the workers. -/
theorem Numbered.count (numbered : Numbered seen p h) (worker : Nat) :
    Numbered seen p (h.count worker) :=
  ⟨numbered.sent, numbered.received, numbered.callers, numbered.workers⟩

/-- A caller that sends has sent its current event. -/
theorem callers_send {callers : List (Caller Ev)} {new : Caller Ev} {ev : Ev} {rest : List Ev}
    (current : new.rest = ev :: rest) (other : Nat) (caller : Caller Ev)
    (found : (callers.set index new)[other]? = some caller) (_here : caller.pc = .sent) :
    (other = index ∧ ∃ rest, caller.rest = ev :: rest) ∨
      (other ≠ index ∧ callers[other]? = some caller) := by
  rcases getElem?_set_cases found with ⟨same, rfl⟩ | others
  · exact .inl ⟨same, rest, current⟩
  · exact .inr others

/-- A step that sets one caller, which has sent nothing, leaves those that have. -/
theorem callers_idle {callers : List (Caller Ev)} {new : Caller Ev} (idle : new.pc ≠ .sent)
    (other : Nat) (caller : Caller Ev) (found : (callers.set index new)[other]? = some caller)
    (here : caller.pc = .sent) : callers[other]? = some caller := by
  rcases getElem?_set_cases found with ⟨_, rfl⟩ | ⟨_, old⟩
  · exact absurd here idle
  · exact old

/-- A step that sets one worker, which has received nothing, leaves those that have. -/
theorem workers_idle {workers : List (WorkerPc Ev)} {new : WorkerPc Ev}
    (idle : ∀ ev, new ≠ .received ev ∧ new ≠ .rangeReceived ev) (other : Nat)
    (worker : WorkerPc Ev) (ev : Ev) (found : (workers.set index new)[other]? = some worker)
    (holds : worker = .received ev ∨ worker = .rangeReceived ev) :
    workers[other]? = some worker := by
  rcases getElem?_set_cases found with ⟨_, rfl⟩ | ⟨_, old⟩
  · rcases holds with same | same
    · exact absurd same (idle ev).1
    · exact absurd same (idle ev).2
  · exact old

/-- A worker that receives an event has that one. -/
theorem workers_receive {workers : List (WorkerPc Ev)} {new : WorkerPc Ev} {ev : Ev}
    (receives : new = .received ev ∨ new = .rangeReceived ev) (other : Nat) (worker : WorkerPc Ev)
    (old : Ev) (found : (workers.set index new)[other]? = some worker)
    (holds : worker = .received old ∨ worker = .rangeReceived old) :
    (other = index ∧ old = ev) ∨ (other ≠ index ∧ workers[other]? = some worker) := by
  rcases getElem?_set_cases found with ⟨same, rfl⟩ | others
  · refine .inl ⟨same, ?_⟩
    rcases receives with rfl | rfl <;> simpa [eq_comm] using holds
  · exact .inr others

/-- A worker that counts shows nothing. -/
theorem work_silent {out : List (Obs Ev)} (moved : Pool.Work p index after out)
    (counts : p.counts (.worker index) = true) : out = [] := by
  cases moved with
  | receive running | drain running =>
    simp [Pool.counts, running, WorkerPc.processing] at counts
  | cancelled | finish | woken | block | count | lose | countDrained => rfl

/-- What a worker receives is the next event. -/
theorem work_numbered {out : List (Obs Ev)} (flow : p.FlowInv seen) (numbered : Numbered seen p h)
    (moved : Pool.Work p index after out) :
    Numbered (seen ++ out) after (out.foldl (History.observe index) h) := by
  have next {ev : Ev} {queue : List Ev} (front : p.taskCh.queue = ev :: queue) :
      (seen.flatMap Obs.sentEvents)[(seen.flatMap Obs.receivedEvents).length]? = some ev := by
    rw [flow.fifo, front, List.getElem?_append_right (Nat.le_refl _), Nat.sub_self]
    rfl
  cases moved with
  | receive running front =>
    exact numbered.receive (next front) rfl (workers_receive (.inl rfl))
  | drain running front =>
    exact numbered.receive (next front) rfl (workers_receive (.inr rfl))
  | cancelled | finish | woken | block | count | lose | countDrained =>
    exact numbered.keep rfl rfl (fun _ _ running _ => running) (workers_idle (by simp))

/-- What a caller sends is the next event, and so is what it hands to a worker. -/
theorem enqueue_numbered {out : List (Obs Ev)} (rest : p.RestInv) (flow : p.FlowInv seen)
    (numbered : Numbered seen p h) (moved : Pool.Enqueue p index after out) :
    Numbered (seen ++ out) after (out.foldl (History.observe index) h) := by
  cases moved with
  | shut | load | panic | refuse | drop =>
    exact numbered.keep rfl rfl (callers_idle (by simp [Caller.lost]))
      fun _ _ _ running _ => running
  | accept =>
    exact (numbered.accept index).keep rfl rfl (callers_idle (by simp [Caller.kept]))
      fun _ _ _ running _ => running
  | queue running current => exact numbered.send (callers_send current) rfl
  | @meet caller ev _ worker running current here opened waiting =>
    -- The channel is empty, so the event that is sent is the next to be received.
    let sending : Pool Ev :=
      { p with callers := p.callers.set index { caller with pc := .sent } }
    have sent : Numbered (seen ++ [.sent ev]) sending (h.send index) :=
      numbered.send (callers_send current) rfl
    have empty : p.taskCh.queue = [] := rest.waiting (List.mem_of_getElem? waiting)
    have front : ((seen ++ [Obs.sent ev]).flatMap Obs.sentEvents)[
        ((seen ++ [Obs.sent ev]).flatMap Obs.receivedEvents).length]? = some ev := by
      rw [List.flatMap_append, List.flatMap_append, flow.fifo, empty, List.append_nil]
      show (_ ++ [ev])[(_ ++ []).length]? = some ev
      rw [List.append_nil]
      exact List.getElem?_concat_length
    rw [List.append_cons]
    exact sent.receive front rfl (workers_receive (.inl rfl))

/-- Every step of the pool keeps the numbers right. -/
theorem step_numbered {action : Act Ev} {out : List (Obs Ev)} (rest : p.RestInv)
    (flow : p.FlowInv seen) (numbered : Numbered seen p h)
    (stepped : p.step action = some (after, out)) :
    Numbered (seen ++ out) after (h.pool p action out) := by
  cases action with
  | call events =>
    cases Pool.step_cases stepped
    refine numbered.keep rfl rfl (fun other caller running here => ?_)
      fun _ _ _ running _ => running
    rcases getElem?_append_cases running with rfl | old
    · contradiction
    · exact old
  | callShutdown =>
    cases Pool.step_cases stepped
    exact numbered.keep rfl rfl (fun _ _ running _ => running) fun _ _ _ running _ => running
  | caller index waiter =>
    cases Pool.step_cases stepped with
    | caller moved => exact enqueue_numbered rest flow numbered moved
  | select index chosen =>
    cases Pool.step_cases stepped with
    | select moved => exact work_numbered flow numbered moved
  | worker index =>
    cases Pool.step_cases stepped with
    | worker moved =>
      have kept := work_numbered flow numbered moved
      unfold History.pool
      split
      · rename_i counts
        obtain rfl := work_silent moved counts
        exact kept.count index
      · exact kept
  | submit index accepted =>
    cases Pool.step_cases stepped with
    | submit moved =>
      cases moved with
      | returns | returnsDrained =>
        exact numbered.keep rfl rfl (fun _ _ running _ => running) (workers_idle (by simp))
  | shutdown index =>
    cases Pool.step_cases stepped with
    | shutdown moved =>
      cases moved <;>
        exact numbered.keep rfl rfl (fun _ _ running _ => running) fun _ _ _ running _ => running

end Numbered

/-! ### The lists are those of the counters -/

/-- A worker has received an event that it has not counted. -/
def Holding (workers : List (WorkerPc Ev)) (index : Nat) : Prop :=
  ∃ worker, workers[index]? = some worker ∧ worker.uncounted = 1

/-- The lists have as many events as the counters say, no event is counted as processed twice, and
the workers hold different events that are not counted as processed. -/
structure Tracks (p : Pool Ev) (h : History) : Prop where
  /-- The events counted as accepted. -/
  accepted : h.accepted.length = p.accepted
  /-- The events counted as processed. -/
  processed : h.processed.length = p.processed
  /-- None of them is counted twice. -/
  once : h.processed.Nodup
  /-- They were received. -/
  before : ∀ event ∈ h.processed, event < h.received
  /-- The events that the workers hold. -/
  held : ∀ index, Holding p.workers index →
    h.ofWorker index < h.received ∧ h.ofWorker index ∉ h.processed
  /-- No two workers hold the same. -/
  apart : ∀ one other, Holding p.workers one → Holding p.workers other →
    h.ofWorker one = h.ofWorker other → one = other

section Tracks

variable {p after : Pool Ev} {action : Act Ev} {out : List (Obs Ev)} {h : History} {index : Nat}

/-- What a step of one worker leaves in hand. -/
theorem holding_set {workers : List (WorkerPc Ev)} {new : WorkerPc Ev} {other : Nat}
    (holding : Holding (workers.set index new) other) :
    (other = index ∧ new.uncounted = 1) ∨ (other ≠ index ∧ Holding workers other) := by
  obtain ⟨worker, running, uncounted⟩ := holding
  rcases getElem?_set_cases running with ⟨same, rfl⟩ | ⟨different, found⟩
  · exact .inl ⟨same, uncounted⟩
  · exact .inr ⟨different, worker, found, uncounted⟩

/-- A worker that holds nothing afterwards leaves what the others hold. -/
theorem holding_free {workers : List (WorkerPc Ev)} {new : WorkerPc Ev} {other : Nat}
    (free : new.uncounted = 0) (holding : Holding (workers.set index new) other) :
    other ≠ index ∧ Holding workers other := by
  rcases holding_set holding with ⟨_, uncounted⟩ | others
  · rw [free] at uncounted
    contradiction
  · exact others

/-- A step that counts nothing and receives nothing. -/
theorem Tracks.keep (tracks : Tracks p h) (accepted : after.accepted = p.accepted)
    (processed : after.processed = p.processed)
    (fewer : ∀ other, Holding after.workers other → Holding p.workers other) :
    Tracks after h where
  accepted := tracks.accepted.trans accepted.symm
  processed := tracks.processed.trans processed.symm
  once := tracks.once
  before := tracks.before
  held := fun other holding => tracks.held other (fewer other holding)
  apart := fun one other first second =>
    tracks.apart one other (fewer one first) (fewer other second)

/-- A caller sends the next event. -/
theorem Tracks.send (tracks : Tracks p h) (caller : Nat) : Tracks p (h.send caller) where
  accepted := tracks.accepted
  processed := tracks.processed
  once := tracks.once
  before := tracks.before
  held := tracks.held
  apart := tracks.apart

/-- A call of `QueueStats` loads `accepted`. -/
theorem Tracks.load (tracks : Tracks p h) (reader : Nat) : Tracks p (h.load reader) where
  accepted := tracks.accepted
  processed := tracks.processed
  once := tracks.once
  before := tracks.before
  held := tracks.held
  apart := tracks.apart

/-- A caller counts its event as accepted. -/
theorem Tracks.accept (tracks : Tracks p h) (accepted : after.accepted = p.accepted + 1)
    (processed : after.processed = p.processed) (workers : after.workers = p.workers)
    (caller : Nat) : Tracks after (h.accept caller) where
  accepted := by
    show h.accepted.length + 1 = after.accepted
    rw [tracks.accepted, accepted]
  processed := tracks.processed.trans processed.symm
  once := tracks.once
  before := tracks.before
  held := by
    rw [workers]
    exact tracks.held
  apart := by
    rw [workers]
    exact tracks.apart

/-- A worker receives the next event. -/
theorem Tracks.receive (tracks : Tracks p h) (accepted : after.accepted = p.accepted)
    (processed : after.processed = p.processed)
    (others : ∀ other, Holding after.workers other → other ≠ index → Holding p.workers other) :
    Tracks after (h.receive index) where
  accepted := tracks.accepted.trans accepted.symm
  processed := tracks.processed.trans processed.symm
  once := tracks.once
  before := fun event member => Nat.lt_succ_of_lt (tracks.before event member)
  held := by
    intro other holding
    by_cases same : other = index
    · subst same
      rw [h.receive_self]
      refine ⟨Nat.lt_succ_self _, fun counted => ?_⟩
      exact Nat.lt_irrefl _ (tracks.before _ counted)
    · rw [h.receive_other same]
      obtain ⟨less, fresh⟩ := tracks.held other (others other holding same)
      exact ⟨Nat.lt_succ_of_lt less, fresh⟩
  apart := by
    intro one other first second
    by_cases mine : one = index
    · by_cases its : other = index
      · exact fun _ => mine.trans its.symm
      · have less := (tracks.held other (others other second its)).1
        rw [mine, h.receive_self, h.receive_other its]
        omega
    · have less := (tracks.held one (others one first mine)).1
      rw [h.receive_other mine]
      by_cases its : other = index
      · rw [its, h.receive_self]
        omega
      · rw [h.receive_other its]
        exact tracks.apart one other (others one first mine) (others other second its)

/-- A worker counts the event that it holds as processed. -/
theorem Tracks.count (tracks : Tracks p h) (holding : Holding p.workers index)
    (accepted : after.accepted = p.accepted) (processed : after.processed = p.processed + 1)
    (others : ∀ other, Holding after.workers other → other ≠ index ∧ Holding p.workers other) :
    Tracks after (h.count index) where
  accepted := tracks.accepted.trans accepted.symm
  processed := by
    show h.processed.length + 1 = after.processed
    rw [tracks.processed, processed]
  once := List.nodup_cons.mpr ⟨(tracks.held index holding).2, tracks.once⟩
  before := List.forall_mem_cons.mpr ⟨(tracks.held index holding).1, tracks.before⟩
  held := by
    intro other remains
    obtain ⟨different, held⟩ := others other remains
    obtain ⟨less, fresh⟩ := tracks.held other held
    refine ⟨less, fun counted => ?_⟩
    rcases List.mem_cons.mp counted with same | old
    · exact different (tracks.apart other index held holding same)
    · exact fresh old
  apart := fun one other first second =>
    tracks.apart one other (others one first).2 (others other second).2

/-- A worker at its `select` counts nothing. -/
theorem select_counts {chosen : SelectCase} (selected : p.select index chosen = some (after, out)) :
    p.counts (.worker index) = false := by
  cases Pool.select_cases selected with
  | cancelled running here | finish running here =>
    rcases here with rfl | rfl <;> simp [Pool.counts, running, WorkerPc.processing]
  | receive running | drain running | woken running | block running | lose running =>
    simp [Pool.counts, running, WorkerPc.processing]
  | count running | countDrained running =>
    have none : p.select index chosen = none := by simp only [Pool.select, running]
    rw [none] at selected
    contradiction

/-- A step of a worker. -/
theorem work_tracks (tracks : Tracks p h) (moved : Pool.Work p index after out) :
    (p.counts (.worker index) = false → Tracks after (out.foldl (History.observe index) h)) ∧
      (p.counts (.worker index) = true → Tracks after (h.count index)) := by
  cases moved with
  | cancelled running here | finish running here =>
    have idle : p.counts (.worker index) = false := by
      rcases here with rfl | rfl <;> simp [Pool.counts, running, WorkerPc.processing]
    rw [idle]
    exact ⟨fun _ => tracks.keep rfl rfl fun _ holding => (holding_free rfl holding).2, by simp⟩
  | woken running | block running | lose running =>
    have idle : p.counts (.worker index) = false := by
      simp [Pool.counts, running, WorkerPc.processing]
    rw [idle]
    exact ⟨fun _ => tracks.keep rfl rfl fun _ holding => (holding_free rfl holding).2, by simp⟩
  | receive running | drain running =>
    have idle : p.counts (.worker index) = false := by
      simp [Pool.counts, running, WorkerPc.processing]
    rw [idle]
    refine ⟨fun _ => tracks.receive rfl rfl fun other holding different => ?_, by simp⟩
    rcases holding_set holding with ⟨same, _⟩ | ⟨_, held⟩
    · exact absurd same different
    · exact held
  | count running | countDrained running =>
    have counting : p.counts (.worker index) = true := by
      simp [Pool.counts, running, WorkerPc.processing]
    rw [counting]
    refine ⟨by simp, fun _ => tracks.count ⟨_, running, rfl⟩ rfl rfl fun _ holding => ?_⟩
    exact holding_free rfl holding

/-- Every step of the pool keeps the history right. -/
theorem step_tracks (tracks : Tracks p h) (stepped : p.step action = some (after, out)) :
    Tracks after (h.pool p action out) := by
  cases action with
  | call | callShutdown =>
    cases Pool.step_cases stepped
    exact tracks.keep rfl rfl fun _ holding => holding
  | caller index waiter =>
    cases Pool.step_cases stepped with
    | caller moved =>
      cases moved with
      | shut | load | panic | refuse | drop =>
        exact tracks.keep rfl rfl fun _ holding => holding
      | queue =>
        exact (tracks.send index).keep rfl rfl fun _ holding => holding
      | meet running current here opened waiting =>
        refine (tracks.send index).receive rfl rfl fun other holding different => ?_
        rcases holding_set holding with ⟨same, _⟩ | ⟨_, held⟩
        · exact absurd same different
        · exact held
      | accept =>
        refine tracks.accept ?_ ?_ ?_ index
        all_goals rfl
  | select index chosen =>
    cases Pool.step_cases stepped with
    | select moved => exact (work_tracks tracks moved).1 (select_counts stepped)
  | worker index =>
    cases Pool.step_cases stepped with
    | worker moved =>
      unfold History.pool
      cases counts : p.counts (.worker index) with
      | false => exact (work_tracks tracks moved).1 counts
      | true => exact (work_tracks tracks moved).2 counts
  | submit index accepted =>
    cases Pool.step_cases stepped with
    | submit moved =>
      have keeps {old new : WorkerPc Ev} (running : p.workers[index]? = some old)
          (holds : old.uncounted = 1) (other : Nat)
          (holding : Holding (p.workers.set index new) other) : Holding p.workers other := by
        rcases holding_set holding with ⟨rfl, _⟩ | ⟨_, held⟩
        · exact ⟨old, running, holds⟩
        · exact held
      cases moved with
      | returns running | returnsDrained running =>
        exact tracks.keep rfl rfl (keeps running rfl)
  | shutdown index =>
    cases Pool.step_cases stepped with
    | shutdown moved => cases moved <;> exact tracks.keep rfl rfl fun _ holding => holding

end Tracks

end IngestionEngine.Worker
