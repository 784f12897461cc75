import IngestionEngine.Systems.Run
import IngestionEngine.Systems.Channel
import IngestionEngine.Systems.Threads

/-!
# The worker pool

`worker.Pool` as a system of atomic steps of any number of goroutines: the workers, the
callers of `Enqueue` and `EnqueueBatch`, and the callers of `Shutdown`. Each goroutine is an
entry of a list with its program counter; a new caller may appear at any time. The result
of `batchProc.Submit` is part of the action, since the batch processor decides it.

A worker blocked in its `select` receives directly from the sender, as the Go runtime does
it; the action names the waiting worker that the runtime picks. Sending on the closed
`taskCh` panics, also inside a `select` with a default case.
-/

namespace IngestionEngine.Worker

open Systems

/-- The errors of `Enqueue`. -/
inductive EnqueueError where
  /-- `ErrQueueFull` -/
  | queueFull
  /-- `ErrPoolShut` -/
  | poolShut
  deriving DecidableEq, Repr

/-- The text of an error. -/
def EnqueueError.text : EnqueueError → String
  | .queueFull => "worker queue saturated: backpressure triggered"
  | .poolShut => "worker pool has been stopped"

/-- Where a caller stands in the `Enqueue` of its current event. -/
inductive CallerPc where
  /-- Before the load of `isShuttingDown`. -/
  | check
  /-- Loaded 0; before the `select` that sends. -/
  | send
  /-- The event was sent; before the update of `accepted`. -/
  | sent
  /-- The default case was taken; before the update of `dropped`. -/
  | refused
  /-- It sent on the closed channel. -/
  | panicked
  deriving DecidableEq, Repr

/-- A goroutine inside `EnqueueBatch`; `Enqueue` is the batch of one event. -/
structure Caller (Ev : Type) where
  /-- The events not yet enqueued, the current one first. -/
  rest : List Ev
  /-- Where it stands with the current one. -/
  pc : CallerPc
  /-- `acceptedCount` -/
  acceptedCount : Nat
  /-- `droppedCount` -/
  droppedCount : Nat
  deriving DecidableEq, Repr

/-- `Enqueue` of the current event returned nil. -/
def Caller.kept {Ev : Type} (caller : Caller Ev) : Caller Ev :=
  { caller with rest := caller.rest.tail, pc := .check, acceptedCount := caller.acceptedCount + 1 }

/-- `Enqueue` of the current event returned an error. -/
def Caller.lost {Ev : Type} (caller : Caller Ev) : Caller Ev :=
  { caller with rest := caller.rest.tail, pc := .check, droppedCount := caller.droppedCount + 1 }

/-- Where a worker stands in `workerRoutine`, with its local variables. -/
inductive WorkerPc (Ev : Type) where
  /-- At its `select`. -/
  | select
  /-- Blocked in its `select`. -/
  | parked
  /-- Received `ev`, before its `Submit`. -/
  | received (ev : Ev)
  /-- `Submit` returned; before the update of a counter. -/
  | counting (accepted : Bool)
  /-- At the head of the `range` loop that drains after a cancel. -/
  | ranging
  /-- Received `ev` in that loop, before its `Submit`. -/
  | rangeReceived (ev : Ev)
  /-- `Submit` returned there; before the update of `processed`. -/
  | rangeCounting
  /-- It has returned. -/
  | done
  deriving DecidableEq, Repr

/-- Where a caller of `Shutdown` stands. -/
inductive ShutdownPc where
  /-- Before the compare-and-swap of `isShuttingDown`. -/
  | cas
  /-- It swapped; before `close(p.taskCh)`. -/
  | closing
  /-- Before `p.cancel()`. -/
  | cancelling
  /-- In `p.wg.Wait()`. -/
  | waiting
  /-- It has returned; `won` tells whether its swap succeeded. -/
  | returned (won : Bool)
  deriving DecidableEq, Repr

/-- The fields of `worker.Pool` that some step reads, and its goroutines. -/
structure Pool (Ev : Type) where
  /-- The bounded queue. -/
  taskCh : Channel Ev
  /-- `taskCh` has been closed. -/
  closed : Bool
  /-- The context has been cancelled. -/
  ctxDone : Bool
  /-- The shutdown flag. -/
  isShuttingDown : Bool
  /-- Events that `Enqueue` accepted. -/
  accepted : Nat
  /-- Events that `Enqueue` or a worker dropped. -/
  dropped : Nat
  /-- Events that the workers processed. -/
  processed : Nat
  /-- The goroutines of `Start`. -/
  workers : List (WorkerPc Ev)
  /-- The goroutines that enqueue. -/
  callers : List (Caller Ev)
  /-- The goroutines that shut the pool down. -/
  shutdowns : List ShutdownPc

/-- What an observer of the pool sees. -/
inductive Obs (Ev : Type) where
  /-- `ev` was sent on `taskCh`. -/
  | sent (ev : Ev)
  /-- A worker received `ev` from `taskCh`. -/
  | received (worker : Nat) (ev : Ev)
  /-- `Enqueue` of `ev` returned nil, or an error. -/
  | enqueued (ev : Ev) (result : Option EnqueueError)
  /-- `Enqueue` of `ev` panicked. -/
  | panicked (ev : Ev)
  /-- `batchProc.Submit` of `ev` returned. -/
  | submitted (ev : Ev) (accepted : Bool)
  /-- `taskCh` was closed. -/
  | closed
  deriving DecidableEq, Repr

/-- The case a worker's `select` takes. -/
inductive SelectCase where
  /-- `<-p.ctx.Done()` -/
  | done
  /-- `ev, ok := <-p.taskCh` -/
  | taskCh
  /-- No case is ready. -/
  | block
  deriving DecidableEq, Repr

/-- The steps of the goroutines. -/
inductive Act (Ev : Type) where
  /-- A goroutine calls `EnqueueBatch`. -/
  | call (events : List Ev)
  /-- A goroutine calls `Shutdown`. -/
  | callShutdown
  /-- A caller takes its next step; the runtime names the waiting worker, if there is one. -/
  | caller (index : Nat) (waiter : Option Nat)
  /-- A worker chooses a case of its `select`. -/
  | select (index : Nat) (chosen : SelectCase)
  /-- A worker takes its next statement. -/
  | worker (index : Nat)
  /-- `Submit` returns to a worker. -/
  | submit (index : Nat) (accepted : Bool)
  /-- A caller of `Shutdown` takes its next step. -/
  | shutdown (index : Nat)
  deriving DecidableEq, Repr

/-- The worker is blocked in its `select`. -/
def WorkerPc.isParked {Ev : Type} : WorkerPc Ev → Bool
  | .parked => true
  | _ => false

/-- The worker has returned. -/
def WorkerPc.isDone {Ev : Type} : WorkerPc Ev → Bool
  | .done => true
  | _ => false

namespace Pool

variable {Ev : Type}

/-- `NewPool` and `Start`. -/
def start (numWorkers queueSize : Nat) : Pool Ev where
  taskCh := Channel.make queueSize
  closed := false
  ctxDone := false
  isShuttingDown := false
  accepted := 0
  dropped := 0
  processed := 0
  workers := List.replicate numWorkers .select
  callers := []
  shutdowns := []

/-- The non-blocking send of `Enqueue`. -/
def send (p : Pool Ev) (index : Nat) (caller : Caller Ev) (ev : Ev) :
    Option Nat → Option (Pool Ev × List (Obs Ev))
  | some worker =>
    if p.closed then none
    else
      match p.workers[worker]? with
      | some .parked =>
        some ({ p with workers := p.workers.set worker (.received ev),
                       callers := p.callers.set index { caller with pc := .sent } },
          [.sent ev, .received worker ev])
      | _ => none
  | none =>
    if p.closed then
      some ({ p with callers := p.callers.set index { caller with pc := .panicked } },
        [.panicked ev])
    else if p.workers.any WorkerPc.isParked then none
    else
      match p.taskCh.trySend ev with
      | some taskCh =>
        some ({ p with taskCh, callers := p.callers.set index { caller with pc := .sent } },
          [.sent ev])
      | none => some ({ p with callers := p.callers.set index { caller with pc := .refused } }, [])

/-- `Enqueue`, called for each event by `EnqueueBatch`. -/
def enqueue (p : Pool Ev) (index : Nat) (waiter : Option Nat) :
    Option (Pool Ev × List (Obs Ev)) :=
  match p.callers[index]? with
  | none => none
  | some caller =>
    match caller.rest with
    | [] => none
    | ev :: _ =>
      match caller.pc with
      | .check =>
        if p.isShuttingDown then
          some ({ p with callers := p.callers.set index caller.lost },
            [.enqueued ev (some .poolShut)])
        else some ({ p with callers := p.callers.set index { caller with pc := .send } }, [])
      | .send => p.send index caller ev waiter
      | .sent =>
        some ({ p with accepted := p.accepted + 1, callers := p.callers.set index caller.kept },
          [.enqueued ev none])
      | .refused =>
        some ({ p with dropped := p.dropped + 1, callers := p.callers.set index caller.lost },
          [.enqueued ev (some .queueFull)])
      | .panicked => none

/-- The `select` of a worker. A blocked worker is woken by the close, or by a cancel of a
channel that is still open. -/
def select (p : Pool Ev) (index : Nat) (chosen : SelectCase) :
    Option (Pool Ev × List (Obs Ev)) :=
  match p.workers[index]?, chosen with
  | some .select, .done =>
    if p.ctxDone then some ({ p with workers := p.workers.set index .ranging }, []) else none
  | some .select, .taskCh =>
    match p.taskCh.tryReceive with
    | some (ev, taskCh) =>
      some ({ p with taskCh, workers := p.workers.set index (.received ev) },
        [.received index ev])
    | none =>
      if p.closed then some ({ p with workers := p.workers.set index .done }, []) else none
  | some .select, .block =>
    if p.ctxDone = false ∧ p.closed = false ∧ p.taskCh.queue = [] then
      some ({ p with workers := p.workers.set index .parked }, [])
    else none
  | some .parked, .taskCh =>
    if p.closed then some ({ p with workers := p.workers.set index .done }, []) else none
  | some .parked, .done =>
    if p.ctxDone = true ∧ p.closed = false then
      some ({ p with workers := p.workers.set index .ranging }, [])
    else none
  | _, _ => none

/-- The next statement of a worker, where it has no choice. -/
def advance (p : Pool Ev) (index : Nat) : Option (Pool Ev × List (Obs Ev)) :=
  match p.workers[index]? with
  | some (.counting true) =>
    some ({ p with processed := p.processed + 1, workers := p.workers.set index .select }, [])
  | some (.counting false) =>
    some ({ p with dropped := p.dropped + 1, workers := p.workers.set index .select }, [])
  | some .ranging =>
    match p.taskCh.tryReceive with
    | some (ev, taskCh) =>
      some ({ p with taskCh, workers := p.workers.set index (.rangeReceived ev) },
        [.received index ev])
    | none =>
      if p.closed then some ({ p with workers := p.workers.set index .done }, []) else none
  | some .rangeCounting =>
    -- `processed` is updated whatever `Submit` returned
    some ({ p with processed := p.processed + 1, workers := p.workers.set index .ranging }, [])
  | _ => none

/-- `batchProc.Submit` returns to a worker. -/
def submit (p : Pool Ev) (index : Nat) (accepted : Bool) : Option (Pool Ev × List (Obs Ev)) :=
  match p.workers[index]? with
  | some (.received ev) =>
    some ({ p with workers := p.workers.set index (.counting accepted) },
      [.submitted ev accepted])
  | some (.rangeReceived ev) =>
    some ({ p with workers := p.workers.set index .rangeCounting }, [.submitted ev accepted])
  | _ => none

/-- `Shutdown`. -/
def shutdown (p : Pool Ev) (index : Nat) : Option (Pool Ev × List (Obs Ev)) :=
  match p.shutdowns[index]? with
  | some .cas =>
    if p.isShuttingDown then
      some ({ p with shutdowns := p.shutdowns.set index (.returned false) }, [])
    else
      some ({ p with isShuttingDown := true, shutdowns := p.shutdowns.set index .closing }, [])
  | some .closing =>
    some ({ p with closed := true, shutdowns := p.shutdowns.set index .cancelling }, [.closed])
  | some .cancelling =>
    some ({ p with ctxDone := true, shutdowns := p.shutdowns.set index .waiting }, [])
  | some .waiting =>
    if p.workers.all WorkerPc.isDone then
      some ({ p with shutdowns := p.shutdowns.set index (.returned true) }, [])
    else none
  | _ => none

/-- One atomic step. -/
def step (p : Pool Ev) : Act Ev → Option (Pool Ev × List (Obs Ev))
  | .call events => some ({ p with callers := p.callers ++ [⟨events, .check, 0, 0⟩] }, [])
  | .callShutdown => some ({ p with shutdowns := p.shutdowns ++ [.cas] }, [])
  | .caller index waiter => p.enqueue index waiter
  | .select index chosen => p.select index chosen
  | .worker index => p.advance index
  | .submit index accepted => p.submit index accepted
  | .shutdown index => p.shutdown index

/-! ### What one step can do -/

/-- Everything a step of a caller of `Enqueue` can do. -/
inductive Enqueue (p : Pool Ev) (index : Nat) : Pool Ev → List (Obs Ev) → Prop where
  /-- The flag is set. -/
  | shut {caller : Caller Ev} {ev : Ev} {rest : List Ev} (running : p.callers[index]? = some caller)
      (current : caller.rest = ev :: rest) (here : caller.pc = .check)
      (flag : p.isShuttingDown = true) :
      Enqueue p index { p with callers := p.callers.set index caller.lost }
        [.enqueued ev (some .poolShut)]
  /-- The flag is not set. -/
  | load {caller : Caller Ev} {ev : Ev} {rest : List Ev}
      (running : p.callers[index]? = some caller) (current : caller.rest = ev :: rest)
      (here : caller.pc = .check) (flag : p.isShuttingDown = false) :
      Enqueue p index { p with callers := p.callers.set index { caller with pc := .send } } []
  /-- The channel is closed. -/
  | panic {caller : Caller Ev} {ev : Ev} {rest : List Ev}
      (running : p.callers[index]? = some caller) (current : caller.rest = ev :: rest)
      (here : caller.pc = .send) (closed : p.closed = true) :
      Enqueue p index { p with callers := p.callers.set index { caller with pc := .panicked } }
        [.panicked ev]
  /-- A waiting worker takes the event. -/
  | meet {caller : Caller Ev} {ev : Ev} {rest : List Ev} {worker : Nat}
      (running : p.callers[index]? = some caller) (current : caller.rest = ev :: rest)
      (here : caller.pc = .send) (opened : p.closed = false)
      (waiting : p.workers[worker]? = some .parked) :
      Enqueue p index { p with workers := p.workers.set worker (.received ev),
                               callers := p.callers.set index { caller with pc := .sent } }
        [.sent ev, .received worker ev]
  /-- The event is queued. -/
  | queue {caller : Caller Ev} {ev : Ev} {rest : List Ev} {taskCh : Channel Ev}
      (running : p.callers[index]? = some caller) (current : caller.rest = ev :: rest)
      (here : caller.pc = .send) (opened : p.closed = false)
      (busy : ∀ worker ∈ p.workers, worker ≠ .parked) (room : p.taskCh.HasRoom)
      (sent : taskCh.queue = p.taskCh.queue ++ [ev])
      (same : taskCh.capacity = p.taskCh.capacity) :
      Enqueue p index { p with taskCh, callers := p.callers.set index { caller with pc := .sent } }
        [.sent ev]
  /-- The channel is full. -/
  | refuse {caller : Caller Ev} {ev : Ev} {rest : List Ev}
      (running : p.callers[index]? = some caller) (current : caller.rest = ev :: rest)
      (here : caller.pc = .send) (opened : p.closed = false)
      (busy : ∀ worker ∈ p.workers, worker ≠ .parked) (full : ¬ p.taskCh.HasRoom) :
      Enqueue p index { p with callers := p.callers.set index { caller with pc := .refused } } []
  /-- `Enqueue` returns nil. -/
  | accept {caller : Caller Ev} {ev : Ev} {rest : List Ev}
      (running : p.callers[index]? = some caller) (current : caller.rest = ev :: rest)
      (here : caller.pc = .sent) :
      Enqueue p index { p with accepted := p.accepted + 1,
                               callers := p.callers.set index caller.kept }
        [.enqueued ev none]
  /-- `Enqueue` returns `ErrQueueFull`. -/
  | drop {caller : Caller Ev} {ev : Ev} {rest : List Ev}
      (running : p.callers[index]? = some caller) (current : caller.rest = ev :: rest)
      (here : caller.pc = .refused) :
      Enqueue p index { p with dropped := p.dropped + 1,
                               callers := p.callers.set index caller.lost }
        [.enqueued ev (some .queueFull)]

/-- `enqueue` does nothing else. -/
theorem enqueue_cases {p after : Pool Ev} {index : Nat} {waiter : Option Nat}
    {out : List (Obs Ev)} (enqueued : p.enqueue index waiter = some (after, out)) :
    Enqueue p index after out := by
  unfold enqueue at enqueued
  split at enqueued
  · contradiction
  rename_i caller running
  split at enqueued
  · contradiction
  rename_i ev rest current
  split at enqueued
  · rename_i here
    split at enqueued
    · rename_i flag
      obtain ⟨rfl, rfl⟩ := enqueued
      exact .shut running current here flag
    · rename_i flag
      obtain ⟨rfl, rfl⟩ := enqueued
      exact .load running current here (by simpa using flag)
  · rename_i here
    unfold send at enqueued
    split at enqueued
    · split at enqueued
      · contradiction
      · rename_i opened
        split at enqueued
        · rename_i waiting
          obtain ⟨rfl, rfl⟩ := enqueued
          exact .meet running current here (by simpa using opened) waiting
        · contradiction
    · split at enqueued
      · rename_i closed
        obtain ⟨rfl, rfl⟩ := enqueued
        exact .panic running current here closed
      · rename_i opened
        split at enqueued
        · contradiction
        · rename_i waiting
          have busy : ∀ worker ∈ p.workers, worker ≠ .parked := by
            rintro worker member rfl
            exact waiting (List.any_eq_true.mpr ⟨_, member, rfl⟩)
          split at enqueued
          · rename_i taskCh queued
            obtain ⟨rfl, rfl⟩ := enqueued
            obtain ⟨room, sent, same⟩ := Channel.trySend_some queued
            exact .queue running current here (by simpa using opened) busy room sent same
          · rename_i full
            obtain ⟨rfl, rfl⟩ := enqueued
            exact .refuse running current here (by simpa using opened) busy
              (Channel.trySend_none.mp full)
  · rename_i here
    obtain ⟨rfl, rfl⟩ := enqueued
    exact .accept running current here
  · rename_i here
    obtain ⟨rfl, rfl⟩ := enqueued
    exact .drop running current here
  · contradiction

/-- Everything a step of a worker can do, other than a `Submit`. -/
inductive Work (p : Pool Ev) (index : Nat) : Pool Ev → List (Obs Ev) → Prop where
  /-- It sees the cancelled context and goes on to drain. -/
  | cancelled {pc : WorkerPc Ev} (running : p.workers[index]? = some pc)
      (here : pc = .select ∨ pc = .parked) (cancelled : p.ctxDone = true) :
      Work p index { p with workers := p.workers.set index .ranging } []
  /-- It receives the oldest queued event. -/
  | receive {ev : Ev} {taskCh : Channel Ev} (running : p.workers[index]? = some .select)
      (front : p.taskCh.queue = ev :: taskCh.queue)
      (same : taskCh.capacity = p.taskCh.capacity) :
      Work p index { p with taskCh, workers := p.workers.set index (.received ev) }
        [.received index ev]
  /-- It receives the oldest queued event while it drains. -/
  | drain {ev : Ev} {taskCh : Channel Ev} (running : p.workers[index]? = some .ranging)
      (front : p.taskCh.queue = ev :: taskCh.queue)
      (same : taskCh.capacity = p.taskCh.capacity) :
      Work p index { p with taskCh, workers := p.workers.set index (.rangeReceived ev) }
        [.received index ev]
  /-- It finds the channel closed and empty. -/
  | finish {pc : WorkerPc Ev} (running : p.workers[index]? = some pc)
      (here : pc = .select ∨ pc = .ranging) (closed : p.closed = true)
      (empty : p.taskCh.queue = []) :
      Work p index { p with workers := p.workers.set index .done } []
  /-- It is woken by the close. -/
  | woken (running : p.workers[index]? = some .parked) (closed : p.closed = true) :
      Work p index { p with workers := p.workers.set index .done } []
  /-- It blocks, since no case is ready. -/
  | block (running : p.workers[index]? = some .select) (opened : p.closed = false)
      (empty : p.taskCh.queue = []) :
      Work p index { p with workers := p.workers.set index .parked } []
  /-- It counts an event that was forwarded. -/
  | count (running : p.workers[index]? = some (.counting true)) :
      Work p index { p with processed := p.processed + 1,
                            workers := p.workers.set index .select } []
  /-- It counts an event that the batch processor refused. -/
  | lose (running : p.workers[index]? = some (.counting false)) :
      Work p index { p with dropped := p.dropped + 1,
                            workers := p.workers.set index .select } []
  /-- It counts an event that it drained. -/
  | countDrained (running : p.workers[index]? = some .rangeCounting) :
      Work p index { p with processed := p.processed + 1,
                            workers := p.workers.set index .ranging } []

/-- Everything a `Submit` can do. -/
inductive Submit (p : Pool Ev) (index : Nat) (accepted : Bool) :
    Pool Ev → List (Obs Ev) → Prop where
  /-- It returns. -/
  | returns {ev : Ev} (running : p.workers[index]? = some (.received ev)) :
      Submit p index accepted { p with workers := p.workers.set index (.counting accepted) }
        [.submitted ev accepted]
  /-- It returns to a worker that drains. -/
  | returnsDrained {ev : Ev} (running : p.workers[index]? = some (.rangeReceived ev)) :
      Submit p index accepted { p with workers := p.workers.set index .rangeCounting }
        [.submitted ev accepted]

/-- `select` does nothing else. -/
theorem select_cases {p after : Pool Ev} {index : Nat} {chosen : SelectCase}
    {out : List (Obs Ev)} (selected : p.select index chosen = some (after, out)) :
    Work p index after out := by
  unfold select at selected
  split at selected
  · rename_i running
    simp only [Option.ite_none_right_eq_some, Option.some.injEq, Prod.mk.injEq] at selected
    obtain ⟨cancelled, rfl, rfl⟩ := selected
    exact .cancelled running (.inl rfl) cancelled
  · rename_i running
    split at selected
    · rename_i ev taskCh received
      obtain ⟨rfl, rfl⟩ := selected
      have taken := Channel.tryReceive_some received
      exact .receive running taken.1 taken.2
    · rename_i empty
      simp only [Option.ite_none_right_eq_some, Option.some.injEq, Prod.mk.injEq] at selected
      obtain ⟨closed, rfl, rfl⟩ := selected
      exact .finish running (.inl rfl) closed (Channel.tryReceive_none.mp empty)
  · rename_i running
    simp only [Option.ite_none_right_eq_some, Option.some.injEq, Prod.mk.injEq] at selected
    obtain ⟨⟨_, opened, empty⟩, rfl, rfl⟩ := selected
    exact .block running opened empty
  · rename_i running
    simp only [Option.ite_none_right_eq_some, Option.some.injEq, Prod.mk.injEq] at selected
    obtain ⟨closed, rfl, rfl⟩ := selected
    exact .woken running closed
  · rename_i running
    simp only [Option.ite_none_right_eq_some, Option.some.injEq, Prod.mk.injEq] at selected
    obtain ⟨⟨cancelled, _⟩, rfl, rfl⟩ := selected
    exact .cancelled running (.inr rfl) cancelled
  · contradiction

/-- `advance` does nothing else. -/
theorem advance_cases {p after : Pool Ev} {index : Nat} {out : List (Obs Ev)}
    (advanced : p.advance index = some (after, out)) : Work p index after out := by
  unfold advance at advanced
  split at advanced
  · rename_i running
    obtain ⟨rfl, rfl⟩ := advanced
    exact .count running
  · rename_i running
    obtain ⟨rfl, rfl⟩ := advanced
    exact .lose running
  · rename_i running
    split at advanced
    · rename_i ev taskCh received
      obtain ⟨rfl, rfl⟩ := advanced
      have taken := Channel.tryReceive_some received
      exact .drain running taken.1 taken.2
    · rename_i empty
      simp only [Option.ite_none_right_eq_some, Option.some.injEq, Prod.mk.injEq] at advanced
      obtain ⟨closed, rfl, rfl⟩ := advanced
      exact .finish running (.inr rfl) closed (Channel.tryReceive_none.mp empty)
  · rename_i running
    obtain ⟨rfl, rfl⟩ := advanced
    exact .countDrained running
  · contradiction

/-- `submit` does nothing else. -/
theorem submit_cases {p after : Pool Ev} {index : Nat} {accepted : Bool} {out : List (Obs Ev)}
    (submitted : p.submit index accepted = some (after, out)) :
    Submit p index accepted after out := by
  unfold submit at submitted
  split at submitted
  · rename_i running
    obtain ⟨rfl, rfl⟩ := submitted
    exact .returns running
  · rename_i running
    obtain ⟨rfl, rfl⟩ := submitted
    exact .returnsDrained running
  · contradiction

/-- Everything a step of a caller of `Shutdown` can do. -/
inductive Shutdown (p : Pool Ev) (index : Nat) : Pool Ev → List (Obs Ev) → Prop where
  /-- Another call has swapped before it. -/
  | lose (running : p.shutdowns[index]? = some .cas) (flag : p.isShuttingDown = true) :
      Shutdown p index { p with shutdowns := p.shutdowns.set index (.returned false) } []
  /-- Its swap succeeds. -/
  | win (running : p.shutdowns[index]? = some .cas) (flag : p.isShuttingDown = false) :
      Shutdown p index { p with isShuttingDown := true,
                                shutdowns := p.shutdowns.set index .closing } []
  /-- It closes the channel. -/
  | close (running : p.shutdowns[index]? = some .closing) :
      Shutdown p index { p with closed := true,
                                shutdowns := p.shutdowns.set index .cancelling } [.closed]
  /-- It cancels the context. -/
  | cancel (running : p.shutdowns[index]? = some .cancelling) :
      Shutdown p index { p with ctxDone := true,
                                shutdowns := p.shutdowns.set index .waiting } []
  /-- Every worker has returned. -/
  | finish (running : p.shutdowns[index]? = some .waiting)
      (finished : ∀ worker ∈ p.workers, worker = .done) :
      Shutdown p index { p with shutdowns := p.shutdowns.set index (.returned true) } []

/-- `shutdown` does nothing else. -/
theorem shutdown_cases {p after : Pool Ev} {index : Nat} {out : List (Obs Ev)}
    (shut : p.shutdown index = some (after, out)) : Shutdown p index after out := by
  unfold shutdown at shut
  split at shut
  · rename_i running
    split at shut
    · rename_i flag
      obtain ⟨rfl, rfl⟩ := shut
      exact .lose running flag
    · rename_i flag
      obtain ⟨rfl, rfl⟩ := shut
      exact .win running (by simpa using flag)
  · rename_i running
    obtain ⟨rfl, rfl⟩ := shut
    exact .close running
  · rename_i running
    obtain ⟨rfl, rfl⟩ := shut
    exact .cancel running
  · rename_i running
    simp only [Option.ite_none_right_eq_some, Option.some.injEq, Prod.mk.injEq] at shut
    obtain ⟨finished, rfl, rfl⟩ := shut
    refine .finish running fun worker member => ?_
    have stopped := List.all_eq_true.mp finished worker member
    cases worker with
    | done => rfl
    | _ => simp [WorkerPc.isDone] at stopped
  · contradiction

/-- Everything one step can do. -/
inductive Step (p : Pool Ev) : Act Ev → Pool Ev → List (Obs Ev) → Prop where
  /-- A new caller. -/
  | call (events : List Ev) :
      Step p (.call events) { p with callers := p.callers ++ [⟨events, .check, 0, 0⟩] } []
  /-- A new caller of `Shutdown`. -/
  | callShutdown : Step p .callShutdown { p with shutdowns := p.shutdowns ++ [.cas] } []
  /-- A step of a caller. -/
  | caller {index : Nat} {waiter : Option Nat} {after : Pool Ev} {out : List (Obs Ev)}
      (moved : Enqueue p index after out) : Step p (.caller index waiter) after out
  /-- A worker at its `select`. -/
  | select {index : Nat} {chosen : SelectCase} {after : Pool Ev} {out : List (Obs Ev)}
      (moved : Work p index after out) : Step p (.select index chosen) after out
  /-- A worker elsewhere. -/
  | worker {index : Nat} {after : Pool Ev} {out : List (Obs Ev)}
      (moved : Work p index after out) : Step p (.worker index) after out
  /-- A `Submit`. -/
  | submit {index : Nat} {accepted : Bool} {after : Pool Ev} {out : List (Obs Ev)}
      (moved : Submit p index accepted after out) : Step p (.submit index accepted) after out
  /-- A step of a caller of `Shutdown`. -/
  | shutdown {index : Nat} {after : Pool Ev} {out : List (Obs Ev)}
      (moved : Shutdown p index after out) : Step p (.shutdown index) after out

/-- `step` does nothing else. -/
theorem step_cases {p after : Pool Ev} {action : Act Ev} {out : List (Obs Ev)}
    (stepped : p.step action = some (after, out)) : Step p action after out := by
  cases action with
  | call events =>
    obtain ⟨rfl, rfl⟩ := stepped
    exact .call events
  | callShutdown =>
    obtain ⟨rfl, rfl⟩ := stepped
    exact .callShutdown
  | caller index waiter => exact .caller (enqueue_cases stepped)
  | select index chosen => exact .select (select_cases stepped)
  | worker index => exact .worker (advance_cases stepped)
  | submit index accepted => exact .submit (submit_cases stepped)
  | shutdown index => exact .shutdown (shutdown_cases stepped)

end Pool

/-- The pool as a system. -/
def system (Ev : Type) : System (Pool Ev) (Act Ev) (Obs Ev) := ⟨Pool.step⟩

end IngestionEngine.Worker
