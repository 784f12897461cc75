import IngestionEngine.Systems.Run
import IngestionEngine.Systems.Channel

/-!
# The batch processor

`batch.Processor` as a system of atomic steps. The batch goroutine is a program counter
with its local variables; it runs `run`, `doFlush` and `drainAndFlush`. Every other step
belongs to some other goroutine: a `Submit`, a `Metrics` call inside its critical section,
`Stop`'s cancel, the ticker, and `FlushBatch`, which returns when the storage decides.
`sync.Mutex` records who holds it, so a goroutine that locks twice waits for itself.

Nothing in the repository closes `inCh`, so the branch of `run` for a closed channel is
left out. That branch calls `flushCurrent`, which no file declares, so at this commit the package
compiles only without it. `lastFlushTime` is written and never read; its critical section stays.

The additions to `totalFlushed` and `totalBatches` after a write are one step here. Each is atomic
and nothing but a `Metrics` call reads the counters, one load for each, so the only thing left out
is that such a call pairs the new `totalFlushed` with the old `totalBatches`; no result here is
about the two counters together.
-/

namespace IngestionEngine.Batch

open Systems

/-- The `reason` argument of `doFlush`. -/
inductive Reason where
  /-- The buffer reached the threshold. -/
  | countThreshold
  /-- The ticker found a buffer that is not empty. -/
  | windowTimeout
  /-- The context was cancelled. -/
  | gracefulShutdown
  deriving DecidableEq, Repr

/-- The text of a reason, as it is logged. -/
def Reason.text : Reason → String
  | .countThreshold => "count_threshold"
  | .windowTimeout => "window_timeout"
  | .gracefulShutdown => "graceful_shutdown"

/-- Who holds `p.mu`. -/
inductive Holder where
  /-- The batch goroutine. -/
  | loop
  /-- A `Metrics` call. -/
  | metrics
  deriving DecidableEq, Repr

/-- Where the batch goroutine stands, with its local variables. -/
inductive LoopPc (Ev : Type) where
  /-- At the `select` of `run`. -/
  | select
  /-- Blocked in that `select`, waiting on all three channels. -/
  | parked
  /-- Received `ev`, before `p.mu.Lock()`. -/
  | received (ev : Ev)
  /-- Holds the mutex, about to append `ev`. -/
  | appending (ev : Ev)
  /-- Received a tick, before `p.mu.Lock()`. -/
  | ticked
  /-- Holds the mutex, about to look at the buffer. -/
  | checking
  /-- Entered `drainAndFlush`, before `p.mu.Lock()`. -/
  | cancelled
  /-- Holds the mutex, in the receive loop of `drainAndFlush`. -/
  | draining
  /-- Holds the mutex, at the label `DRAINED`. -/
  | drained
  /-- Entered `doFlush`. -/
  | doFlush (reason : Reason) (events : List Ev)
  /-- Inside `FlushBatch`. -/
  | flushing (reason : Reason) (events : List Ev)
  /-- `FlushBatch` returned nil; the counters are not yet updated. -/
  | committed (reason : Reason) (events : List Ev)
  /-- In `doFlush`, before the `p.mu.Lock()` around `lastFlushTime`. -/
  | stamping (reason : Reason)
  /-- In `doFlush`, before the matching `p.mu.Unlock()`. -/
  | stamped (reason : Reason)
  /-- At the deferred `p.mu.Unlock()` of `drainAndFlush`. -/
  | unlocking
  /-- `run` has returned. -/
  | returned
  deriving DecidableEq, Repr

/-- Where `doFlush` returns to. -/
def Reason.resume {Ev : Type} : Reason → LoopPc Ev
  | .countThreshold | .windowTimeout => .select
  | .gracefulShutdown => .unlocking

/-- Where a `p.mu.Lock()` of the batch goroutine leads, if it stands before one. -/
def LoopPc.afterLock {Ev : Type} : LoopPc Ev → Option (LoopPc Ev)
  | .received ev => some (.appending ev)
  | .ticked => some .checking
  | .cancelled => some .draining
  | .stamping reason => some (.stamped reason)
  | _ => none

/-- The fields of `batch.Processor` that some step reads, and its goroutine. -/
structure Processor (Ev : Type) where
  /-- Events that trigger an immediate flush. -/
  threshold : Nat
  /-- Events accumulated for the next batch. -/
  buffer : List Ev
  /-- The holder of the mutex. -/
  mu : Option Holder
  /-- The inbound channel. -/
  inCh : Channel Ev
  /-- The context has been cancelled. -/
  ctxDone : Bool
  /-- A tick waits in `ticker.C`. -/
  tickerC : Bool
  /-- Events in batches that were written. -/
  totalFlushed : Nat
  /-- Batches that were written. -/
  totalBatches : Nat
  /-- Batches whose write failed. -/
  flushErrors : Nat
  /-- The batch goroutine. -/
  pc : LoopPc Ev

/-- What an observer of the processor sees. -/
inductive Obs (Ev : Type) where
  /-- A `Submit` of `ev` returned. -/
  | submitted (ev : Ev) (accepted : Bool)
  /-- `Stop` cancelled the context. -/
  | stopped
  /-- A `Metrics` call read the length of the buffer. -/
  | pending (count : Nat)
  /-- `FlushBatch` was called. -/
  | flushCalled (reason : Reason) (events : List Ev)
  /-- `FlushBatch` returned nil, or an error. -/
  | flushReturned (reason : Reason) (events : List Ev) (stored : Bool)
  deriving DecidableEq, Repr

/-- The case a `select` of `run` takes. -/
inductive SelectCase where
  /-- `<-p.ctx.Done()` -/
  | done
  /-- `ev, ok := <-p.inCh` -/
  | inCh
  /-- `<-ticker.C` -/
  | ticker
  /-- No case is ready. -/
  | block
  deriving DecidableEq, Repr

/-- The steps of the processor and of those around it. -/
inductive Act (Ev : Type) where
  /-- Some goroutine calls `Submit`. -/
  | submit (ev : Ev)
  /-- The ticker fires. -/
  | tick
  /-- `Stop` cancels the context. -/
  | cancel
  /-- A `Metrics` call enters its critical section. -/
  | metricsLock
  /-- It leaves its critical section. -/
  | metricsUnlock
  /-- The batch goroutine chooses a case of its `select`. -/
  | select (chosen : SelectCase)
  /-- The batch goroutine takes its next statement. -/
  | advance
  /-- `FlushBatch` returns nil, or an error. -/
  | flushReturns (stored : Bool)
  deriving DecidableEq, Repr

namespace Processor

variable {Ev : Type}

/-- `NewProcessor` and `Start`. -/
def start (threshold bufferSize : Nat) : Processor Ev where
  threshold := threshold
  buffer := []
  mu := none
  inCh := Channel.make bufferSize
  ctxDone := false
  tickerC := false
  totalFlushed := 0
  totalBatches := 0
  flushErrors := 0
  pc := .select

/-- `Submit`: a goroutine blocked in `run`'s `select` takes the event itself; otherwise the
event is queued when it fits and refused when it does not. -/
def submit (p : Processor Ev) (ev : Ev) : Processor Ev × Bool :=
  match p.pc with
  | .parked => ({ p with pc := .received ev }, true)
  | _ =>
    match p.inCh.trySend ev with
    | some inCh => ({ p with inCh }, true)
    | none => (p, false)

/-- The ticker fires: it wakes a blocked `select`, or leaves one tick waiting. -/
def tick (p : Processor Ev) : Processor Ev :=
  match p.pc with
  | .parked => { p with pc := .ticked }
  | _ => { p with tickerC := true }

/-- `p.cancel()`: it wakes a blocked `select`. -/
def cancel (p : Processor Ev) : Processor Ev :=
  match p.pc with
  | .parked => { p with ctxDone := true, pc := .cancelled }
  | _ => { p with ctxDone := true }

/-- `p.mu.Lock()` by `holder`; it waits while anyone holds the mutex. -/
def lock (p : Processor Ev) (holder : Holder) (pc : LoopPc Ev) : Option (Processor Ev) :=
  if p.mu = none then some { p with mu := some holder, pc } else none

/-- The `select` of `run`: a ready case, or none of them. -/
def select (p : Processor Ev) : SelectCase → Option (Processor Ev)
  | .done => if p.ctxDone then some { p with pc := .cancelled } else none
  | .inCh =>
    -- `ok` is true: without the branch for a closed channel the package compiles
    match p.inCh.tryReceive with
    | some (ev, inCh) => some { p with inCh, pc := .received ev }
    | none => none
  | .ticker => if p.tickerC then some { p with tickerC := false, pc := .ticked } else none
  | .block =>
    if p.ctxDone = false ∧ p.tickerC = false ∧ p.inCh.queue = [] then
      some { p with pc := .parked }
    else none

/-- The next statement of the batch goroutine, where it has no choice. -/
def advance (p : Processor Ev) : Option (Processor Ev × List (Obs Ev)) :=
  match p.pc with
  | .received ev => (p.lock .loop (.appending ev)).map (·, [])
  | .appending ev =>
    let buffer := p.buffer ++ [ev]
    if p.threshold ≤ buffer.length then
      some ({ p with buffer := [], mu := none, pc := .doFlush .countThreshold buffer }, [])
    else some ({ p with buffer, mu := none, pc := .select }, [])
  | .ticked => (p.lock .loop .checking).map (·, [])
  | .checking =>
    if 0 < p.buffer.length then
      some ({ p with buffer := [], mu := none, pc := .doFlush .windowTimeout p.buffer }, [])
    else some ({ p with mu := none, pc := .select }, [])
  | .cancelled => (p.lock .loop .draining).map (·, [])
  | .draining =>
    match p.inCh.tryReceive with
    | some (ev, inCh) => some ({ p with inCh, buffer := p.buffer ++ [ev] }, [])
    | none => some ({ p with pc := .drained }, [])
  | .drained =>
    -- the mutex stays held across this `doFlush`
    if 0 < p.buffer.length then
      some ({ p with buffer := [], pc := .doFlush .gracefulShutdown p.buffer }, [])
    else some ({ p with pc := .unlocking }, [])
  | .doFlush reason events =>
    if events.length = 0 then some ({ p with pc := reason.resume }, [])
    else some ({ p with pc := .flushing reason events }, [.flushCalled reason events])
  | .committed reason events =>
    -- two atomic additions in the source
    some ({ p with totalFlushed := p.totalFlushed + events.length,
                   totalBatches := p.totalBatches + 1, pc := .stamping reason }, [])
  | .stamping reason => (p.lock .loop (.stamped reason)).map (·, [])
  | .stamped reason => some ({ p with mu := none, pc := reason.resume }, [])
  | .unlocking => some ({ p with mu := none, pc := .returned }, [])
  | .select | .parked | .flushing _ _ | .returned => none

/-- `FlushBatch` returns to `doFlush`, which leaves at once on an error. -/
def flushReturns (p : Processor Ev) (stored : Bool) : Option (Processor Ev × List (Obs Ev)) :=
  match p.pc with
  | .flushing reason events =>
    let after :=
      if stored then { p with pc := .committed reason events }
      else { p with flushErrors := p.flushErrors + 1, pc := reason.resume }
    some (after, [.flushReturned reason events stored])
  | _ => none

/-- One atomic step. -/
def step (p : Processor Ev) : Act Ev → Option (Processor Ev × List (Obs Ev))
  | .submit ev => some ((p.submit ev).1, [.submitted ev (p.submit ev).2])
  | .tick => some (p.tick, [])
  | .cancel => some (p.cancel, [.stopped])
  | .metricsLock => (p.lock .metrics p.pc).map (·, [])
  | .metricsUnlock =>
    if p.mu = some .metrics then some ({ p with mu := none }, [.pending p.buffer.length])
    else none
  | .select chosen =>
    match p.pc with
    | .select => (p.select chosen).map (·, [])
    | _ => none
  | .advance => p.advance
  | .flushReturns stored => p.flushReturns stored

/-- Locking waits for a free mutex and takes it. -/
theorem lock_eq {p after : Processor Ev} {holder : Holder} {pc : LoopPc Ev}
    (locked : p.lock holder pc = some after) :
    p.mu = none ∧ after = { p with mu := some holder, pc } := by
  unfold lock at locked
  split at locked
  · rename_i free
    exact ⟨free, (Option.some.inj locked).symm⟩
  · contradiction

/-- A free mutex is taken. -/
theorem lock_free {p : Processor Ev} (free : p.mu = none) (holder : Holder) (pc : LoopPc Ev) :
    p.lock holder pc = some { p with mu := some holder, pc } := by
  simp [lock, free]

/-- Everything one statement of the batch goroutine can do: which statement it was, what
was true when it ran, and what it left. -/
inductive Advance (p : Processor Ev) : Processor Ev → List (Obs Ev) → Prop where
  /-- One of the four `p.mu.Lock()` of the goroutine. -/
  | lock {pc : LoopPc Ev} (free : p.mu = none) (entered : p.pc.afterLock = some pc) :
      Advance p { p with mu := some .loop, pc } []
  /-- The event completes a batch. -/
  | fill {ev : Ev} (here : p.pc = .appending ev) (full : p.threshold ≤ p.buffer.length + 1) :
      Advance p { p with buffer := [], mu := none,
                         pc := .doFlush .countThreshold (p.buffer ++ [ev]) } []
  /-- The event waits in the buffer. -/
  | append {ev : Ev} (here : p.pc = .appending ev) (below : p.buffer.length + 1 < p.threshold) :
      Advance p { p with buffer := p.buffer ++ [ev], mu := none, pc := .select } []
  /-- The tick takes the buffer. -/
  | expire (here : p.pc = .checking) (filled : p.buffer ≠ []) :
      Advance p { p with buffer := [], mu := none, pc := .doFlush .windowTimeout p.buffer } []
  /-- The tick finds nothing to take. -/
  | expireIdle (here : p.pc = .checking) (empty : p.buffer = []) :
      Advance p { p with mu := none, pc := .select } []
  /-- The drain moves one event into the buffer. -/
  | drain {ev : Ev} {inCh : Channel Ev} (here : p.pc = .draining)
      (received : p.inCh.queue = ev :: inCh.queue) :
      Advance p { p with inCh, buffer := p.buffer ++ [ev] } []
  /-- The drain finds the channel empty. -/
  | drainStop (here : p.pc = .draining) (empty : p.inCh.queue = []) :
      Advance p { p with pc := .drained } []
  /-- The drain takes the buffer, and keeps the mutex. -/
  | last (here : p.pc = .drained) (filled : p.buffer ≠ []) :
      Advance p { p with buffer := [], pc := .doFlush .gracefulShutdown p.buffer } []
  /-- The drain found nothing to take. -/
  | lastIdle (here : p.pc = .drained) (empty : p.buffer = []) :
      Advance p { p with pc := .unlocking } []
  /-- `doFlush` was given nothing. -/
  | skip {reason : Reason} (here : p.pc = .doFlush reason []) :
      Advance p { p with pc := reason.resume } []
  /-- `doFlush` calls `FlushBatch`. -/
  | call {reason : Reason} {events : List Ev} (here : p.pc = .doFlush reason events)
      (filled : events ≠ []) :
      Advance p { p with pc := .flushing reason events } [.flushCalled reason events]
  /-- A written batch is counted. -/
  | count {reason : Reason} {events : List Ev} (here : p.pc = .committed reason events) :
      Advance p { p with totalFlushed := p.totalFlushed + events.length,
                         totalBatches := p.totalBatches + 1, pc := .stamping reason } []
  /-- `doFlush` releases the mutex and returns. -/
  | stamp {reason : Reason} (here : p.pc = .stamped reason) :
      Advance p { p with mu := none, pc := reason.resume } []
  /-- `drainAndFlush` and `run` return. -/
  | finish (here : p.pc = .unlocking) : Advance p { p with mu := none, pc := .returned } []

/-- `advance` does nothing else. -/
theorem advance_cases {p after : Processor Ev} {out : List (Obs Ev)}
    (advanced : p.advance = some (after, out)) : Advance p after out := by
  have locking {pc : LoopPc Ev} (entered : p.pc.afterLock = some pc)
      (locked : (p.lock .loop pc).map (·, ([] : List (Obs Ev))) = some (after, out)) :
      Advance p after out := by
    simp only [Option.map_eq_some_iff, Prod.mk.injEq] at locked
    obtain ⟨next, taken, rfl, rfl⟩ := locked
    obtain ⟨free, rfl⟩ := lock_eq taken
    exact .lock free entered
  cases here : p.pc with
  | select | parked | flushing | returned => simp [advance, here] at advanced
  | received ev => exact locking (by rw [here]; rfl) (by simpa only [advance, here] using advanced)
  | ticked => exact locking (by rw [here]; rfl) (by simpa only [advance, here] using advanced)
  | cancelled => exact locking (by rw [here]; rfl) (by simpa only [advance, here] using advanced)
  | stamping reason =>
    exact locking (by rw [here]; rfl) (by simpa only [advance, here] using advanced)
  | appending ev =>
    simp only [advance, here, List.length_append, List.length_singleton] at advanced
    split at advanced
    · rename_i full
      obtain ⟨rfl, rfl⟩ := advanced
      exact .fill here full
    · rename_i below
      obtain ⟨rfl, rfl⟩ := advanced
      exact .append here (Nat.lt_of_not_le below)
  | checking =>
    simp only [advance, here] at advanced
    split at advanced
    · rename_i filled
      obtain ⟨rfl, rfl⟩ := advanced
      exact .expire here (List.length_pos_iff.mp filled)
    · rename_i empty
      obtain ⟨rfl, rfl⟩ := advanced
      exact .expireIdle here (by simpa using empty)
  | draining =>
    simp only [advance, here] at advanced
    split at advanced
    · rename_i ev inCh received
      obtain ⟨rfl, rfl⟩ := advanced
      have moved := Advance.drain here (Channel.tryReceive_some received).1
      simpa only [here] using moved
    · rename_i empty
      obtain ⟨rfl, rfl⟩ := advanced
      exact .drainStop here (Channel.tryReceive_none.mp empty)
  | drained =>
    simp only [advance, here] at advanced
    split at advanced
    · rename_i filled
      obtain ⟨rfl, rfl⟩ := advanced
      exact .last here (List.length_pos_iff.mp filled)
    · rename_i empty
      obtain ⟨rfl, rfl⟩ := advanced
      exact .lastIdle here (by simpa using empty)
  | doFlush reason events =>
    simp only [advance, here] at advanced
    split at advanced
    · rename_i empty
      obtain ⟨rfl, rfl⟩ := advanced
      obtain rfl := List.length_eq_zero_iff.mp empty
      exact .skip here
    · rename_i filled
      obtain ⟨rfl, rfl⟩ := advanced
      exact .call here fun empty => filled (List.length_eq_zero_iff.mpr empty)
  | committed reason events =>
    simp only [advance, here, Option.some.injEq, Prod.mk.injEq] at advanced
    obtain ⟨rfl, rfl⟩ := advanced
    exact .count here
  | stamped reason =>
    simp only [advance, here, Option.some.injEq, Prod.mk.injEq] at advanced
    obtain ⟨rfl, rfl⟩ := advanced
    exact .stamp here
  | unlocking =>
    simp only [advance, here, Option.some.injEq, Prod.mk.injEq] at advanced
    obtain ⟨rfl, rfl⟩ := advanced
    exact .finish here

/-- Everything the `select` of `run` can do. -/
inductive Select (p : Processor Ev) : Processor Ev → Prop where
  /-- It sees the cancelled context. -/
  | done (cancelled : p.ctxDone = true) : Select p { p with pc := .cancelled }
  /-- It receives the oldest queued event. -/
  | receive {ev : Ev} {inCh : Channel Ev} (front : p.inCh.queue = ev :: inCh.queue) :
      Select p { p with inCh, pc := .received ev }
  /-- It receives a tick. -/
  | ticker (fired : p.tickerC = true) : Select p { p with tickerC := false, pc := .ticked }
  /-- It blocks, since no case is ready. -/
  | block (running : p.ctxDone = false) (quiet : p.tickerC = false)
      (empty : p.inCh.queue = []) : Select p { p with pc := .parked }

/-- `select` does nothing else. -/
theorem select_cases {p after : Processor Ev} {chosen : SelectCase}
    (selected : p.select chosen = some after) : Select p after := by
  cases chosen with
  | done =>
    simp only [select, Option.ite_none_right_eq_some, Option.some.injEq] at selected
    obtain ⟨cancelled, rfl⟩ := selected
    exact .done cancelled
  | inCh =>
    simp only [select] at selected
    split at selected
    · rename_i ev inCh received
      obtain rfl := Option.some.inj selected
      exact .receive (Channel.tryReceive_some received).1
    · contradiction
  | ticker =>
    simp only [select, Option.ite_none_right_eq_some, Option.some.injEq] at selected
    obtain ⟨fired, rfl⟩ := selected
    exact .ticker fired
  | block =>
    simp only [select, Option.ite_none_right_eq_some, Option.some.injEq] at selected
    obtain ⟨⟨running, quiet, empty⟩, rfl⟩ := selected
    exact .block running quiet empty

/-- Everything a `Submit` can do. -/
inductive Submit (p : Processor Ev) (ev : Ev) : Processor Ev → Bool → Prop where
  /-- The blocked goroutine takes the event. -/
  | meet (waiting : p.pc = .parked) : Submit p ev { p with pc := .received ev } true
  /-- The event is queued. -/
  | queue {inCh : Channel Ev} (running : p.pc ≠ .parked) (room : p.inCh.HasRoom)
      (sent : inCh.queue = p.inCh.queue ++ [ev]) (same : inCh.capacity = p.inCh.capacity) :
      Submit p ev { p with inCh } true
  /-- The channel is full. -/
  | refuse (running : p.pc ≠ .parked) (full : ¬ p.inCh.HasRoom) : Submit p ev p false

/-- `submit` does nothing else. -/
theorem submit_cases {p after : Processor Ev} {ev : Ev} {accepted : Bool}
    (submitted : p.submit ev = (after, accepted)) : Submit p ev after accepted := by
  unfold submit at submitted
  split at submitted
  · rename_i waiting
    obtain ⟨rfl, rfl⟩ := submitted
    exact .meet waiting
  · rename_i running
    cases sent : p.inCh.trySend ev with
    | none =>
      rw [sent] at submitted
      obtain ⟨rfl, rfl⟩ := submitted
      exact .refuse running (Channel.trySend_none.mp sent)
    | some inCh =>
      rw [sent] at submitted
      obtain ⟨rfl, rfl⟩ := submitted
      have queued := Channel.trySend_some sent
      exact .queue running queued.1 queued.2.1 queued.2.2

/-- Everything one step can do. -/
inductive Step (p : Processor Ev) : Act Ev → Processor Ev → List (Obs Ev) → Prop where
  /-- A `Submit`. -/
  | submit {ev : Ev} {after : Processor Ev} {accepted : Bool} (moved : Submit p ev after accepted) :
      Step p (.submit ev) after [.submitted ev accepted]
  /-- A tick wakes the goroutine. -/
  | tickWakes (waiting : p.pc = .parked) : Step p .tick { p with pc := .ticked } []
  /-- A tick waits in the channel of the ticker. -/
  | tickWaits (running : p.pc ≠ .parked) : Step p .tick { p with tickerC := true } []
  /-- The cancel wakes the goroutine. -/
  | cancelWakes (waiting : p.pc = .parked) :
      Step p .cancel { p with ctxDone := true, pc := .cancelled } [.stopped]
  /-- The cancel is seen later. -/
  | cancelWaits (running : p.pc ≠ .parked) :
      Step p .cancel { p with ctxDone := true } [.stopped]
  /-- A `Metrics` call takes the mutex. -/
  | metricsLock (free : p.mu = none) : Step p .metricsLock { p with mu := some .metrics } []
  /-- The `Metrics` call releases it. -/
  | metricsUnlock (owned : p.mu = some .metrics) :
      Step p .metricsUnlock { p with mu := none } [.pending p.buffer.length]
  /-- The `select` of `run`. -/
  | select {chosen : SelectCase} {after : Processor Ev} (here : p.pc = .select)
      (moved : Select p after) : Step p (.select chosen) after []
  /-- Another statement of the batch goroutine. -/
  | advance {after : Processor Ev} {out : List (Obs Ev)} (moved : Advance p after out) :
      Step p .advance after out
  /-- `FlushBatch` returns nil. -/
  | flushStored {reason : Reason} {events : List Ev} (here : p.pc = .flushing reason events) :
      Step p (.flushReturns true) { p with pc := .committed reason events }
        [.flushReturned reason events true]
  /-- `FlushBatch` returns an error. -/
  | flushFailed {reason : Reason} {events : List Ev} (here : p.pc = .flushing reason events) :
      Step p (.flushReturns false)
        { p with flushErrors := p.flushErrors + 1, pc := reason.resume }
        [.flushReturned reason events false]

/-- `step` does nothing else. -/
theorem step_cases {p after : Processor Ev} {action : Act Ev} {out : List (Obs Ev)}
    (stepped : p.step action = some (after, out)) : Step p action after out := by
  cases action with
  | submit ev =>
    obtain ⟨rfl, rfl⟩ := stepped
    exact .submit (submit_cases rfl)
  | tick =>
    obtain ⟨rfl, rfl⟩ := stepped
    unfold tick
    split
    · rename_i waiting
      exact .tickWakes waiting
    · rename_i running
      exact .tickWaits running
  | cancel =>
    obtain ⟨rfl, rfl⟩ := stepped
    unfold cancel
    split
    · rename_i waiting
      exact .cancelWakes waiting
    · rename_i running
      exact .cancelWaits running
  | metricsLock =>
    simp only [step, Option.map_eq_some_iff, Prod.mk.injEq] at stepped
    obtain ⟨next, locked, rfl, rfl⟩ := stepped
    obtain ⟨free, rfl⟩ := lock_eq locked
    exact .metricsLock free
  | metricsUnlock =>
    simp only [step, Option.ite_none_right_eq_some, Option.some.injEq, Prod.mk.injEq] at stepped
    obtain ⟨owned, rfl, rfl⟩ := stepped
    exact .metricsUnlock owned
  | select chosen =>
    simp only [step] at stepped
    split at stepped
    · rename_i here
      simp only [Option.map_eq_some_iff, Prod.mk.injEq] at stepped
      obtain ⟨next, selected, rfl, rfl⟩ := stepped
      exact .select here (select_cases selected)
    · contradiction
  | advance => exact .advance (advance_cases stepped)
  | flushReturns stored =>
    simp only [step, flushReturns] at stepped
    split at stepped
    · rename_i reason events here
      obtain ⟨rfl, rfl⟩ := stepped
      cases stored
      · exact .flushFailed here
      · exact .flushStored here
    · contradiction

end Processor

/-- The processor as a system. -/
def system (Ev : Type) : System (Processor Ev) (Act Ev) (Obs Ev) := ⟨Processor.step⟩

end IngestionEngine.Batch
