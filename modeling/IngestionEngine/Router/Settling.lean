import IngestionEngine.Batch.Durability
import IngestionEngine.Pipeline.Settling
import IngestionEngine.Router.Progress

/-!
# The server comes to rest

The handlers, the limiter, the pool, the batch loop and `main` have one measure of work. A server
to which no request, tick or signal comes does some of it in each step, so it stops. Where it
stops while it serves, every request has been answered, and what the answers report as accepted
was written, was in a batch whose write failed, waits in the buffer, or was refused by `Submit`.
-/

namespace IngestionEngine.Router

open Systems Event Worker RateLimit

/-- The work of a handler, with what it leaves to the pool. -/
def Handler.work (h : Handler) : Nat :=
  match h.pc with
  | .allowing _ => 14 * h.request.size + 3
  | .reading => 14 * h.request.size + 2
  | .enqueueing _ _ => 1
  | .stats reader => reader.rank + h.request.route.afterStats + 1
  | .metrics _ pc => pc.rank + if pc = .lock then 1 else 0
  | .responded _ => 0

namespace Server

/-- The work of the server. -/
def work (s : Server) : Nat :=
  s.engine.work + total (fun g : Concurrent.Goroutine => g.pc.rank) s.limiter.goroutines +
    total Handler.work s.handlers

/-- The step is none of a request that arrives, a tick, and the return of `httpServer.Shutdown`. -/
def Act.inner : Act → Bool
  | .arrive _ => false
  | .handle _ _ _ _ => true
  | .engine action => IngestionEngine.Act.inner action

/-- The server is left to itself. -/
def Inner (_ : Server) (action : Act) : Prop := action.inner = true

instance (s : Server) (action : Act) : Decidable (Inner s action) :=
  inferInstanceAs (Decidable (action.inner = true))

variable {describe : DecodeError → String} {s after : Server} {index : Nat} {h : Handler}
  {next : Move}

/-- A step of a handler does some of the work. -/
theorem moves_work (moves : Moves describe s index h next) :
    next.engine.work +
        total (fun g : Concurrent.Goroutine => g.pc.rank) next.limiter.goroutines +
        ({ h with pc := next.pc } : Handler).work <
      s.engine.work + total (fun g : Concurrent.Goroutine => g.pc.rank) s.limiter.goroutines +
        h.work := by
  cases moves with
  | @asks call clock limiter out g here calling moved =>
    obtain ⟨g', pc, found, _, _, goroutines, part⟩ := Concurrent.enter_section moved
    have lower : pc.rank < g'.pc.rank := section_rank part
    have traded := total_set (fun g : Concurrent.Goroutine => g.pc.rank) found { g' with pc }
    simp only [Handler.work, here, goroutines] at traded ⊢
    omega
  | admitted here | limited here | rejected here | answered here =>
    simp only [Handler.work, goes, answers, here]
    omega
  | @posted now events posted here decoded opened =>
    have size : events.length = h.request.size := decode_events decoded
    simp only [Engine.work, Pool.work, total_append, total_cons, total_nil, Caller.work,
      Handler.work, here, size]
    omega
  | @enqueues posted caller waiter pool out here moved =>
    have less : pool.work < s.engine.pool.work := Pool.enqueue_work (Pool.enqueue_cases moved)
    simp only [Engine.work, Handler.work, here]
    omega
  | loads here loaded | healthz here loaded =>
    have fewer := (load_cases loaded).1
    simp only [Handler.work, goes, answers, here]
    omega
  | measured here loaded route =>
    have fewer := (load_cases loaded).1
    have more : h.request.route.afterStats = 5 := by
      cases found : h.request.route with
      | healthz => exact absurd found route
      | single | batch | metrics => rfl
    simp only [Handler.work, goes, here, MetricsPc.rank, more, if_true]
    omega
  | locks here moved =>
    cases Batch.Processor.step_cases moved with
    | metricsLock free =>
      simp [Engine.work, Batch.Processor.work, Handler.work, here, free, MetricsPc.rank]
      omega
  | unlocks here moved =>
    cases Batch.Processor.step_cases moved with
    | metricsUnlock taken =>
      simp [Engine.work, Batch.Processor.work, Handler.work, here, taken, MetricsPc.rank]
  | flushed here | batches here | metrics here =>
    simp [Handler.work, goes, answers, here, MetricsPc.rank]

/-- A server that is left to itself does some of its work in each step. -/
theorem ranked : (system describe).Ranked Inner work := by
  intro s action after out inner stepped
  cases step_cases stepped with
  | post | get => contradiction
  | @handle index _ _ _ h next running moves =>
    have less := moves_work moves
    have traded := total_set Handler.work running { h with pc := next.pc }
    simp only [work, moved]
    omega
  | @engine action engine out permitted moved =>
    have less : engine.work < s.engine.work := IngestionEngine.ranked _ _ _ _ inner moved
    simp only [work]
    omega

/-! ### The callers of the pool -/

/-- A caller of the pool that is not answered for belongs to a handler. -/
def CallersInv (s : Server) : Prop :=
  ∀ (caller : Nat) (c : Caller TelemetryEvent), s.engine.pool.callers[caller]? = some c →
    c.rest = [] ∨ ∃ h ∈ s.handlers, h.caller = some caller

/-- Every step of a handler keeps to that. -/
theorem moves_callers (inv : s.CallersInv) (running : s.handlers[index]? = some h)
    (moves : Moves describe s index h next) : (s.moved index h next).CallersInv := by
  have carried (caller : Nat) (c : Caller TelemetryEvent)
      (found : s.engine.pool.callers[caller]? = some c)
      (keeps : h.caller = some caller → c.rest = [] ∨ next.pc.caller = some caller) :
      c.rest = [] ∨ ∃ other ∈ (s.moved index h next).handlers, other.caller = some caller := by
    have inside := (List.getElem?_eq_some_iff.mp running).1
    rcases inv caller c found with finished | ⟨other, member, holds⟩
    · exact .inl finished
    · obtain ⟨place, there⟩ := List.getElem?_of_mem member
      by_cases own : index = place
      · subst own
        obtain rfl : h = other := Option.some.inj (running.symm.trans there)
        rcases keeps holds with finished | stays
        · exact .inl finished
        · exact .inr ⟨{ h with pc := next.pc }, List.mem_set inside _, stays⟩
      · exact .inr ⟨other, List.mem_of_getElem? ((List.getElem?_set_ne own).trans there), holds⟩
  intro caller c found
  cases moves with
  | @posted now events posted here decoded opened =>
    have idle : h.caller = none := by rw [Handler.caller, here]; rfl
    by_cases old : caller < s.engine.pool.callers.length
    · apply carried caller c ((List.getElem?_append_left old).symm.trans found)
      intro holds
      rw [idle] at holds
      contradiction
    · have inside := (List.getElem?_eq_some_iff.mp found).1
      have last : caller = s.engine.pool.callers.length := by
        simp only [Server.moved, List.length_append, List.length_singleton] at inside
        omega
      have there := (List.getElem?_eq_some_iff.mp running).1
      exact .inr ⟨_, List.mem_set there _, congrArg some last.symm⟩
  | @enqueues posted own waiter pool out here moved =>
    have holds : h.caller = some own := by rw [Handler.caller, here]; rfl
    obtain ⟨_, new, _, callers, _, _, _⟩ := Pool.enqueue_caller (Pool.enqueue_cases moved)
    have changed : (s.engine.pool.callers.set own new)[caller]? = some c := callers ▸ found
    rcases getElem?_set_cases changed with ⟨rfl, _⟩ | ⟨_, old⟩
    · have there := (List.getElem?_eq_some_iff.mp running).1
      exact .inr ⟨_, List.mem_set there _, rfl⟩
    · apply carried caller c old
      intro mine
      exact .inr (holds.symm.trans mine)
  | @answered posted own c' here calling finished =>
    have holds : h.caller = some own := by rw [Handler.caller, here]; rfl
    apply carried caller c found
    intro mine
    obtain rfl : own = caller := Option.some.inj (holds.symm.trans mine)
    obtain rfl : c' = c := Option.some.inj (calling.symm.trans found)
    exact .inl finished
  | asks here | admitted here | limited here | rejected here | loads here | healthz here
  | measured here | locks here | unlocks here | flushed here | batches here | metrics here =>
    have idle : h.caller = none := by rw [Handler.caller, here]; rfl
    apply carried caller c found
    intro holds
    rw [idle] at holds
    contradiction

/-- Every step keeps to that. -/
theorem step_callers {action : Act} {out : List Obs} (inv : s.CallersInv)
    (stepped : s.step describe action = some (after, out)) : after.CallersInv := by
  have arrives (h : Handler) (limiter : Concurrent.State) :
      ({ s with limiter, handlers := s.handlers ++ [h] } : Server).CallersInv := by
    intro caller c found
    rcases inv caller c found with finished | ⟨other, member, holds⟩
    · exact .inl finished
    · exact .inr ⟨other, List.mem_append_left _ member, holds⟩
  cases step_cases stepped with
  | post | get => exact arrives _ _
  | handle running moves => exact moves_callers inv running moves
  | engine permitted moved =>
    intro caller c found
    have callers := engine_callers permitted moved
    exact inv caller c (callers ▸ found)

/-- In every run a caller of the pool that is not answered for belongs to a handler. -/
theorem run_callers {workerCount queueCap batchThreshold : Nat}
    {ratePerSec capacity globalRate globalCap now : ℚ} {seen : List Obs}
    (run : (system describe).AnyRun
      (.start workerCount queueCap batchThreshold ratePerSec capacity globalRate globalCap now)
      seen s) : s.CallersInv := by
  apply run.state_invariant CallersInv
  · intro caller c found
    simp [start, Engine.start, Pool.start] at found
  · intro s action after out inv _ stepped
    exact step_callers inv stepped

/-! ### Where a server comes to rest -/

/-- What the engine shows of a run. -/
def ofEngine (seen : List Obs) : List (IngestionEngine.Obs TelemetryEvent) :=
  seen.flatMap Obs.ofEngine

/-- What the batch processor shows of a run. -/
def ofProc (seen : List Obs) : List (Batch.Obs TelemetryEvent) :=
  (ofEngine seen).flatMap IngestionEngine.Obs.ofProc

/-- Nothing is on its way through the server. -/
structure AtRest (threshold : Nat) (seen : List Obs) (s : Server) : Prop where
  /-- What is reported as accepted was written, was in a batch whose write failed, is in the buffer,
  or was refused by `Submit`. -/
  accounted : s.reported.1 =
    ((ofProc seen).flatMap Batch.Obs.stored).length +
      ((ofProc seen).flatMap Batch.Obs.discarded).length + s.engine.proc.buffer.length +
      (refusedBySubmit (ofEngine seen)).length
  /-- While it serves, every request has been answered, and the engine waits for requests. -/
  serving : s.engine.main = .serving →
    s.handlers.all (·.pc.done) = true ∧ s.reported = s.answered ∧ s.engine.Waiting threshold
  /-- Otherwise the engine has been shut down. -/
  ended : s.engine.main ≠ .serving → s.engine.Ended

section Rest

variable {workerCount queueCap batchThreshold : Nat}
  {ratePerSec capacity globalRate globalCap now : ℚ} {seen : List Obs}
  (run : (system describe).AnyRun
    (.start workerCount queueCap batchThreshold ratePerSec capacity globalRate globalCap now)
    seen s)
  (settled : (system describe).Settled Inner s)

include run settled

/-- Every handler has answered, has panicked, or waits for the mutex of the processor. -/
theorem settled_handlers (member : h ∈ s.handlers) : h.pc.done = true ∨ s.Blocked h := by
  by_contra! moving
  obtain ⟨undone, free⟩ := moving
  obtain ⟨index, running⟩ := List.getElem?_of_mem member
  have calls := (run_admissions (fun _ => true) run).ledger.own
  have callers := (run_reports run).ledger.own
  obtain ⟨waiter, after, out, stepped⟩ : ∃ waiter after out, s.step describe
      (.handle index (max s.limiter.now s.startTime) newYear waiter) = some (after, out) :=
    handle_enabled running (run_running run).1 calls callers (by simpa using undone) free newYear
      (le_max_left _ _) (le_max_right _ _)
  have stays : s.step describe (.handle index (max s.limiter.now s.startTime) newYear waiter) =
      none := settled (.handle index (max s.limiter.now s.startTime) newYear waiter) rfl
  rw [stepped] at stays
  contradiction

/-- The engine stands still. -/
theorem settled_still : s.engine.Still where
  quiet := by
    intro action inner other
    have permitted : s.permits action = true := by
      unfold permits
      split <;> first | rfl | contradiction
    have stays := settled (.engine action) inner
    simpa only [system, step, permitted, if_true, Option.map_eq_none_iff] using stays
  answered := by
    intro c member
    obtain ⟨caller, found⟩ := List.getElem?_of_mem member
    rcases run_callers run caller c found with finished | ⟨h, inside, holds⟩
    · exact .inl finished
    · cases here : h.pc with
      | enqueueing posted own =>
        have same : some own = some caller := by
          rw [← holds, Handler.caller, here]
          rfl
        obtain rfl := Option.some.inj same
        rcases settled_handlers run settled inside with done | blocked
        · simp [here, HandlerPc.done] at done
        · simp only [Blocked, here] at blocked
          obtain ⟨c', calling, panicked⟩ := blocked
          obtain rfl : c' = c := Option.some.inj (calling.symm.trans found)
          exact .inr panicked
      | allowing | reading | stats | metrics | responded =>
        rw [Handler.caller, here] at holds
        contradiction
  unread := by
    intro reading
    have mutex := (run_running run).1.mutex
    have none : total (fun h : Handler => h.pc.locks) s.handlers = 0 := by
      apply total_eq_zero
      intro h member
      rcases settled_handlers run settled member with done | blocked
      · cases here : h.pc with
        | responded => rfl
        | allowing | reading | enqueueing | stats | metrics =>
          rw [here] at done
          contradiction
      · unfold Blocked at blocked
        split at blocked
        · rename_i here
          rw [here]
          rfl
        · rename_i here
          rw [here]
          rfl
        · contradiction
    rw [none, if_pos reading] at mutex
    contradiction

end Rest

/-- As many events were accepted as `Enqueue` returned nil. -/
theorem accepted_length {Ev : Type} (seen : List (Worker.Obs Ev)) :
    seen.countP Obs.isAccepted = (seen.flatMap Obs.acceptedEvents).length := by
  induction seen with
  | nil => rfl
  | cons first rest ih =>
    rw [List.countP_cons, ih, List.flatMap_cons, List.length_append, Nat.add_comm]
    congr 1
    cases first with
    | enqueued ev result => cases result <;> rfl
    | sent | received | panicked | submitted | closed => rfl

/-- The answers, with what the requests in progress have counted so far, report as accepted the
events whose `Enqueue` returned nil. -/
theorem reported_enqueued {workerCount queueCap batchThreshold : Nat}
    {ratePerSec capacity globalRate globalCap now : ℚ} {seen : List Obs}
    (run : (system describe).AnyRun
      (.start workerCount queueCap batchThreshold ratePerSec capacity globalRate globalCap now)
      seen s) : s.reported.1 = (enqueuedNil (ofEngine seen)).length := by
  rw [(run_reported run).1]
  exact accepted_length _

/-- What was passed to `FlushBatch` was written, or was in a batch whose write failed, where no
`FlushBatch` is in progress. -/
theorem handed_settled {e : Engine TelemetryEvent} {numWorkers queueSize bufferSize threshold : Nat}
    {shown : List (IngestionEngine.Obs TelemetryEvent)}
    (run : (IngestionEngine.system TelemetryEvent).AnyRun
      (.assemble numWorkers queueSize bufferSize threshold) shown e)
    (outside : e.proc.pc.inFlight = []) :
    (handedToFlush shown).length =
      ((shown.flatMap IngestionEngine.Obs.ofProc).flatMap Batch.Obs.stored).length +
        ((shown.flatMap IngestionEngine.Obs.ofProc).flatMap Batch.Obs.discarded).length := by
  have flushed := (Batch.run_inFlight (run_proc run)).1
  rw [outside, List.append_nil] at flushed
  have split := (Batch.settled_perm (shown.flatMap IngestionEngine.Obs.ofProc)).length_eq
  rw [List.length_append, ← flushed] at split
  exact split

section Account

variable {workerCount queueCap batchThreshold : Nat}
  {ratePerSec capacity globalRate globalCap now : ℚ} {seen : List Obs}

/-- No `FlushBatch` is in progress where the engine stands still. -/
theorem still_outside {e : Engine TelemetryEvent} (still : e.Still) (inv : e.proc.LockInv) :
    e.proc.pc.inFlight = [] := by
  rcases still_loop still with parked | returned | locked
  · rw [parked]
    rfl
  · rw [returned]
    rfl
  · rw [(Batch.Processor.selfLock_iff inv).mp locked]
    rfl

/-- Behind a server that has settled while it serves, every handler has answered. -/
theorem settled_answered
    (run : (system describe).AnyRun
      (.start workerCount queueCap batchThreshold ratePerSec capacity globalRate globalCap now)
      seen s)
    (settled : (system describe).Settled Inner s) (opened : s.engine.pool.closed = false)
    (free : s.engine.proc.mu = none) : s.handlers.all (·.pc.done) = true := by
  apply List.all_eq_true.mpr
  intro h member
  rcases settled_handlers run settled member with done | blocked
  · exact done
  · unfold Blocked at blocked
    split at blocked
    · obtain ⟨c, calling, panicked⟩ := blocked
      have closed : s.engine.pool.closed = true :=
        Worker.run_panicked (run_pool (run_engine run)) c (List.mem_of_getElem? calling) panicked
      rw [opened] at closed
      contradiction
    · exact absurd free blocked
    · contradiction

/-- A server that has settled is at rest. -/
theorem settled_rests (staffed : 1 ≤ workerCount) (positive : 1 ≤ batchThreshold)
    (run : (system describe).AnyRun
      (.start workerCount queueCap batchThreshold ratePerSec capacity globalRate globalCap now)
      seen s)
    (settled : (system describe).Settled Inner s) : s.AtRest batchThreshold seen := by
  have engine := run_engine run
  have assembled := engine
  rw [start_assembled] at assembled
  have still := settled_still run settled
  have rests := still_rests staffed positive engine still
  have inv := Batch.run_lock (run_proc assembled)
  constructor
  · have delivered := congrArg Multiset.card rests.delivered
    simp only [Multiset.card_add, Multiset.coe_card] at delivered
    have handed := handed_settled assembled (still_outside still inv)
    rw [reported_enqueued run]
    unfold ofProc ofEngine
    omega
  · intro serving
    have waiting := still_waiting positive assembled still serving
    have opened : s.engine.pool.closed = false :=
      serving_open (Worker.run_closing (run_pool assembled)) (run_main assembled) serving
    have free : s.engine.proc.mu = none := by
      cases held : s.engine.proc.mu with
      | none => rfl
      | some holder =>
        cases holder with
        | metrics => exact absurd held still.unread
        | loop =>
          have inside : s.engine.proc.pc.holdsMu = true := inv.owner.mp held
          rw [waiting.loop] at inside
          contradiction
    have done := settled_answered run settled opened free
    exact ⟨done, reported_done done, waiting⟩
  · intro down
    exact (still_ended assembled still down).1

end Account

end Server

/-- A server to which no request, tick or signal comes takes no more steps than its work, and can
always be led to where none is left. While it serves, every request has then been answered, and the
events that the answers report as accepted were written, were in a batch whose write failed, wait in
a buffer that is not full, or were refused by `Submit`. -/
theorem server_settles {describe : DecodeError → String}
    {workerCount queueCap batchThreshold : Nat}
    {ratePerSec capacity globalRate globalCap now : ℚ} (staffed : 1 ≤ workerCount)
    (positive : 1 ≤ batchThreshold) {seen : List Server.Obs} {s : Server}
    (run : (Server.system describe).AnyRun
      (.start workerCount queueCap batchThreshold ratePerSec capacity globalRate globalCap now)
      seen s) :
    (∀ schedule last out, (Server.system describe).exec Server.Inner s schedule = some (last, out) →
      schedule.length ≤ s.work ∧
      ((Server.system describe).Settled Server.Inner last →
        last.AtRest batchThreshold (seen ++ out))) ∧
    ∃ schedule last out, (Server.system describe).exec Server.Inner s schedule = some (last, out) ∧
      (Server.system describe).Settled Server.Inner last := by
  refine ⟨?_, Server.ranked.settles s⟩
  intro schedule last out executed
  constructor
  · have steps := Server.ranked.length executed
    omega
  · intro settled
    exact Server.settled_rests staffed positive (run.append (System.exec_run executed).any) settled

/-- A batch of one event arrives at a server that flushes two at a time. -/
theorem server_settles_one :
    ∃ seen s, (Server.system fun _ => "").AnyRun (.start 1 1 2 1 1 1 1 0) seen s ∧
      s.handlers.length = 1 ∧
      ∃ schedule last out, (Server.system fun _ => "").exec Server.Inner s schedule =
          some (last, out) ∧
        schedule.length ≤ s.work ∧ last.AtRest 2 (seen ++ out) := by
  obtain ⟨seen, s, run, passed⟩ := System.exec_witness (Server.system fun _ => "")
    System.unguarded (.start 1 1 2 1 1 1 1 0)
    [.arrive ⟨.batch, ⟨"a", ""⟩, .text 15 (some (.obj [("events", .arr [.obj []])]))⟩]
    (fun (s, _) => s.handlers.length = 1) (by decide +kernel)
  have arrived : s.handlers.length = 1 := of_decide_eq_true passed
  obtain ⟨bounded, schedule, last, out, executed, settled⟩ :=
    server_settles (by decide) (by decide) run
  obtain ⟨length, rests⟩ := bounded schedule last out executed
  exact ⟨seen, s, run, arrived, schedule, last, out, executed, length, rests settled⟩

end IngestionEngine.Router
