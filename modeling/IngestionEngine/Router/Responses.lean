import IngestionEngine.Router.Ingest
import IngestionEngine.Router.Server
import IngestionEngine.Systems.Ownership
import IngestionEngine.Worker.Callers

/-!
# What the responses report

Every handler that enqueues is a caller of the pool of its own, and answers with what that caller
has counted. So what the responses report, together with what the requests in progress have counted
so far, is what the pool has counted, however the handlers interleave.
-/

namespace IngestionEngine.Router

open Systems Event Worker RateLimit

/-- The number of events that are posted. -/
def Posted.size : Posted → Nat
  | .single _ => 1
  | .batch total => total

/-- How many events an answer reports as accepted and as dropped. -/
def Answer.tally : Answer → Nat × Nat
  | .single _ accepted => (accepted.toNat, (!accepted).toNat)
  | .batch _ accepted dropped => (accepted, dropped)
  | .limited | .rejected _ | .healthz _ _ | .metrics _ _ _ => 0

/-- The caller of the pool that the goroutine is. -/
def HandlerPc.caller : HandlerPc → Option Nat
  | .enqueueing _ caller => some caller
  | .allowing _ | .reading | .stats _ | .metrics _ _ | .responded _ => none

/-- What a goroutine that is no caller of the pool has reported. -/
def HandlerPc.tally : HandlerPc → Nat × Nat
  | .responded answer => answer.tally
  | .allowing _ | .reading | .enqueueing _ _ | .stats _ | .metrics _ _ => 0

/-- The caller of the pool that the goroutine of a request is. -/
def Handler.caller (h : Handler) : Option Nat := h.pc.caller

/-- What a request has reported, or what its caller of the pool has counted so far. -/
def Handler.tally (h : Handler) : Option (Caller TelemetryEvent) → Nat × Nat
  | some caller => caller.tally
  | none => h.pc.tally

/-- A batch is answered for completely, and a caller of the pool has the events of its request. -/
def HandlerPc.Complete (callers : List (Caller TelemetryEvent)) : HandlerPc → Prop
  | .enqueueing posted caller => ∀ c, callers[caller]? = some c → c.size = posted.size
  | .responded (.batch total accepted dropped) => accepted + dropped = total
  | _ => True

namespace Server

/-- How many events the answers report as accepted and as dropped, with what the requests in
progress have counted so far. -/
def reported (s : Server) : Nat × Nat :=
  total (fun h => h.tally (owned Handler.caller s.engine.pool.callers h)) s.handlers

/-- How many events the answers report as accepted and as dropped. -/
def answered (s : Server) : Nat × Nat := total (fun h : Handler => h.pc.tally) s.handlers

/-- What the handlers report rests on the callers of the pool. -/
structure Reports (s : Server) : Prop where
  /-- Each caller of the pool is a handler, or was one that has answered. -/
  ledger : Ledger Handler.caller Handler.tally Caller.tally s.engine.pool.callers s.handlers
  /-- No event of a request is left out. -/
  complete : ∀ h ∈ s.handlers, h.pc.Complete s.engine.pool.callers

variable {describe : DecodeError → String} {s after : Server} {index : Nat} {h : Handler}
  {next : Move}

/-- A goroutine that is no caller of the pool before or after its step, and reports nothing. -/
theorem Reports.idle (reports : s.Reports) (running : s.handlers[index]? = some h)
    (callers : next.engine.pool.callers = s.engine.pool.callers)
    (was : h.pc.caller = none ∧ h.pc.tally = 0)
    (is : next.pc.caller = none ∧ next.pc.tally = 0)
    (complete : next.pc.Complete s.engine.pool.callers) : (s.moved index h next).Reports := by
  constructor
  · show Ledger _ _ _ next.engine.pool.callers (s.handlers.set index { h with pc := next.pc })
    rw [callers]
    have free : Handler.caller { h with pc := next.pc } = none := is.1
    have idle : h.caller = none := was.1
    apply reports.ledger.move running
    · intro cell holds
      rw [free] at holds
      contradiction
    · rw [owned, owned, free, idle]
      exact is.2.trans was.2.symm
  · show ∀ other ∈ s.handlers.set index { h with pc := next.pc },
      other.pc.Complete next.engine.pool.callers
    rw [callers]
    exact forall_mem_set reports.complete complete

/-- The handler becomes a caller of the pool. -/
theorem Reports.posts (reports : s.Reports) (running : s.handlers[index]? = some h)
    (here : h.pc = .reading) {events : List TelemetryEvent} {posted : Posted}
    (size : events.length = posted.size) :
    (s.moved index h
      ⟨s.limiter,
        { s.engine with
          pool :=
            { s.engine.pool with callers := s.engine.pool.callers ++ [⟨events, .check, 0, 0⟩] } },
        .enqueueing posted s.engine.pool.callers.length, []⟩).Reports := by
  have idle : h.caller = none := by rw [Handler.caller, here]; rfl
  have nothing : h.tally none = 0 := by rw [Handler.tally, here]; rfl
  constructor
  · exact reports.ledger.take running idle rfl nothing rfl
  · have grown (other : Handler) (member : other ∈ s.handlers) :
        other.pc.Complete (s.engine.pool.callers ++ [⟨events, .check, 0, 0⟩]) := by
      have before := reports.complete other member
      unfold HandlerPc.Complete at before ⊢
      split
      · rename_i posted caller there
        rw [there] at before
        have inside := reports.ledger.own.inside other member caller (by
          rw [Handler.caller, there]
          rfl)
        rw [List.getElem?_append_left inside]
        exact before
      · rename_i there
        rw [there] at before
        exact before
      · trivial
    apply forall_mem_set grown
    intro c found
    rw [List.getElem?_concat_length, Option.some.injEq] at found
    subst found
    simp only [Caller.size, Nat.zero_add]
    exact size

/-- The handler takes a step in the pool. -/
theorem Reports.enqueues (reports : s.Reports) (running : s.handlers[index]? = some h)
    {posted : Posted} {caller : Nat} (here : h.pc = .enqueueing posted caller)
    {pool : Pool TelemetryEvent} {out : List (Worker.Obs TelemetryEvent)} {shown : List Obs}
    (moved : Pool.Enqueue s.engine.pool caller pool out) :
    (s.moved index h ⟨s.limiter, { s.engine with pool }, .enqueueing posted caller, shown⟩).Reports
    := by
  obtain ⟨c, new, calling, callers, _, size, _⟩ := Pool.enqueue_caller moved
  have same : ({ h with pc := .enqueueing posted caller } : Handler) = h := by rw [← here]
  have holds : h.caller = some caller := by rw [Handler.caller, here]; rfl
  have stays : s.handlers.set index { h with pc := .enqueueing posted caller } = s.handlers := by
    obtain ⟨inside, found⟩ := List.getElem?_eq_some_iff.mp running
    rw [same, ← found]
    exact List.set_getElem_self inside
  constructor
  · show Ledger _ _ _ pool.callers (s.handlers.set index { h with pc := .enqueueing posted caller })
    rw [callers, stays]
    exact reports.ledger.change running holds calling rfl rfl
  · show ∀ other ∈ s.handlers.set index { h with pc := .enqueueing posted caller },
      other.pc.Complete pool.callers
    rw [callers, stays]
    intro other member
    have before := reports.complete other member
    unfold HandlerPc.Complete at before ⊢
    split
    · rename_i theirs place there
      rw [there] at before
      intro c' found
      rcases getElem?_set_cases found with ⟨rfl, rfl⟩ | ⟨_, found⟩
      · rw [size]
        exact before c calling
      · exact before c' found
    · rename_i there
      rw [there] at before
      exact before
    · trivial

/-- The handler answers with what its caller has counted. -/
theorem Reports.answers (reports : s.Reports) (running : s.handlers[index]? = some h)
    {posted : Posted} {caller : Nat} (here : h.pc = .enqueueing posted caller)
    {c : Caller TelemetryEvent} (calling : s.engine.pool.callers[caller]? = some c)
    (finished : c.rest = []) : (s.moved index h (s.answers index (posted.answer c))).Reports := by
  have holds : h.caller = some caller := by rw [Handler.caller, here]; rfl
  have size : c.acceptedCount + c.droppedCount = posted.size := by
    have complete := reports.complete h (List.mem_of_getElem? running)
    rw [here] at complete
    have same := complete c calling
    rw [Caller.size, finished] at same
    exact same
  have counted : (posted.answer c).tally = c.tally := by
    cases posted with
    | batch total => rfl
    | single ev =>
      have one : c.acceptedCount + c.droppedCount = 1 := size
      show ((decide (c.acceptedCount = 1)).toNat, (!decide (c.acceptedCount = 1)).toNat) =
        (c.acceptedCount, c.droppedCount)
      by_cases accepted : c.acceptedCount = 1
      · have none : c.droppedCount = 0 := by omega
        rw [accepted, none]
        rfl
      · have none : c.acceptedCount = 0 := by omega
        have dropped : c.droppedCount = 1 := by omega
        rw [none, dropped]
        rfl
  constructor
  · apply reports.ledger.move running
    · intro cell again
      contradiction
    · have mine : owned Handler.caller s.engine.pool.callers h = some c := by
        rw [owned, holds, Option.bind_some, calling]
      rw [mine]
      exact counted
  · apply forall_mem_set reports.complete
    cases posted with
    | single ev => trivial
    | batch total => exact size

/-- What a request posts is what is enqueued for it. -/
theorem decode_size {r : Incoming} {now : Now} {events : List TelemetryEvent} {posted : Posted}
    (decoded : r.decode describe now = some (.ok (events, posted))) :
    events.length = posted.size := by
  unfold Incoming.decode at decoded
  split at decoded
  · cases parsed : singleEvent describe r.upload now with
    | error response => simp [parsed, Except.map] at decoded
    | ok ev =>
      simp only [parsed, Except.map, Option.some.injEq, Except.ok.injEq, Prod.mk.injEq] at decoded
      obtain ⟨rfl, rfl⟩ := decoded
      rfl
  · cases parsed : batchEvents r.upload with
    | error response => simp [parsed, Except.map] at decoded
    | ok all =>
      simp only [parsed, Except.map, Option.some.injEq, Except.ok.injEq, Prod.mk.injEq] at decoded
      obtain ⟨rfl, rfl⟩ := decoded
      rfl
  · contradiction
  · contradiction

/-- Every step of a handler keeps the reports. -/
theorem moves_reports (reports : s.Reports) (running : s.handlers[index]? = some h)
    (moves : Moves describe s index h next) : (s.moved index h next).Reports := by
  cases moves with
  | posted here decoded opened => exact reports.posts running here (decode_size decoded)
  | enqueues here moved => exact reports.enqueues running here (Pool.enqueue_cases moved)
  | answered here calling finished => exact reports.answers running here calling finished
  | asks here | admitted here | limited here | rejected here | loads here | healthz here
  | measured here | locks here | unlocks here | flushed here | batches here | metrics here =>
    exact reports.idle running rfl (by rw [here]; exact ⟨rfl, rfl⟩) ⟨rfl, rfl⟩ trivial

/-- A step of the engine that no handler takes leaves the callers of the pool alone. -/
theorem engine_callers {action : IngestionEngine.Act TelemetryEvent}
    {engine : Engine TelemetryEvent} {out : List (IngestionEngine.Obs TelemetryEvent)}
    (permitted : s.permits action = true) (moved : s.engine.step action = some (engine, out)) :
    engine.pool.callers = s.engine.pool.callers := by
  cases IngestionEngine.step_cases moved with
  | pool allowed entered =>
    apply (Pool.step_callers ?_ ?_ entered).1
    · rintro events rfl
      contradiction
    · rintro index waiter rfl
      contradiction
  | submit submitting entered => exact (Pool.step_callers (by simp) (by simp) entered).1
  | poolShutdown here entered => exact (Pool.step_callers (by simp) (by simp) entered).1
  | proc | httpDown | poolDown | stop | exit => rfl

/-- Every step keeps the reports. -/
theorem step_reports {action : Act} {out : List Obs} (reports : s.Reports)
    (stepped : s.step describe action = some (after, out)) : after.Reports := by
  have arrives (h : Handler) (idle : h.pc.caller = none) (nothing : h.pc.tally = 0)
      (complete : h.pc.Complete s.engine.pool.callers) (limiter : Concurrent.State) :
      ({ s with limiter, handlers := s.handlers ++ [h] } : Server).Reports := by
    constructor
    · exact reports.ledger.join idle nothing
    · intro other member
      rcases List.mem_append.mp member with old | new
      · exact reports.complete other old
      · rw [List.mem_singleton.mp new]
        exact complete
  cases step_cases stepped with
  | @post request => exact arrives ⟨request, .allowing _⟩ rfl rfl trivial _
  | @get request => exact arrives ⟨request, .stats .length⟩ rfl rfl trivial _
  | handle running moves => exact moves_reports reports running moves
  | engine permitted moved =>
    have callers := engine_callers permitted moved
    exact ⟨callers ▸ reports.ledger, callers ▸ reports.complete⟩

section Runs

variable {workerCount queueCap batchThreshold : Nat}
  {ratePerSec capacity globalRate globalCap now : ℚ} {seen : List Obs}

/-- In every run the reports rest on the callers of the pool. -/
theorem run_reports {guard : Server → Act → Prop} (run : (system describe).Run guard
      (.start workerCount queueCap batchThreshold ratePerSec capacity globalRate globalCap now)
      seen s) : s.Reports := by
  apply run.state_invariant Server.Reports
  · exact ⟨.nil, List.forall_mem_nil _⟩
  · intro s action after out reports _ stepped
    exact step_reports reports stepped

/-- When every request has been answered, the reports are those of the answers. -/
theorem reported_done (done : s.handlers.all (·.pc.done) = true) :
    s.reported = s.answered := by
  apply total_congr
  intro h member
  have finished := List.all_eq_true.mp done h member
  have idle : h.caller = none := by
    cases here : h.pc with
    | responded answer => rw [Handler.caller, here]; rfl
    | allowing | reading | enqueueing | stats | metrics =>
      rw [here] at finished
      contradiction
  rw [owned, idle]
  rfl

end Runs

/-- What the pool shows of a run. -/
def ofPool (seen : List Obs) : List (Worker.Obs TelemetryEvent) :=
  (seen.flatMap Obs.ofEngine).flatMap IngestionEngine.Obs.ofPool

/-- The answers, with what the requests in progress have counted so far, report the calls of
`Enqueue` that returned nil, and those that did not. -/
theorem run_reported {describe : DecodeError → String}
    {workerCount queueCap batchThreshold : Nat}
    {ratePerSec capacity globalRate globalCap now : ℚ} {seen : List Obs} {s : Server}
    (run : (system describe).AnyRun
      (.start workerCount queueCap batchThreshold ratePerSec capacity globalRate globalCap now)
      seen s) :
    s.reported = ((ofPool seen).countP Obs.isAccepted, (ofPool seen).countP Obs.isFailed) ∧
      s.reported.1 = s.engine.pool.accepted := by
  have pool := run_pool (run_engine run)
  have reported : s.reported =
      ((ofPool seen).countP Obs.isAccepted, (ofPool seen).countP Obs.isFailed) :=
    (run_reports run).ledger.balanced.symm.trans (Worker.run_tallied pool)
  refine ⟨reported, ?_⟩
  rw [reported, (Worker.run_balance pool).accepted]
  rfl

end Server

/-- In every state the answers, with what the requests in progress have counted so far, report as
accepted what the pool has counted as accepted. The events reported either way are the ones
that were processed or dropped, are queued or in the hand of a worker, or met the shutdown, up to
those that a handler has sent and not yet counted; and every batch is answered for completely. -/
theorem responses_account {describe : DecodeError → String}
    {workerCount queueCap batchThreshold : Nat}
    {ratePerSec capacity globalRate globalCap now : ℚ} {seen : List Server.Obs} {s : Server}
    (run : (Server.system describe).AnyRun
      (.start workerCount queueCap batchThreshold ratePerSec capacity globalRate globalCap now)
      seen s) :
    s.reported.1 = s.engine.pool.accepted ∧
      s.engine.pool.processed + s.engine.pool.dropped + s.engine.pool.taskCh.queue.length +
          total WorkerPc.uncounted s.engine.pool.workers + (Server.ofPool seen).countP Obs.isShut =
        s.reported.1 + s.reported.2 + total Caller.uncounted s.engine.pool.callers ∧
      (∀ h ∈ s.handlers, ∀ size accepted dropped,
        h.pc = .responded (.batch size accepted dropped) → accepted + dropped = size) ∧
      (s.handlers.all (·.pc.done) = true → s.answered.1 = s.engine.pool.accepted) := by
  have reports := Server.run_reports run
  have pool := run_pool (Server.run_engine run)
  have balance := Worker.run_balance pool
  obtain ⟨reported, accepted⟩ := Server.run_reported run
  refine ⟨accepted, ?_, ?_, ?_⟩
  · have account := balance.balance
    rw [reported, failed_split]
    show _ = (Server.ofPool seen).countP Obs.isAccepted +
      ((Server.ofPool seen).countP Obs.isRejected + (Server.ofPool seen).countP Obs.isShut) + _
    change _ = (Server.ofPool seen).countP Obs.isAccepted +
      (Server.ofPool seen).countP Obs.isRejected + _ at account
    omega
  · intro h member size accepted dropped here
    have complete := reports.complete h member
    rw [here] at complete
    exact complete
  · intro done
    rw [← Server.reported_done done]
    exact accepted

/-- Three events for a queue with room for one: the answer reports one accepted and two dropped. -/
def threeForOne : List Server.Act :=
  .arrive ⟨.batch, ⟨"a", ""⟩, .text 24 (some (.obj [("events", .arr [.obj [], .obj [], .obj []])]))⟩
    :: List.replicate 15 (.handle 0 0 newYear none)

/-- The three events are accounted for. -/
theorem responses_account_three :
    ∃ seen s, (Server.system fun _ => "").AnyRun (.start 1 1 1 1 1 1 1 0) seen s ∧
      s.answered.1 = s.engine.pool.accepted ∧ s.answered = (1, 2) := by
  obtain ⟨seen, s, run, passed⟩ := System.exec_witness (Server.system fun _ => "")
    System.unguarded (.start 1 1 1 1 1 1 1 0) threeForOne
    (fun (s, _) => s.handlers.all (·.pc.done) && s.answered = (1, 2)) (by decide +kernel)
  simp only [Bool.and_eq_true, decide_eq_true_eq] at passed
  exact ⟨seen, s, run, (responses_account run).2.2.2 passed.1, passed.2⟩

end IngestionEngine.Router
