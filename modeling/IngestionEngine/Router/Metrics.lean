import IngestionEngine.Batch.Memory
import IngestionEngine.Router.Progress

/-!
# What the two `GET` routes report

`handleHealthz` and `handleMetrics` load one counter after another while the rest of the server goes
on. No counter goes back, so each value that they report lies between the counter when the request
arrived and the counter when it was answered. Of two requests, one after the answer to the
other, the later reports no smaller counter, and it has counted every event that was answered as
accepted before it arrived.
-/

namespace IngestionEngine

open Systems Event Worker RateLimit

namespace Batch.Processor

variable {Ev : Type} {p after : Processor Ev} {action : Act Ev} {out : List (Obs Ev)}

/-- No counter of the processor goes back. -/
theorem step_grows (stepped : p.step action = some (after, out)) :
    p.totalFlushed ≤ after.totalFlushed ∧ p.totalBatches ≤ after.totalBatches ∧
      p.flushErrors ≤ after.flushErrors := by
  have same : p.totalFlushed ≤ p.totalFlushed ∧ p.totalBatches ≤ p.totalBatches ∧
      p.flushErrors ≤ p.flushErrors := ⟨Nat.le_refl _, Nat.le_refl _, Nat.le_refl _⟩
  cases step_cases stepped with
  | submit moved => cases moved <;> exact same
  | select here moved => cases moved <;> exact same
  | tickWakes | tickWaits | cancelWakes | cancelWaits | metricsLock | metricsUnlock
  | flushStored => exact same
  | flushFailed => exact ⟨same.1, same.2.1, Nat.le_succ _⟩
  | advance moved =>
    cases moved with
    | count => exact ⟨Nat.le_add_right _ _, Nat.le_succ _, same.2.2⟩
    | lock | fill | append | expire | expireIdle | drain | drainStop | last | lastIdle | skip
    | call | stamp | finish => exact same

/-- A `Metrics` call that holds the mutex finds the buffer below the threshold. -/
theorem pending_below {threshold : Nat} (positive : 1 ≤ threshold) (inv : p.LockInv)
    (below : p.BelowThreshold threshold) (taken : p.mu = some .metrics) :
    p.buffer.length < threshold := by
  have outside : p.pc.holdsMu = false := inv.outside (by simp [taken])
  rw [← max_eq_right positive]
  apply below.2
  · intro here
    rw [here] at outside
    contradiction
  · intro here
    rw [here] at outside
    contradiction

end Batch.Processor

namespace Router

/-- The counters that `handleMetrics` reports. -/
inductive Counter where
  /-- `events_accepted` -/
  | accepted
  /-- `events_dropped` -/
  | dropped
  /-- `events_processed` -/
  | processed
  /-- `batch_flushed` -/
  | flushed
  /-- `total_batches` -/
  | batches
  /-- `batch_errors` -/
  | errors
  deriving DecidableEq, Repr

/-- A counter of the engine. -/
def Counter.current (e : Engine TelemetryEvent) : Counter → Nat
  | .accepted => e.pool.accepted
  | .dropped => e.pool.dropped
  | .processed => e.pool.processed
  | .flushed => e.proc.totalFlushed
  | .batches => e.proc.totalBatches
  | .errors => e.proc.flushErrors

/-- A counter that `handleMetrics` reports. -/
def Counter.reported (stats : QueueStats) (processor : BatchMetrics) : Counter → Nat
  | .accepted => stats.accepted
  | .dropped => stats.dropped
  | .processed => stats.processed
  | .flushed => processor.flushed
  | .batches => processor.batches
  | .errors => processor.errors

/-- What a caller of `QueueStats` has loaded. -/
def loadedStats : Reader → Counter → Option Nat
  | .dropped _ accepted, .accepted => some accepted
  | .processed _ accepted _, .accepted => some accepted
  | .processed _ _ dropped, .dropped => some dropped
  | _, _ => none

/-- What a caller of `Metrics` has loaded, with the statistics that it had before. -/
def loadedMetrics (stats : QueueStats) : MetricsPc → Counter → Option Nat
  | _, .accepted => some stats.accepted
  | _, .dropped => some stats.dropped
  | _, .processed => some stats.processed
  | .batches _ flushed, .flushed => some flushed
  | .errors _ flushed _, .flushed => some flushed
  | .errors _ _ batches, .batches => some batches
  | _, _ => none

/-- The counters that a goroutine has loaded. -/
def HandlerPc.loaded : HandlerPc → Counter → Option Nat
  | .stats reader, counter => loadedStats reader counter
  | .metrics queue pc, counter => loadedMetrics queue pc counter
  | .responded (.metrics queue processor _), counter => some (counter.reported queue processor)
  | _, _ => none

/-- What the statistics of the queue say of its length. -/
def QueueStats.Fits (queueCap : Nat) (stats : QueueStats) : Prop :=
  stats.capacity = queueCap ∧ stats.length ≤ queueCap

/-- Lengths that a goroutine has loaded are within their bounds. -/
def HandlerPc.Fits (queueCap batchThreshold : Nat) : HandlerPc → Prop
  | .stats (.accepted length) | .stats (.dropped length _) | .stats (.processed length _ _) =>
    length ≤ queueCap
  | .metrics queue (.flushed pending) | .metrics queue (.batches pending _)
  | .metrics queue (.errors pending _ _) =>
    QueueStats.Fits queueCap queue ∧ pending < batchThreshold
  | .metrics queue _ => QueueStats.Fits queueCap queue
  | .responded (.healthz queue uptime) => QueueStats.Fits queueCap queue ∧ 0 ≤ uptime
  | .responded (.metrics queue processor uptime) =>
    QueueStats.Fits queueCap queue ∧ processor.pending < batchThreshold ∧ 0 ≤ uptime
  | _ => True

namespace Server

variable {describe : DecodeError → String} {s after : Server} {index : Nat} {h : Handler}
  {next : Move}

/-- A load of `QueueStats` is one of the counter as it is. -/
theorem load_loaded {pool : Pool TelemetryEvent} {reader after : Reader}
    {stats : Option QueueStats} (loaded : load pool reader = some (after, stats))
    (e : Engine TelemetryEvent) (same : e.pool = pool) (counter : Counter) :
    (stats = none → loadedStats after counter = loadedStats reader counter ∨
      loadedStats after counter = some (counter.current e)) ∧
      ∀ result pc, stats = some result → pc = .lock →
        loadedMetrics result pc counter = loadedStats reader counter ∨
          loadedMetrics result pc counter = some (counter.current e) ∨
            loadedMetrics result pc counter = none := by
  subst same
  cases reader with
  | returned => contradiction
  | length | accepted | dropped =>
    obtain ⟨rfl, rfl⟩ := Prod.mk.inj (Option.some.inj loaded)
    constructor
    · intro _
      cases counter <;> simp [loadedStats, Counter.current]
    · intro result pc none
      simp at none
  | processed length accepted dropped =>
    obtain ⟨rfl, rfl⟩ := Prod.mk.inj (Option.some.inj loaded)
    constructor
    · intro none
      simp [statsOf] at none
    · rintro result pc found rfl
      obtain rfl : _ = result := Option.some.inj found
      cases counter <;> simp [loadedMetrics, loadedStats, Counter.current]

/-- A step of a handler loads a counter as it is, and forgets none. -/
theorem moves_loaded (moves : Moves describe s index h next) (counter : Counter) :
    next.pc.loaded counter = h.pc.loaded counter ∨
      next.pc.loaded counter = some (counter.current s.engine) ∨
        next.pc.loaded counter = none := by
  cases moves with
  | asks | admitted | limited | rejected | posted | enqueues | healthz => exact .inr (.inr rfl)
  | @answered posted _ _ here => exact .inr (.inr (by cases posted <;> rfl))
  | loads here loaded =>
    rw [here]
    exact ((load_loaded loaded s.engine rfl counter).1 rfl).imp_right .inl
  | measured here loaded =>
    rw [here]
    exact (load_loaded loaded s.engine rfl counter).2 _ _ rfl rfl
  | locks here | unlocks here =>
    rw [here]
    cases counter <;> exact .inl rfl
  | flushed here =>
    rw [here]
    cases counter with
    | flushed => exact .inr (.inl rfl)
    | accepted | dropped | processed | batches | errors => exact .inl rfl
  | batches here =>
    rw [here]
    cases counter with
    | batches => exact .inr (.inl rfl)
    | accepted | dropped | processed | flushed | errors => exact .inl rfl
  | metrics here =>
    rw [here]
    cases counter with
    | errors => exact .inr (.inl rfl)
    | accepted | dropped | processed | flushed | batches => exact .inl rfl

/-- No counter of the engine goes back. -/
theorem engine_grows {e after : Engine TelemetryEvent}
    {action : IngestionEngine.Act TelemetryEvent} {out : List (IngestionEngine.Obs TelemetryEvent)}
    (stepped : e.step action = some (after, out)) (counter : Counter) :
    counter.current e ≤ counter.current after := by
  have pools {pool : Pool TelemetryEvent} {action : Worker.Act TelemetryEvent}
      {out : List (Worker.Obs TelemetryEvent)} (moved : e.pool.step action = some (pool, out)) :
      counter.current e ≤ counter.current { e with pool } := by
    have grows := Pool.step_grows moved
    cases counter with
    | accepted => exact grows.1
    | dropped => exact grows.2.1
    | processed => exact grows.2.2
    | flushed | batches | errors => exact Nat.le_refl _
  have procs {proc : Batch.Processor TelemetryEvent} {action : Batch.Act TelemetryEvent}
      {out : List (Batch.Obs TelemetryEvent)} (moved : e.proc.step action = some (proc, out)) :
      counter.current e ≤ counter.current { e with proc } := by
    have grows := Batch.Processor.step_grows moved
    cases counter with
    | flushed => exact grows.1
    | batches => exact grows.2.1
    | errors => exact grows.2.2
    | accepted | dropped | processed => exact Nat.le_refl _
  cases IngestionEngine.step_cases stepped with
  | pool allowed moved => exact pools moved
  | @submit worker ev pool out submitting moved =>
    have submitted : e.proc.step (.submit ev) = some (_, _) := rfl
    have proc := procs submitted
    have pool := pools moved
    cases counter with
    | accepted | dropped | processed => exact pool
    | flushed | batches | errors => exact proc
  | proc alone moved => exact procs moved
  | poolShutdown here moved =>
    have pool := pools moved
    cases counter <;> exact pool
  | stop =>
    have cancelled : e.proc.step .cancel = some (_, _) := rfl
    exact procs cancelled
  | httpDown | poolDown | exit => cases counter <;> exact Nat.le_refl _

/-- No counter goes back. -/
theorem step_grows {action : Act} {out : List Obs}
    (stepped : s.step describe action = some (after, out)) (counter : Counter) :
    counter.current s.engine ≤ counter.current after.engine := by
  cases step_cases stepped with
  | post | get => exact Nat.le_refl _
  | @handle _ _ _ _ h next running moves =>
    rcases moves_engine moves with ⟨same, _⟩ | ⟨action, moved⟩
    · show counter.current s.engine ≤ counter.current next.engine
      rw [same]
    · exact engine_grows moved counter
  | engine permitted moved => exact engine_grows moved counter

/-- What has been loaded is no more than what is counted. -/
def LoadedBelow (s : Server) : Prop :=
  ∀ h ∈ s.handlers, ∀ counter value, h.pc.loaded counter = some value →
    value ≤ counter.current s.engine

/-- Every step keeps it so. -/
theorem step_loadedBelow {action : Act} {out : List Obs} (below : s.LoadedBelow)
    (stepped : s.step describe action = some (after, out)) : after.LoadedBelow := by
  have grows := step_grows stepped
  have old : ∀ h ∈ s.handlers, ∀ counter value, h.pc.loaded counter = some value →
      value ≤ counter.current after.engine := by
    intro h member counter value loaded
    exact (below h member counter value loaded).trans (grows counter)
  have arrives (new : Handler) (nothing : ∀ counter, new.pc.loaded counter = none) :
      ∀ h ∈ s.handlers ++ [new], ∀ counter value, h.pc.loaded counter = some value →
        value ≤ counter.current after.engine := by
    intro h member counter value loaded
    rcases List.mem_append.mp member with before | last
    · exact old h before counter value loaded
    · rw [List.mem_singleton.mp last, nothing counter] at loaded
      contradiction
  cases step_cases stepped with
  | @post request => exact arrives ⟨request, .allowing _⟩ fun _ => rfl
  | @get request => exact arrives ⟨request, .stats .length⟩ fun _ => rfl
  | @handle index _ _ _ h next running moves =>
    apply forall_mem_set old
    intro counter value loaded
    have here : next.pc.loaded counter = some value := loaded
    rcases moves_loaded moves counter with same | now | none
    · rw [here] at same
      exact old h (List.mem_of_getElem? running) counter value same.symm
    · rw [here, Option.some.injEq] at now
      rw [now]
      exact grows counter
    · rw [here] at none
      contradiction
  | engine => exact old

/-- What a request has loaded that arrived after some state is no less than what was counted
then. -/
structure LoadedSince (base s : Server) : Prop where
  /-- No counter has gone back. -/
  counted : ∀ counter : Counter, counter.current base.engine ≤ counter.current s.engine
  /-- No request is forgotten. -/
  longer : base.handlers.length ≤ s.handlers.length
  /-- What the requests since then have loaded. -/
  loaded : ∀ (index : Nat) (h : Handler), base.handlers.length ≤ index →
    s.handlers[index]? = some h → ∀ counter value, h.pc.loaded counter = some value →
      counter.current base.engine ≤ value

/-- Every step keeps it so. -/
theorem step_loadedSince {base : Server} {action : Act} {out : List Obs}
    (since : LoadedSince base s) (stepped : s.step describe action = some (after, out)) :
    LoadedSince base after := by
  obtain ⟨counted, longer, old⟩ := since
  have grows (counter : Counter) :
      counter.current base.engine ≤ counter.current after.engine :=
    (counted counter).trans (step_grows stepped counter)
  have arrives (new : Handler) (nothing : ∀ counter, new.pc.loaded counter = none)
      (handlers : after.handlers = s.handlers ++ [new]) : LoadedSince base after := by
    refine ⟨grows, ?_, ?_⟩
    · rw [handlers, List.length_append]
      exact longer.trans (Nat.le_add_right _ _)
    · intro index h later here counter value loaded
      rw [handlers] at here
      rcases getElem?_append_cases here with rfl | before
      · rw [nothing counter] at loaded
        contradiction
      · exact old index h later before counter value loaded
  cases step_cases stepped with
  | @post request => exact arrives ⟨request, .allowing _⟩ (fun _ => rfl) rfl
  | @get request => exact arrives ⟨request, .stats .length⟩ (fun _ => rfl) rfl
  | @handle place _ _ _ h next running moves =>
    refine ⟨grows, ?_, ?_⟩
    · show _ ≤ (s.handlers.set place _).length
      rw [List.length_set]
      exact longer
    · intro index mine later here counter value loaded
      rcases getElem?_set_cases here with ⟨rfl, rfl⟩ | ⟨_, found⟩
      · have now : next.pc.loaded counter = some value := loaded
        rcases moves_loaded moves counter with same | current | none
        · rw [now] at same
          exact old index h later running counter value same.symm
        · rw [now, Option.some.injEq] at current
          rw [current]
          exact counted counter
        · rw [now] at none
          contradiction
      · exact old index mine later found counter value loaded
  | engine => exact ⟨grows, longer, old⟩

/-- A step of a handler loads lengths that are within their bounds. -/
theorem moves_fits {queueCap batchThreshold : Nat} (fits : h.pc.Fits queueCap batchThreshold)
    (capacity : s.engine.pool.taskCh.capacity = queueCap)
    (pending : s.engine.proc.mu = some .metrics → s.engine.proc.buffer.length < batchThreshold)
    (moves : Moves describe s index h next) : next.pc.Fits queueCap batchThreshold := by
  cases moves with
  | asks | admitted | limited | rejected | posted | enqueues => trivial
  | @answered posted => cases posted <;> trivial
  | @loads reader after here loaded =>
    rw [here] at fits
    cases reader with
    | length =>
      obtain ⟨rfl, _⟩ := Prod.mk.inj (Option.some.inj loaded)
      show s.engine.pool.taskCh.queue.length ≤ queueCap
      rw [← capacity]
      exact s.engine.pool.taskCh.bounded
    | accepted | dropped =>
      obtain ⟨rfl, _⟩ := Prod.mk.inj (Option.some.inj loaded)
      exact fits
    | processed =>
      obtain ⟨_, none⟩ := Prod.mk.inj (Option.some.inj loaded)
      simp [statsOf] at none
    | returned => contradiction
  | @healthz reader after stats uptime here loaded later =>
    rw [here] at fits
    cases reader with
    | processed length accepted dropped =>
      obtain ⟨_, found⟩ := Prod.mk.inj (Option.some.inj loaded)
      obtain rfl := Option.some.inj found
      exact ⟨⟨capacity, fits⟩, later⟩
    | length | accepted | dropped =>
      obtain ⟨_, none⟩ := Prod.mk.inj (Option.some.inj loaded)
      simp at none
    | returned => contradiction
  | @measured reader after stats here loaded route =>
    rw [here] at fits
    cases reader with
    | processed length accepted dropped =>
      obtain ⟨_, found⟩ := Prod.mk.inj (Option.some.inj loaded)
      obtain rfl := Option.some.inj found
      exact ⟨capacity, fits⟩
    | length | accepted | dropped =>
      obtain ⟨_, none⟩ := Prod.mk.inj (Option.some.inj loaded)
      simp at none
    | returned => contradiction
  | locks here =>
    rw [here] at fits
    exact fits
  | unlocks here moved =>
    rw [here] at fits
    cases Batch.Processor.step_cases moved with
    | metricsUnlock taken => exact ⟨fits, pending taken⟩
  | flushed here | batches here =>
    rw [here] at fits
    exact fits
  | metrics here later =>
    rw [here] at fits
    exact ⟨fits.1, fits.2, later⟩

/-- Every step keeps the lengths within their bounds. -/
theorem step_fits {queueCap batchThreshold : Nat} {action : Act} {out : List Obs}
    (fits : ∀ h ∈ s.handlers, h.pc.Fits queueCap batchThreshold)
    (capacity : s.engine.pool.taskCh.capacity = queueCap)
    (pending : s.engine.proc.mu = some .metrics → s.engine.proc.buffer.length < batchThreshold)
    (stepped : s.step describe action = some (after, out)) :
    ∀ h ∈ after.handlers, h.pc.Fits queueCap batchThreshold := by
  cases step_cases stepped with
  | post | get =>
    intro h member
    rcases List.mem_append.mp member with old | new
    · exact fits h old
    · rw [List.mem_singleton.mp new]
      trivial
  | handle running moves =>
    apply forall_mem_set fits
    exact moves_fits (fits _ (List.mem_of_getElem? running)) capacity pending moves
  | engine => exact fits

/-- What the answers report is part of the reports. -/
theorem answered_le (s : Server) : s.answered.1 ≤ s.reported.1 := by
  have first := total_hom (AddMonoidHom.fst ℕ ℕ) (fun h : Handler => h.pc.tally) s.handlers
  have second := total_hom (AddMonoidHom.fst ℕ ℕ)
    (fun h => h.tally (owned Handler.caller s.engine.pool.callers h)) s.handlers
  show (AddMonoidHom.fst ℕ ℕ) s.answered ≤ (AddMonoidHom.fst ℕ ℕ) s.reported
  rw [answered, reported, first, second]
  apply total_le
  intro h
  cases here : owned Handler.caller s.engine.pool.callers h with
  | none => exact Nat.le_refl _
  | some c =>
    have nothing : h.pc.tally = 0 := by
      cases there : h.pc with
      | enqueueing => rfl
      | allowing | reading | stats | metrics | responded =>
        rw [owned, Handler.caller, there] at here
        contradiction
    rw [nothing]
    exact Nat.zero_le _

section Runs

variable {workerCount queueCap batchThreshold : Nat}
  {ratePerSec capacity globalRate globalCap now : ℚ} {seen : List Obs}

/-- In every run what has been loaded is no more than what is counted. -/
theorem run_loadedBelow (run : (system describe).AnyRun
      (.start workerCount queueCap batchThreshold ratePerSec capacity globalRate globalCap now)
      seen s) : s.LoadedBelow := by
  apply run.state_invariant Server.LoadedBelow
  · exact List.forall_mem_nil _
  · intro s action after out below _ stepped
    exact step_loadedBelow below stepped

/-- After any state, what later requests have loaded is no less than what was counted then. -/
theorem run_loadedSince {base : Server} (run : (system describe).AnyRun base seen s) :
    LoadedSince base s := by
  apply run.state_invariant (LoadedSince base)
  · refine ⟨fun _ => Nat.le_refl _, Nat.le_refl _, fun index h later here => ?_⟩
    rw [List.getElem?_eq_none later] at here
    contradiction
  · intro s action after out since _ stepped
    exact step_loadedSince since stepped

/-- In every run the lengths that are loaded are within their bounds. -/
theorem run_fits (positive : 1 ≤ batchThreshold) (run : (system describe).AnyRun
      (.start workerCount queueCap batchThreshold ratePerSec capacity globalRate globalCap now)
      seen s) : ∀ h ∈ s.handlers, h.pc.Fits queueCap batchThreshold := by
  have both : (system describe).AnyRun
      (.start workerCount queueCap batchThreshold ratePerSec capacity globalRate globalCap now)
      seen s ∧ ∀ h ∈ s.handlers, h.pc.Fits queueCap batchThreshold := by
    apply run.invariant fun seen s => (system describe).AnyRun
      (.start workerCount queueCap batchThreshold ratePerSec capacity globalRate globalCap now)
      seen s ∧ ∀ h ∈ s.handlers, h.pc.Fits queueCap batchThreshold
    · exact ⟨.start, List.forall_mem_nil _⟩
    · rintro seen s action after out ⟨reached, fits⟩ _ stepped
      have engine := run_engine reached
      have lock := Batch.run_lock (run_proc engine)
      have below := Batch.run_below (run_proc engine)
      exact ⟨reached.next trivial stepped, step_fits fits (run_capacity (run_pool engine))
        (Batch.Processor.pending_below positive lock below) stepped⟩
  exact both.2

end Runs

end Server

/-- Each counter that `handleMetrics` reports lies between its value in any state before the request
arrived and its value in any state after the answer. So a request that arrives after answers reports
at least the events that they accepted, and no smaller counter than any `GET` of the metrics that
was answered by then. -/
theorem metrics_between {describe : DecodeError → String}
    {workerCount queueCap batchThreshold : Nat}
    {ratePerSec capacity globalRate globalCap now : ℚ} {seen later : List Server.Obs}
    {s last : Server}
    (run : (Server.system describe).AnyRun
      (.start workerCount queueCap batchThreshold ratePerSec capacity globalRate globalCap now)
      seen s)
    (rest : (Server.system describe).AnyRun s later last)
    {index : Nat} (arrived : s.handlers.length ≤ index) {request : Incoming} {stats : QueueStats}
    {processor : BatchMetrics} {uptime : ℚ}
    (here : last.handlers[index]? = some ⟨request, .responded (.metrics stats processor uptime)⟩) :
    (∀ counter : Counter, counter.current s.engine ≤ counter.reported stats processor ∧
      counter.reported stats processor ≤ counter.current last.engine) ∧
      s.answered.1 ≤ stats.accepted ∧
      ∀ first earlier before since,
        ⟨first, .responded (.metrics earlier before since)⟩ ∈ s.handlers →
          ∀ counter : Counter, counter.reported earlier before ≤ counter.reported stats processor
    := by
  have since := Server.run_loadedSince rest
  have lower (counter : Counter) :
      counter.current s.engine ≤ counter.reported stats processor :=
    since.loaded index _ arrived here counter _ rfl
  have upper := Server.run_loadedBelow (run.append rest) _ (List.mem_of_getElem? here)
  have accepted := (Server.run_reported run).2
  refine ⟨fun counter => ⟨lower counter, upper counter _ rfl⟩, ?_, ?_⟩
  · have reported := s.answered_le
    rw [accepted] at reported
    exact reported.trans (lower .accepted)
  · intro first earlier before start member counter
    exact (Server.run_loadedBelow run _ member counter _ rfl).trans (lower counter)

/-- One event is enqueued, and answered. -/
def enqueuedOnce : List Server.Act :=
  .arrive ⟨.single, ⟨"a", ""⟩,
      .text 40 (some (.obj [("service", .str "auth"), ("Message", .str "hello")]))⟩
    :: List.replicate 9 (.handle 0 0 newYear none)

/-- Then the metrics are asked for. -/
def measuredOnce : List Server.Act :=
  .arrive ⟨.metrics, ⟨"b", ""⟩, .unreadable⟩ :: List.replicate 9 (.handle 1 0 newYear none)

/-- The handler has answered with the metrics. -/
def Handler.measured (h : Handler) : Bool :=
  match h.pc with
  | .responded (.metrics _ _ _) => true
  | _ => false

/-- An event is answered as accepted, and the metrics that are asked for then report it. -/
theorem metrics_between_one :
    ∃ seen later s last request stats processor uptime,
      (Server.system fun _ => "").AnyRun (.start 1 4 1 1 1 1 1 0) seen s ∧
      (Server.system fun _ => "").AnyRun s later last ∧ s.handlers.length ≤ 1 ∧
      last.handlers[1]? = some ⟨request, .responded (.metrics stats processor uptime)⟩ ∧
      s.answered.1 = 1 ∧ s.answered.1 ≤ stats.accepted := by
  obtain ⟨seen, s, run, passed⟩ := System.exec_witness (Server.system fun _ => "")
    System.unguarded (.start 1 4 1 1 1 1 1 0) enqueuedOnce
    (fun (s, _) => s.handlers.length ≤ 1 && s.answered.1 = 1 &&
      ((Server.system fun _ => "").exec System.unguarded s measuredOnce).any
        fun (last, _) => last.handlers[1]?.any Handler.measured) (by decide +kernel)
  simp only [Bool.and_eq_true, decide_eq_true_eq] at passed
  obtain ⟨⟨arrived, one⟩, measures⟩ := passed
  obtain ⟨later, last, rest, found⟩ := System.exec_witness (Server.system fun _ => "")
    System.unguarded s measuredOnce (fun (last, _) => last.handlers[1]?.any Handler.measured)
    measures
  obtain ⟨⟨request, pc⟩, here, measured⟩ := (Option.any_eq_true _ _).mp found
  unfold Handler.measured at measured
  split at measured
  · rename_i stats processor uptime same
    have answered : last.handlers[1]? =
        some ⟨request, .responded (.metrics stats processor uptime)⟩ := by rw [here, ← same]
    have between := metrics_between run rest arrived answered
    exact ⟨seen, later, s, last, request, stats, processor, uptime, run, rest, arrived, answered,
      one, between.2.1⟩
  · contradiction

/-- The goroutine is that of a route that takes events. -/
def HandlerPc.posts : HandlerPc → Bool
  | .allowing _ | .reading | .enqueueing _ _ | .responded .limited | .responded (.rejected _)
  | .responded (.single _ _) | .responded (.batch _ _ _) => true
  | .stats _ | .metrics _ _ | .responded (.healthz _ _) | .responded (.metrics _ _ _) => false

/-- The names of the members that a report has. -/
def Answer.names : Answer → List String
  | .healthz _ _ => ["queue_util", "status", "uptime_sec"]
  | .metrics _ _ _ =>
    ["batch_errors", "batch_flushed", "batch_pending", "events_accepted", "events_dropped",
      "events_processed", "queue_capacity", "queue_len", "queue_saturation", "total_batches",
      "uptime_sec"]
  | .limited | .rejected _ | .single _ _ | .batch _ _ _ => []

/-- The members of a report of the two `GET` routes have these names, and values within their
bounds. -/
structure InRange (queueCap batchThreshold : Nat) (names : List String)
    (members : List (String × Json)) : Prop where
  /-- All the members are there. -/
  complete : members.map Prod.fst = names
  /-- `queue_len` -/
  length : ∀ value, ("queue_len", value) ∈ members →
    ∃ n : Nat, n ≤ queueCap ∧ value = .num (.int n)
  /-- `queue_capacity` -/
  capacity : ∀ value, ("queue_capacity", value) ∈ members → value = .num (.int queueCap)
  /-- `queue_saturation` -/
  saturation : ∀ value, ("queue_saturation", value) ∈ members →
    ∃ x : ℚ, (0 ≤ x ∧ x ≤ 100) ∧ value = .num (.decimal x)
  /-- `queue_util` -/
  util : ∀ value, ("queue_util", value) ∈ members →
    ∃ x : ℚ, (0 ≤ x ∧ x ≤ 1) ∧ value = .num (.decimal x)
  /-- `batch_pending` -/
  pending : ∀ value, ("batch_pending", value) ∈ members →
    ∃ n : Nat, n < batchThreshold ∧ value = .num (.int n)
  /-- `uptime_sec` -/
  uptime : ∀ value, ("uptime_sec", value) ∈ members →
    ∃ x : ℚ, 0 ≤ x ∧ value = .num (.decimal x)

namespace Server

variable {describe : DecodeError → String} {s after : Server} {index : Nat} {h : Handler}
  {next : Move}

/-- A goroutine stays with its kind of route. -/
theorem moves_posts (moves : Moves describe s index h next) : next.pc.posts = h.pc.posts := by
  cases moves with
  | @answered posted _ _ here =>
    rw [here]
    cases posted <;> rfl
  | asks here | admitted here | limited here | rejected here | posted here | enqueues here
  | loads here | healthz here | measured here | locks here | unlocks here | flushed here
  | batches here | metrics here =>
    have same := congrArg HandlerPc.posts here
    exact same.symm

/-- In every run each goroutine is one of its route. -/
theorem run_posts {init : Server} {seen : List Obs}
    (initial : ∀ h ∈ init.handlers, h.pc.posts = h.request.route.posts)
    (run : (system describe).AnyRun init seen s) :
    ∀ h ∈ s.handlers, h.pc.posts = h.request.route.posts := by
  apply run.state_invariant fun s => ∀ h ∈ s.handlers, h.pc.posts = h.request.route.posts
  · exact initial
  · intro s action after out kept _ stepped
    have arrives (new : Handler) (here : new.pc.posts = new.request.route.posts) :
        ∀ h ∈ s.handlers ++ [new], h.pc.posts = h.request.route.posts := by
      intro h member
      rcases List.mem_append.mp member with old | last
      · exact kept h old
      · rw [List.mem_singleton.mp last]
        exact here
    cases step_cases stepped with
    | @post request opened posts => exact arrives ⟨request, .allowing _⟩ posts.symm
    | @get request opened gets => exact arrives ⟨request, .stats .length⟩ gets.symm
    | handle running moves =>
      apply forall_mem_set kept
      exact (moves_posts moves).trans (kept _ (List.mem_of_getElem? running))
    | engine => exact kept

end Server

/-- The quotient of a length that fits lies between zero and one. -/
theorem quotient_range {queueCap length : Nat} (positive : 0 < queueCap)
    (fits : length ≤ queueCap) : ∃ util, quotient length queueCap = some util ∧ 0 ≤ util ∧
      util ≤ 1 := by
  have some : (0 : ℚ) < queueCap := by exact_mod_cast positive
  have cast : (length : ℚ) ≤ queueCap := by exact_mod_cast fits
  refine ⟨length / queueCap, if_neg (Nat.pos_iff_ne_zero.mp positive), ?_, ?_⟩
  · exact div_nonneg (Nat.cast_nonneg _) some.le
  · exact (div_le_one some).mpr cast

/-- What the two `GET` routes answer: with a queue that has room for something, a report with all
its members, which are within their bounds; with one that has none, no body, since zero by zero is
no number that JSON knows. -/
theorem reports_in_range {describe : DecodeError → String}
    {workerCount queueCap batchThreshold : Nat} (positive : 1 ≤ batchThreshold)
    {ratePerSec capacity globalRate globalCap now : ℚ} {seen : List Server.Obs} {s : Server}
    (run : (Server.system describe).AnyRun
      (.start workerCount queueCap batchThreshold ratePerSec capacity globalRate globalCap now)
      seen s)
    {request : Incoming} {answer : Answer} (here : ⟨request, .responded answer⟩ ∈ s.handlers)
    (gets : request.route.posts = false) :
    answer.response.status = 200 ∧ (queueCap = 0 → answer.response.body = .text "") ∧
      (0 < queueCap → ∃ members, answer.response.body = .json (.obj members) ∧
        InRange queueCap batchThreshold answer.names members) := by
  have fits := Server.run_fits positive run _ here
  have posts := (Server.run_posts (List.forall_mem_nil _) run _ here).trans gets
  cases answer with
  | limited | rejected | single | batch => contradiction
  | healthz stats uptime =>
    obtain ⟨⟨capacity, length⟩, later⟩ := fits
    rw [Answer.response, healthzAnswer, capacity]
    refine ⟨?_, ?_, ?_⟩
    · cases quotient stats.length queueCap <;> rfl
    · rintro rfl
      rfl
    · intro some
      obtain ⟨util, found, low, high⟩ := quotient_range some length
      rw [found]
      refine ⟨_, rfl, rfl, ?_, ?_, ?_, ?_, ?_, ?_⟩
      · intro value member
        simp at member
      · intro value member
        simp at member
      · intro value member
        simp at member
      · intro value member
        exact ⟨util, ⟨low, high⟩, by simpa using member⟩
      · intro value member
        simp at member
      · intro value member
        exact ⟨uptime, later, by simpa using member⟩
  | metrics stats processor uptime =>
    obtain ⟨⟨capacity, length⟩, pending, later⟩ := fits
    rw [Answer.response, metricsAnswer, capacity]
    refine ⟨?_, ?_, ?_⟩
    · cases quotient stats.length queueCap <;> rfl
    · rintro rfl
      rfl
    · intro some
      obtain ⟨util, found, low, high⟩ := quotient_range some length
      rw [found]
      refine ⟨_, rfl, rfl, ?_, ?_, ?_, ?_, ?_, ?_⟩
      · intro value member
        exact ⟨stats.length, length, by simpa using member⟩
      · intro value member
        simpa using member
      · intro value member
        refine ⟨util * 100, ⟨?_, ?_⟩, by simpa using member⟩
        · linarith only [low]
        · linarith only [high]
      · intro value member
        simp at member
      · intro value member
        exact ⟨processor.pending, pending, by simpa using member⟩
      · intro value member
        exact ⟨uptime, later, by simpa using member⟩

/-- With a queue for four events and one event in it, a quarter of the room is reported. -/
theorem reports_in_range_quarter :
    ∃ seen s request answer members,
      (Server.system fun _ => "").AnyRun (.start 1 4 1 1 1 1 1 0) seen s ∧
      ⟨request, .responded answer⟩ ∈ s.handlers ∧
      answer.response.body = .json (.obj members) ∧ InRange 4 1 answer.names members := by
  obtain ⟨seen, s, run, passed⟩ := System.exec_witness (Server.system fun _ => "")
    System.unguarded (.start 1 4 1 1 1 1 1 0) (enqueuedOnce ++ measuredOnce)
    (fun (s, _) => s.handlers[1]?.any fun h => h.measured && !h.request.route.posts)
    (by decide +kernel)
  obtain ⟨⟨request, pc⟩, here, tested⟩ := (Option.any_eq_true _ _).mp passed
  simp only [Bool.and_eq_true, Bool.not_eq_true'] at tested
  obtain ⟨measured, gets⟩ := tested
  unfold Handler.measured at measured
  split at measured
  · rename_i stats processor uptime same
    have member : ⟨request, .responded (.metrics stats processor uptime)⟩ ∈ s.handlers := by
      rw [← same]
      exact List.mem_of_getElem? here
    obtain ⟨members, body, inRange⟩ :=
      (reports_in_range (by decide) run member gets).2.2 (by decide)
    exact ⟨seen, s, request, _, members, run, member, body, inRange⟩
  · contradiction

end Router

end IngestionEngine
