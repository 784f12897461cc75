import IngestionEngine.Pipeline.ZeroDrop
import IngestionEngine.Router.Handlers

/-!
# What gets into the pipeline

The engine with its two ingestion routes. A single event is validated before it is enqueued;
the events of a batch are enqueued as they were decoded.
-/

namespace IngestionEngine.Router

open Systems Event

/-- The steps of the engine behind its routes. -/
inductive Act where
  /-- `POST /api/v1/events/single`, with the clock reading of `Validate`. -/
  | single (upload : Upload) (now : Now)
  /-- `POST /api/v1/events/batch` -/
  | batch (upload : Upload)
  /-- Any other step of the engine. -/
  | engine (action : IngestionEngine.Act TelemetryEvent)

/-- What an observer of the engine behind its routes sees. -/
inductive Obs where
  /-- A handler answered without the pool. -/
  | responded (response : Response)
  /-- An observation of the engine. -/
  | engine (seen : IngestionEngine.Obs TelemetryEvent)

/-- The observation, if the engine made it. -/
def Obs.ofEngine : Obs → List (IngestionEngine.Obs TelemetryEvent)
  | .responded _ => []
  | .engine seen => [seen]

/-- A goroutine of a handler enqueues some events. -/
def post (e : Engine TelemetryEvent) (events : List TelemetryEvent) :
    Option (Engine TelemetryEvent × List Obs) :=
  (e.step (.pool (.call events))).map fun (e, out) => (e, out.map .engine)

/-- One atomic step. -/
def step (describe : DecodeError → String) (e : Engine TelemetryEvent) :
    Act → Option (Engine TelemetryEvent × List Obs)
  | .single upload now =>
    match singleEvent describe upload now with
    | .error response => some (e, [.responded response])
    | .ok ev => post e [ev]
  | .batch upload =>
    match batchEvents upload with
    | .error response => some (e, [.responded response])
    | .ok events => post e events
  | .engine action =>
    match action with
    | .pool (.call _) => none
    | _ => (e.step action).map fun (e, out) => (e, out.map .engine)

/-- The engine behind its routes as a system. -/
def system (describe : DecodeError → String) : System (Engine TelemetryEvent) Act Obs :=
  ⟨step describe⟩

/-- The events that the body of a batch decodes to, none if it does not decode. -/
def decodedEvents (upload : Upload) : List TelemetryEvent :=
  match batchEvents upload with
  | .error _ => []
  | .ok events => events

/-- A batch that is posted holds valid events only. -/
def ValidBatches (_ : Engine TelemetryEvent) : Act → Prop
  | .batch upload => ∀ ev ∈ decodedEvents upload, ev.Valid
  | .single _ _ | .engine _ => True

instance (e : Engine TelemetryEvent) (action : Act) : Decidable (ValidBatches e action) :=
  match action with
  | .batch upload => inferInstanceAs (Decidable (∀ ev ∈ decodedEvents upload, ev.Valid))
  | .single _ _ | .engine _ => inferInstanceAs (Decidable True)

variable {describe : DecodeError → String} {workerCount queueCap batchThreshold : Nat}

/-- The routes show nothing of the observations of the engine but all of them. -/
theorem ofEngine_engine (out : List (IngestionEngine.Obs TelemetryEvent)) :
    (out.map Obs.engine).flatMap Obs.ofEngine = out := by
  induction out with
  | nil => rfl
  | cons first rest ih => rw [List.map_cons, List.flatMap_cons, ih]; rfl

/-- Every step is a step of the engine or a response. What it enqueues comes from a handler,
and is valid when the batches are. -/
theorem step_engine {e after : Engine TelemetryEvent} {action : Act} {out : List Obs}
    (stepped : step describe e action = some (after, out)) :
    (after = e ∧ out.flatMap Obs.ofEngine = []) ∨
      ∃ image, e.step image = some (after, out.flatMap Obs.ofEngine) ∧
        (ValidBatches e action → ∀ events, image = .pool (.call events) →
          ∀ ev ∈ events, ev.Valid) := by
  have posted {events : List TelemetryEvent}
      (made : (post e events) = some (after, out)) :
      e.step (.pool (.call events)) = some (after, out.flatMap Obs.ofEngine) := by
    simp only [post, Option.map_eq_some_iff, Prod.mk.injEq, Prod.exists] at made
    obtain ⟨_, _, moved, rfl, rfl⟩ := made
    rw [ofEngine_engine]
    exact moved
  cases action with
  | single upload now =>
    simp only [step] at stepped
    split at stepped
    · obtain ⟨rfl, rfl⟩ := stepped
      exact .inl ⟨rfl, rfl⟩
    · rename_i ev handled
      refine .inr ⟨_, posted stepped, fun _ events same member inside => ?_⟩
      injection same with called
      injection called with listed
      rw [← listed, List.mem_singleton] at inside
      rw [inside]
      exact singleEvent_valid handled
  | batch upload =>
    simp only [step] at stepped
    split at stepped
    · obtain ⟨rfl, rfl⟩ := stepped
      exact .inl ⟨rfl, rfl⟩
    · rename_i events handled
      refine .inr ⟨_, posted stepped, fun valid events same => ?_⟩
      injection same with called
      injection called with listed
      subst listed
      simpa only [ValidBatches, decodedEvents, handled] using valid
  | engine action =>
    simp only [step] at stepped
    split at stepped
    · contradiction
    · rename_i other
      simp only [Option.map_eq_some_iff, Prod.mk.injEq, Prod.exists] at stepped
      obtain ⟨_, _, moved, rfl, rfl⟩ := stepped
      refine .inr ⟨action, by rw [ofEngine_engine]; exact moved, fun _ events same => ?_⟩
      exact absurd same (other events)

/-- A run behind the routes is a run of the engine. -/
theorem run_engine {guard : Engine TelemetryEvent → Act → Prop} {seen : List Obs}
    {e : Engine TelemetryEvent}
    (run : (system describe).Run guard (.start workerCount queueCap batchThreshold) seen e) :
    (IngestionEngine.system TelemetryEvent).AnyRun (.start workerCount queueCap batchThreshold)
      (seen.flatMap Obs.ofEngine) e := by
  refine run.project id Obs.ofEngine ?_
  intro seen e action after out _ _ stepped
  rcases step_engine stepped with silent | ⟨image, moved, _⟩
  · exact .inl silent
  · exact .inr ⟨image, trivial, moved⟩

/-- The events sent on `taskCh`. -/
def sentEvents (seen : List (IngestionEngine.Obs TelemetryEvent)) : List TelemetryEvent :=
  (seen.flatMap IngestionEngine.Obs.ofPool).flatMap Worker.Obs.sentEvents

/-- A step of the engine whose calls hold valid events sends valid events. -/
theorem engine_sends {e after : Engine TelemetryEvent}
    {action : IngestionEngine.Act TelemetryEvent}
    {out : List (IngestionEngine.Obs TelemetryEvent)}
    (callers : e.pool.CallersHold TelemetryEvent.Valid)
    (called : ∀ events, action = .pool (.call events) → ∀ ev ∈ events, ev.Valid)
    (stepped : e.step action = some (after, out)) :
    after.pool.CallersHold TelemetryEvent.Valid ∧ ∀ ev ∈ sentEvents out, ev.Valid := by
  unfold sentEvents
  cases step_cases stepped with
  | pool allowed moved =>
    rw [ofPool_pool]
    exact Worker.step_sends callers (fun events same => called events (by rw [same])) moved
  | submit submitting moved =>
    have sends := Worker.step_sends callers (by simp) moved
    rw [List.flatMap_append, ofPool_pool]
    simpa [IngestionEngine.Obs.ofPool] using sends
  | proc alone moved =>
    rw [ofPool_proc]
    exact ⟨callers, by simp⟩
  | poolShutdown here moved =>
    rw [ofPool_pool]
    exact Worker.step_sends callers (by simp) moved
  | httpDown | poolDown | stop | exit =>
    exact ⟨callers, by simp [IngestionEngine.Obs.ofPool]⟩

/-- While the batches are valid, so is every event that was sent. -/
theorem run_sends {seen : List Obs} {e : Engine TelemetryEvent}
    (run : (system describe).Run ValidBatches (.start workerCount queueCap batchThreshold)
      seen e) :
    e.pool.CallersHold TelemetryEvent.Valid ∧
      ∀ ev ∈ sentEvents (seen.flatMap Obs.ofEngine), ev.Valid := by
  refine run.invariant (fun seen e => e.pool.CallersHold TelemetryEvent.Valid ∧
    ∀ ev ∈ sentEvents (seen.flatMap Obs.ofEngine), ev.Valid) ⟨nofun, nofun⟩ ?_
  intro seen e action after out held valid stepped
  have split : sentEvents ((seen ++ out).flatMap Obs.ofEngine) =
      sentEvents (seen.flatMap Obs.ofEngine) ++ sentEvents (out.flatMap Obs.ofEngine) := by
    simp only [sentEvents, List.flatMap_append]
  rw [split]
  rcases step_engine stepped with ⟨rfl, silent⟩ | ⟨image, moved, called⟩
  · rw [silent]
    exact ⟨held.1, by simpa [sentEvents] using held.2⟩
  · have sends := engine_sends held.1 (called valid) moved
    refine ⟨sends.1, fun ev member => ?_⟩
    rcases List.mem_append.mp member with old | new
    · exact held.2 ev old
    · exact sends.2 ev new

/-- What is passed to `FlushBatch` was sent on `taskCh`. -/
theorem flushed_sent {seen : List (IngestionEngine.Obs TelemetryEvent)}
    {e : Engine TelemetryEvent}
    (run : (IngestionEngine.system TelemetryEvent).AnyRun
      (.start workerCount queueCap batchThreshold) seen e) :
    ∀ ev ∈ handedToFlush seen, ev ∈ sentEvents seen := by
  intro ev member
  have flow := (Worker.run_flow (run_pool run)).2
  have pending := (Batch.run_pending (run_proc run)).1
  have accepted : ev ∈ (seen.flatMap IngestionEngine.Obs.ofProc).flatMap Batch.Obs.accepted := by
    rw [pending]
    exact List.mem_append_left _ member
  rw [← (run_shutdown run).link] at accepted
  have submitted : ev ∈ ((seen.flatMap IngestionEngine.Obs.ofPool).flatMap
      Worker.Obs.submittedEvents : Multiset TelemetryEvent) := by
    rw [Worker.submitted_split]
    exact Multiset.mem_add.mpr (.inl accepted)
  have received : ev ∈ ((seen.flatMap IngestionEngine.Obs.ofPool).flatMap
      Worker.Obs.receivedEvents : Multiset TelemetryEvent) := by
    rw [flow.handled]
    exact Multiset.mem_add.mpr (.inl submitted)
  unfold sentEvents
  rw [flow.fifo]
  exact List.mem_append_left _ received

/-- As long as every batch that is posted decodes to valid events, every event in `taskCh` is
valid, and so is every event passed to `FlushBatch`. -/
theorem queued_events_valid {seen : List Obs} {e : Engine TelemetryEvent}
    (run : (system describe).Run ValidBatches (.start workerCount queueCap batchThreshold)
      seen e) :
    (∀ ev ∈ e.pool.taskCh.queue, ev.Valid) ∧
      ∀ ev ∈ handedToFlush (seen.flatMap Obs.ofEngine), ev.Valid := by
  have sends := (run_sends run).2
  have engine := run_engine run
  constructor
  · intro ev member
    apply sends
    unfold sentEvents
    rw [(Worker.run_flow (run_pool engine)).2.fifo]
    exact List.mem_append_right _ member
  · intro ev member
    exact sends ev (flushed_sent engine ev member)

/-- Some new year. -/
def newYear : Now := ⟨⟨63839664000000000000⟩, by decide⟩

/-- A handler enqueues the event in its hand. -/
def enqueueOne : List Act :=
  [.engine (.pool (.caller 0 none)), .engine (.pool (.caller 0 none)),
    .engine (.pool (.caller 0 none))]

/-- A single event without time and level is completed before it is queued; a batch of one event
that has both is queued after it. -/
theorem queued_events_valid_single :
    ∃ seen e, (system fun _ => "").Run ValidBatches (.start 1 4 1) seen e ∧
      e.pool.taskCh.queue.map TelemetryEvent.message = ["hello", "bye"] ∧
      ∀ ev ∈ e.pool.taskCh.queue, ev.Valid := by
  obtain ⟨seen, e, run, passed⟩ := System.exec_witness (system fun _ => "") ValidBatches
    (.start 1 4 1)
    (.single (.text 40 (some (.obj [("service", .str "auth"), ("Message", .str "hello")])))
        newYear :: enqueueOne ++
      .batch (.text 99 (some (.obj [("events", .arr [.obj [("service", .str "auth"),
        ("level", .str "WARN"), ("message", .str "bye"),
        ("timestamp", .str "2024-01-01T00:00:00Z")]])]))) ::
      List.replicate 3 (.engine (.pool (.caller 1 none))))
    (fun (e, _) => e.pool.taskCh.queue.map TelemetryEvent.message = ["hello", "bye"])
    (by decide +kernel)
  exact ⟨seen, e, run, of_decide_eq_true passed, (queued_events_valid run).1⟩

/-- A batch of one empty object queues an event without a service. -/
theorem queued_events_invalid :
    ∃ seen e, (system fun _ => "").AnyRun (.start 1 4 1) seen e ∧
      ∃ ev ∈ e.pool.taskCh.queue, ¬ ev.Valid := by
  obtain ⟨seen, e, run, passed⟩ := System.exec_witness (system fun _ => "") System.unguarded
    (.start 1 4 1)
    (.batch (.text 15 (some (.obj [("events", .arr [.obj []])]))) :: enqueueOne)
    (fun (e, _) => e.pool.taskCh.queue.any fun ev => !decide ev.Valid) (by decide +kernel)
  obtain ⟨ev, member, invalid⟩ := List.any_eq_true.mp passed
  exact ⟨seen, e, run, ev, member, by simpa using invalid⟩

end IngestionEngine.Router
