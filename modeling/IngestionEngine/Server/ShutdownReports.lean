import IngestionEngine.Server.Gate
import IngestionEngine.Server.Reports

/-!
# What the reports of the shutdowns tell

A simulated shutdown that returns has put the queue behind the buffer and flushed both, so that
every event accepted before it has been flushed. Its report tells how many events it found in the
queue and how many it flushed, and nothing else drains the queue or flushes for that reason.
-/

namespace IngestionEngine.Server

open Systems Program

/-- The events that a shutdown took out of the queue. -/
def Obs.drainedEvents : Obs → List TelemetryEvent
  | .drained _ events => events
  | _ => []

/-- The events that were flushed for a shutdown. -/
def Obs.lastEvents : Obs → List TelemetryEvent
  | .flushed _ .gracefulShutdown _ events _ => events
  | _ => []

/-- What a shutdown returned. -/
def Obs.reports : Obs → List ShutdownReport
  | .shutdown _ report => [report]
  | _ => []

/-- The observation is one that only a shutdown shows. -/
def Obs.ofShutdown : Obs → Bool
  | .drained _ _ | .flushed _ .gracefulShutdown _ _ _ | .shutdown _ _ => true
  | .limited _ _ _ | .pushed _ _ | .moved _ _ | .flushed _ .countThreshold _ _ _
  | .flushed _ .windowTimeout _ _ _ | .logged _ | .latency _ | .single _ | .batch _ | .metrics _
  | .threw _ | .crashed _ => false

variable {env : Env} {p after : Process} {action : Act} {seen out : List Obs}

/-- A change that shows such an observation is made by a shutdown. -/
theorem Change.Made.shutdown {change : Change} (made : change.Made p action) {obs : Obs}
    (last : obs.ofShutdown = true) (shows : change.Shows obs) :
    ∃ env, action = .request env .simulateGracefulShutdown := by
  cases made with
  | still quiet other =>
    cases change with
    | touch | refill | refuseBatch | drop | setRps | setBurst | capTokens => exact shows.elim
    | spend | refuse =>
      obtain rfl := shows
      contradiction
    | push | move | drain | flush => contradiction
    | finish shown =>
      obtain ⟨rfl, ends⟩ := shows
      cases obs with
      | shutdown clock report => exact absurd rfl (other clock report)
      | drained | flushed => contradiction
      | limited | pushed | moved | logged | latency | single | batch | metrics | threw
      | crashed => contradiction
  | batch _ member | loadTest _ _ _ _ member =>
    refine absurd shows
      (batchChanges_each (fun change => ¬ change.Shows obs) ?_ ?_ _ _ _ _ _ member)
    · exact fun shows => shows
    · rintro record rfl
      contradiction
  | single =>
    obtain rfl := shows
    contradiction
  | move =>
    obtain ⟨_, rfl⟩ := shows
    contradiction
  | threshold | window =>
    obtain ⟨_, _, _, rfl⟩ := shows
    contradiction
  | drain | last | returned => exact ⟨_, rfl⟩

/-- Every step that is not a shutdown shows none of these observations. -/
theorem other_shows (other : ∀ env, action ≠ .request env .simulateGracefulShutdown)
    (stepped : step p action = some (after, out)) : ∀ obs ∈ out, obs.ofShutdown = false := by
  intro obs member
  by_contra last
  have shown : obs.ofShutdown = true := Bool.eq_true_of_not_eq_false last
  have core : obs ∈ out.flatMap Obs.core := by
    refine List.mem_flatMap.mpr ⟨obs, member, ?_⟩
    cases obs with
    | logged | latency => contradiction
    | limited | pushed | moved | drained | flushed | single | batch | metrics | shutdown | threw
    | crashed => exact List.mem_singleton_self _
  obtain ⟨change, made, shows⟩ := step_made stepped core
  obtain ⟨env, calls⟩ := made.shutdown shown shows
  exact other env calls

/-- What shows none of them reads as nothing. -/
theorem reads_other (quiet : ∀ obs ∈ out, obs.ofShutdown = false) :
    out.flatMap Obs.drainedEvents = [] ∧ out.flatMap Obs.lastEvents = [] ∧
      out.flatMap Obs.reports = [] := by
  refine ⟨?_, ?_, ?_⟩
  all_goals
    refine List.flatMap_eq_nil_iff.mpr fun obs member => ?_
    have other := quiet obs member
    cases obs with
    | drained | shutdown => contradiction
    | flushed clock reason batchId events failed => cases reason <;> first | rfl | contradiction
    | limited | pushed | moved | logged | latency | single | batch | metrics | threw
    | crashed => rfl

/-- What a shutdown that returns shows and leaves. -/
structure Closes (p q : Process) (shown : List Obs) (report : ShutdownReport) : Prop where
  /-- The queue and the buffer are empty. -/
  empty : q.engine.queue = [] ∧ q.engine.batchBuffer = []
  /-- It has taken the events out of the queue. -/
  drained : shown.flatMap Obs.drainedEvents = p.engine.queue
  /-- It has flushed the buffer and then the queue. -/
  flushed : shown.flatMap Obs.lastEvents = p.engine.batchBuffer ++ p.engine.queue
  /-- It has not returned before. -/
  quiet : shown.flatMap Obs.reports = []
  /-- The report tells how many events they were. -/
  told : report.drainedQueue = p.engine.queue.length ∧
    report.flushedBatch = p.engine.batchBuffer.length + p.engine.queue.length

/-- A flush for a shutdown shows the buffer. -/
theorem flush_shows (env : Env) (p : Process) :
    ((triggerFlush env .gracefulShutdown).run p).out.flatMap Obs.lastEvents =
        p.engine.batchBuffer ∧
      ((triggerFlush env .gracefulShutdown).run p).out.flatMap Obs.drainedEvents = [] ∧
      ((triggerFlush env .gracefulShutdown).run p).out.flatMap Obs.reports = [] := by
  by_cases empty : p.engine.batchBuffer.length = 0
  · simp only [triggerFlush, run_bind, run_engine, andThen_ok, if_pos empty]
    exact ⟨(List.eq_nil_of_length_eq_zero empty).symm, rfl, rfl⟩
  · obtain ⟨entry, shown, _⟩ := triggerFlush_logged env .gracefulShutdown empty
    rw [shown]
    exact ⟨List.append_nil _, rfl, rfl⟩

/-- A shutdown whose queue fits a spread call closes the engine. -/
theorem run_shutdown_closes (fits : p.engine.queue.length ≤ env.spreadLimit) :
    ∃ q shown report, (simulateGracefulShutdown env).run p = ⟨q, shown, .ok report⟩ ∧
      Closes p q shown report := by
  simp only [simulateGracefulShutdown, stopLoadTest, run_bind, run_update, run_engine,
    run_clearTimer, run_addLog, run_lift, run_emit, andThen_ok, after_mk,
    if_neg (Nat.not_lt.mpr fits)]
  generalize flushed : (triggerFlush env .gracefulShutdown).run _ = outcome
  have returned : outcome.result = .ok () := by
    rw [← flushed]
    exact triggerFlush_returns env .gracefulShutdown _
  have empties : outcome.state.engine.batchBuffer = [] ∧ outcome.state.engine.queue = [] := by
    rw [← flushed]
    exact triggerFlush_empties .gracefulShutdown
  have shows : outcome.out.flatMap Obs.lastEvents = p.engine.batchBuffer ++ p.engine.queue ∧
      outcome.out.flatMap Obs.drainedEvents = [] ∧ outcome.out.flatMap Obs.reports = [] := by
    rw [← flushed]
    exact flush_shows env _
  obtain ⟨q, shown, result⟩ := outcome
  obtain rfl : result = .ok () := returned
  obtain ⟨last, drained, reports⟩ := shows
  simp only [andThen_ok, run_bind, run_addLog, run_setTimer, run_pure, after_mk]
  refine ⟨_, _, _, rfl, ⟨empties.2, empties.1⟩, ?_, ?_, ?_, rfl, List.length_append⟩
  · simp [drained, Obs.drainedEvents]
  · simp [last, Obs.lastEvents]
  · simp [reports, Obs.reports]

/-- What a shutdown shows that returns, and what one shows that throws. -/
theorem shutdown_shows
    (stepped : step p (.request env .simulateGracefulShutdown) = some (after, out)) :
    (∃ shown report, out = shown ++ [.shutdown env.clock report] ∧ Closes p after shown report) ∨
      ∀ obs ∈ out, obs.ofShutdown = false := by
  cases step_cases stepped with
  | request alive =>
    rcases Nat.lt_or_ge env.spreadLimit p.engine.queue.length with long | fits
    · obtain ⟨q, first, second, ran, _⟩ := run_shutdown_long (p := p.begin env) long
      have called : (Request.simulateGracefulShutdown.call env).run (p.begin env) =
          ⟨q, [.logged first, .logged second], .error .rangeError⟩ := by
        rw [Request.call, run_bind, ran]
        rfl
      right
      rw [called]
      simp [respond, Obs.ofShutdown]
    · obtain ⟨q, shown, report, ran, closes⟩ := run_shutdown_closes (p := p.begin env) fits
      have called : (Request.simulateGracefulShutdown.call env).run (p.begin env) =
          ⟨q, shown ++ [.shutdown env.clock report], .ok ()⟩ := by
        rw [Request.call, run_bind, ran]
        rfl
      left
      rw [called]
      exact ⟨shown, report, rfl, closes.empty, closes.drained, closes.flushed, closes.quiet,
        closes.told⟩

/-- The reports add up to what was drained, and to what was flushed for a shutdown. -/
structure Tallied (seen : List Obs) : Prop where
  /-- The events drained. -/
  drained : ((seen.flatMap Obs.reports).map fun report => report.drainedQueue).sum =
    (seen.flatMap Obs.drainedEvents).length
  /-- The events flushed for a shutdown. -/
  flushed : ((seen.flatMap Obs.reports).map fun report => report.flushedBatch).sum =
    (seen.flatMap Obs.lastEvents).length

/-- A step keeps the reports adding up. -/
theorem step_tallied (tallied : Tallied seen) (stepped : step p action = some (after, out)) :
    Tallied (seen ++ out) := by
  have quietly : (∀ obs ∈ out, obs.ofShutdown = false) → Tallied (seen ++ out) := by
    intro quiet
    obtain ⟨drained, last, reports⟩ := reads_other quiet
    constructor
    · rw [List.flatMap_append, List.flatMap_append, drained, reports, List.append_nil,
        List.append_nil]
      exact tallied.drained
    · rw [List.flatMap_append, List.flatMap_append, last, reports, List.append_nil,
        List.append_nil]
      exact tallied.flushed
  by_cases calls : ∃ env, action = .request env .simulateGracefulShutdown
  · obtain ⟨env, rfl⟩ := calls
    rcases shutdown_shows stepped with ⟨shown, report, rfl, closes⟩ | quiet
    · obtain ⟨_, drained, flushed, quiet, told, lastTold⟩ := closes
      constructor
      · simp [Obs.reports, Obs.drainedEvents, quiet, drained, tallied.drained, told]
      · simp [Obs.reports, Obs.lastEvents, quiet, flushed, tallied.flushed, lastTold]
    · exact quietly quiet
  · exact quietly (other_shows (fun env same => calls ⟨env, same⟩) stepped)

/-- In every run the reports of the shutdowns add up to the events drained and to those flushed for
a shutdown, and when one is seen, every event pushed so far has been flushed and the report counts
the events that were still held before. -/
theorem shutdown_reports_told (run : system.AnyRun (.start env) seen p) :
    ((seen.flatMap Obs.reports).map fun report => report.drainedQueue).sum =
        (seen.flatMap Obs.drainedEvents).length ∧
      ((seen.flatMap Obs.reports).map fun report => report.flushedBatch).sum =
        (seen.flatMap Obs.lastEvents).length ∧
      ∀ action after out clock report, step p action = some (after, out) →
        .shutdown clock report ∈ out →
          (seen ++ out).flatMap Obs.flushedEvents = (seen ++ out).flatMap Obs.pushedEvents ∧
            report.drainedQueue = p.engine.queue.length ∧
            report.flushedBatch + (seen.flatMap Obs.flushedEvents).length =
              (seen.flatMap Obs.pushedEvents).length := by
  have tallied : Tallied seen :=
    run.invariant (fun seen _ => Tallied seen) ⟨rfl, rfl⟩
      fun _ _ _ _ _ tallied _ stepped => step_tallied tallied stepped
  refine ⟨tallied.drained, tallied.flushed, ?_⟩
  intro action after out clock report stepped member
  have reached : system.AnyRun (.start env) (seen ++ out) after :=
    run.next trivial stepped
  obtain ⟨caller, rfl, rfl, fits⟩ := shutdown_returned stepped member
  rcases shutdown_shows stepped with ⟨shown, told, rfl, closes⟩ | quiet
  · obtain ⟨empty, _, _, quiet, drained, flushed⟩ := closes
    have one : report = told := by
      have reads : report ∈ (shown ++ [Obs.shutdown caller.clock told]).flatMap Obs.reports :=
        List.mem_flatMap.mpr ⟨_, member, List.mem_cons_self⟩
      rw [List.flatMap_append, quiet] at reads
      exact List.mem_singleton.mp reads
    subst one
    have before := (run_conserves run).fifo
    have conserved := (run_conserves reached).fifo
    simp only [Engine.core, empty.1, empty.2, List.append_nil] at conserved
    have lengths := congrArg List.length before
    simp only [Engine.core, List.length_append] at lengths
    exact ⟨conserved, drained, by omega⟩
  · have shuts := quiet _ member
    contradiction

/-- One event waits in the buffer and one in the queue, and the shutdown reports that it drained
one and flushed two. -/
theorem shutdown_reports_told_two : ∃ seen p after out report,
    system.AnyRun (.start (.calm 0)) seen p ∧
      step p (.request (.calm 12) .simulateGracefulShutdown) = some (after, out) ∧
      .shutdown 12 report ∈ out ∧ report.drainedQueue = 1 ∧ report.flushedBatch = 2 := by
  obtain ⟨seen, p, run, passed⟩ := System.exec_witness system System.unguarded (.start (.calm 0))
    [.request (.calm 1) (.ingestSingle plainEvent), .fire (.calm 10) 0,
      .request (.calm 11) (.ingestSingle plainEvent)]
    (fun (p, seen) => p.crashed = false && p.engine.queue.length = 1 &&
      (seen.flatMap Obs.flushedEvents).length = 0 && (seen.flatMap Obs.pushedEvents).length = 2)
    (by decide +kernel)
  simp only [Bool.and_eq_true, decide_eq_true_eq] at passed
  obtain ⟨⟨⟨alive, queued⟩, none⟩, pushed⟩ := passed
  have stepped : step p (.request (.calm 12) .simulateGracefulShutdown) = some (_, _) :=
    step_request alive
  obtain ⟨report, member⟩ := shutdown_returns stepped (by rw [queued]; decide)
  obtain ⟨_, drained, flushed⟩ := (shutdown_reports_told run).2.2 _ _ _ _ _ stepped member
  exact ⟨seen, p, _, _, report, run, stepped, member, drained.trans queued, by omega⟩

end IngestionEngine.Server
