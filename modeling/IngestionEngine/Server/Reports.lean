import IngestionEngine.Server.Conservation
import IngestionEngine.Server.Validation

/-!
# What a failed flush reports

`triggerFlush` counts its batch and prepends the records before it draws whether the write
failed, and a failure takes nothing back. So the counter and the records tell the batches that
were committed exactly as long as no flush has failed.
-/

namespace IngestionEngine.Server

open Systems Program

/-- The batch whose flush was logged as committed, with its number. -/
def Obs.committed : Obs → List (Nat × List TelemetryEvent)
  | .flushed _ _ batchId events false => [(batchId, events)]
  | _ => []

/-- The events of a batch whose flush was logged as a failure. -/
def Obs.lostEvents : Obs → List TelemetryEvent
  | .flushed _ _ _ events true => events
  | _ => []

/-- A flush was logged as a failure. -/
def Obs.failed : Obs → Bool
  | .flushed _ _ _ _ failed => failed
  | _ => false

/-- The record is of an event of the batch. -/
def PersistedRecord.Of (record : PersistedRecord) (batch : Nat × List TelemetryEvent) : Prop :=
  ∃ ev ∈ batch.2, ∃ env index, record = persistedRecord env batch.1 ev index

/-- `totalEventsFlushed` is the number of events in the batches that were committed, and every
record is of an event of one of them. -/
structure Truthful (seen : List Obs) (p : Process) : Prop where
  /-- The counter. -/
  counted : p.engine.totalEventsFlushed =
    ((seen.flatMap Obs.committed).map fun batch => batch.2.length).sum
  /-- The records. -/
  recorded : ∀ record ∈ p.engine.persistedTimeSeries,
    ∃ batch ∈ seen.flatMap Obs.committed, record.Of batch

/-- A flush of the step would not fail. -/
def Commits (_ : Process) (action : Act) : Prop := 1 / 10000 ≤ action.env.failure.val

instance (p : Process) (action : Act) : Decidable (Commits p action) :=
  inferInstanceAs (Decidable (1 / 10000 ≤ action.env.failure.val))

/-- A flush logs a failure exactly when its draw is below 1/10000, and a commit otherwise. -/
theorem triggerFlush_logged (env : Env) (reason : FlushReason) {p : Process}
    (some : p.engine.batchBuffer.length ≠ 0) :
    ∃ entry, ((triggerFlush env reason).run p).out =
        [.flushed env.clock reason (p.engine.totalBatchesFlushed + 1) p.engine.batchBuffer
          (env.failure.val < 1 / 10000), .logged entry] ∧
      entry.msg = if env.failure.val < 1 / 10000 then "MongoDB BulkWrite failure"
        else "MongoDB BulkWrite committed" := by
  by_cases fails : env.failure.val < 1 / 10000
  · simp only [triggerFlush, run_bind, run_engine, andThen_ok, if_neg some, run_update,
      if_pos fails, run_emit, run_addLog, after_mk, decide_eq_true fails]
    exact ⟨_, rfl, rfl⟩
  · simp only [triggerFlush, run_bind, run_engine, andThen_ok, if_neg some, run_update,
      if_neg fails, run_emit, run_addLog, after_mk, decide_eq_false fails]
    exact ⟨_, rfl, rfl⟩

/-! ### What was flushed is what was committed and what was lost -/

/-- Every event flushed is in a batch committed or in one lost. -/
theorem flushed_committed (seen : List Obs) :
    (seen.flatMap Obs.flushedEvents).length =
      ((seen.flatMap Obs.committed).map fun batch => batch.2.length).sum +
        (seen.flatMap Obs.lostEvents).length := by
  induction seen with
  | nil => rfl
  | cons first rest ih =>
    simp only [List.flatMap_cons, List.length_append, List.map_append, List.sum_append, ih]
    cases first with
    | flushed clock reason batchId events failed =>
      cases failed <;> simp [Obs.flushedEvents, Obs.committed, Obs.lostEvents] <;> omega
    | limited | pushed | moved | drained | logged | latency | single | batch | metrics | shutdown
    | threw | crashed => simp [Obs.flushedEvents, Obs.committed, Obs.lostEvents]

/-- The records are of flushed batches, and no batch is empty. -/
structure Recorded (seen : List Obs) (c : Core) : Prop where
  /-- The records. -/
  records : ∀ record ∈ c.persistedTimeSeries, ∃ clock reason batchId events failed,
    .flushed clock reason batchId events failed ∈ seen ∧ record.Of (batchId, events)
  /-- The batches. -/
  batches : ∀ clock reason batchId events failed,
    .flushed clock reason batchId events failed ∈ seen → events ≠ []

/-- The records of a flush are of its batch. -/
theorem records_of {c : Core} {env : Env} {record : PersistedRecord}
    (member : record ∈ c.records env) :
    record.Of (c.totalBatchesFlushed + 1, c.batchBuffer) := by
  obtain ⟨⟨ev, index⟩, inside, rfl⟩ := List.mem_map.mp member
  have taken : ev ∈ c.batchBuffer.take 50 := (List.mem_zipIdx' inside).2 ▸ List.getElem_mem _
  exact ⟨ev, List.mem_of_mem_take taken, env, index, rfl⟩

/-- Every change keeps the records those of flushed batches. -/
theorem change_recorded {seen out : List Obs} {c after : Core} {change : Change}
    (recorded : Recorded seen c) (stepped : c.step change = some (after, out)) :
    Recorded (seen ++ out) after := by
  have hold (same : after.persistedTimeSeries = c.persistedTimeSeries)
      (other : ∀ clock reason batchId events failed,
        .flushed clock reason batchId events failed ∉ out) : Recorded (seen ++ out) after := by
    constructor
    · intro record member
      rw [same] at member
      obtain ⟨clock, reason, batchId, events, failed, shown, own⟩ := recorded.records record member
      exact ⟨clock, reason, batchId, events, failed, List.mem_append_left _ shown, own⟩
    · intro clock reason batchId events failed member
      rcases List.mem_append.mp member with old | new
      · exact recorded.batches _ _ _ _ _ old
      · exact absurd new (other _ _ _ _ _)
  cases core_cases stepped with
  | @flush env reason filled =>
    have shown := List.mem_append_right seen (List.mem_singleton_self
      (Obs.flushed env.clock reason (c.totalBatchesFlushed + 1) c.batchBuffer
        (env.failure.val < 1 / 10000)))
    constructor
    · intro record member
      rcases List.mem_append.mp (List.mem_of_mem_take member) with new | old
      · exact ⟨_, _, _, _, _, shown, records_of (List.mem_reverse.mp new)⟩
      · obtain ⟨clock, reason, batchId, events, failed, earlier, own⟩ :=
          recorded.records record old
        exact ⟨clock, reason, batchId, events, failed, List.mem_append_left _ earlier, own⟩
    · intro clock reason batchId events failed member
      rcases List.mem_append.mp member with old | new
      · exact recorded.batches _ _ _ _ _ old
      · obtain ⟨_, _, _, rfl, _⟩ := Obs.flushed.inj (List.mem_singleton.mp new)
        exact fun empty => filled (by rw [empty]; rfl)
  | push | move | drain => exact hold rfl (by simp)
  | touch | refill | spend | refuse | refuseBatch | drop | setRps | setBurst | capTokens
  | finish =>
    have still := (change_holds rfl stepped).2
    refine hold rfl fun clock reason batchId events failed member => ?_
    exact absurd (still _ member) (by simp [Obs.still])

/-- In every run the records are of flushed batches. -/
theorem run_recorded {env : Env} {seen : List Obs} {p : Process}
    (run : system.AnyRun (.start env) seen p) : Recorded (seen.flatMap Obs.core) p.core := by
  refine (run_core (fun _ => True) (fun _ _ _ _ _ _ _ => trivial) run).invariant Recorded ?_
    fun _ _ _ _ _ recorded _ stepped => change_recorded recorded stepped
  have persisted : (Process.start env).core.persistedTimeSeries = [] := rfl
  exact ⟨by simp [persisted], by simp⟩

/-! ### Flushes that fail -/

/-- A flush of the change does not fail. -/
def Change.Writes : Change → Prop
  | .flush env _ => 1 / 10000 ≤ env.failure.val
  | _ => True

/-- A step whose draw is no failure makes such changes only. -/
theorem Change.Made.writes {p : Process} {action : Act} {change : Change}
    (made : change.Made p action) (permitted : Commits p action) : change.Writes := by
  cases made with
  | still quiet =>
    cases change with
    | flush => contradiction
    | touch | refill | spend | refuse | refuseBatch | push | drop | move | drain | setRps
    | setBurst | capTokens | finish => trivial
  | batch _ member | loadTest _ _ _ _ member =>
    exact batchChanges_each Change.Writes trivial (fun _ => trivial) _ _ _ _ _ member
  | threshold | window | last => exact permitted
  | single | move | drain | returned => trivial

/-- Such a change shows no failure. -/
theorem change_writes {c after : Core} {change : Change} {out : List Obs}
    (writes : change.Writes) (stepped : c.step change = some (after, out)) :
    ∀ obs ∈ out, obs.failed = false := by
  intro obs member
  cases core_cases stepped with
  | flush =>
    rw [List.mem_singleton.mp member]
    exact decide_eq_false (not_lt.mpr writes)
  | push | move | drain =>
    rw [List.mem_singleton.mp member]
    rfl
  | touch | refill | spend | refuse | refuseBatch | drop | setRps | setBurst | capTokens
  | finish =>
    have quiet := (change_holds rfl stepped).2 obs member
    cases obs with
    | flushed => contradiction
    | limited | pushed | moved | drained | logged | latency | single | batch | metrics | shutdown
    | threw | crashed => rfl

/-- A flush is among the observations of the core. -/
theorem flushed_core {seen : List Obs} {clock : Int} {reason : FlushReason} {batchId : Nat}
    {events : List TelemetryEvent} {failed : Bool} :
    .flushed clock reason batchId events failed ∈ seen.flatMap Obs.core ↔
      .flushed clock reason batchId events failed ∈ seen := by
  constructor
  · intro member
    obtain ⟨obs, inside, shown⟩ := List.mem_flatMap.mp member
    cases obs with
    | logged | latency => contradiction
    | limited | pushed | moved | drained | flushed | single | batch | metrics | shutdown | threw
    | crashed => rwa [List.mem_singleton.mp shown]
  · exact fun member => List.mem_flatMap.mpr ⟨_, member, List.mem_cons_self⟩

/-- Only a flush fails. -/
theorem failed_flushed {obs : Obs} (failed : obs.failed = true) :
    ∃ clock reason batchId events, obs = .flushed clock reason batchId events true := by
  cases obs with
  | flushed clock reason batchId events lost =>
    obtain rfl : lost = true := failed
    exact ⟨clock, reason, batchId, events, rfl⟩
  | limited | pushed | moved | drained | logged | latency | single | batch | metrics | shutdown
  | threw | crashed => contradiction

/-- No flush fails in a run whose draws are no failures. -/
theorem run_commits {env : Env} {seen : List Obs} {p : Process}
    (run : system.Run Commits (.start env) seen p) : ∀ obs ∈ seen, obs.failed = false := by
  have refined := run_core Change.Writes
    (fun _ _ _ permitted makes change member => (makes.made change member).writes permitted) run
  have kept : ∀ obs ∈ seen.flatMap Obs.core, obs.failed = false := by
    refine refined.invariant (fun seen _ => ∀ obs ∈ seen, obs.failed = false)
      (List.forall_mem_nil _) ?_
    intro _ _ _ _ _ held permitted stepped
    exact List.forall_mem_append.mpr ⟨held, change_writes permitted stepped⟩
  intro obs member
  by_contra lost
  obtain ⟨clock, reason, batchId, events, rfl⟩ := failed_flushed (Bool.eq_true_of_not_eq_false lost)
  exact lost (kept _ (flushed_core.mpr member))

/-- In every run `totalEventsFlushed` and the records tell the committed batches exactly when no
flush has failed. -/
theorem truthful_iff {env : Env} {seen : List Obs} {p : Process}
    (run : system.AnyRun (.start env) seen p) :
    Truthful seen p ↔ ∀ obs ∈ seen, obs.failed = false := by
  have recorded := run_recorded run
  have counted : p.engine.totalEventsFlushed =
      ((seen.flatMap Obs.committed).map fun batch => batch.2.length).sum +
        (seen.flatMap Obs.lostEvents).length := by
    have flushed : p.engine.totalEventsFlushed = _ := (run_conserves run).flushed
    rw [flushed, flushed_committed]
  constructor
  · intro truthful obs member
    by_contra lost
    obtain ⟨clock, reason, batchId, events, rfl⟩ :=
      failed_flushed (Bool.eq_true_of_not_eq_false lost)
    have none : seen.flatMap Obs.lostEvents = [] := by
      rw [truthful.counted] at counted
      exact List.eq_nil_of_length_eq_zero (by omega)
    have empty : events = [] := List.flatMap_eq_nil_iff.mp none _ member
    exact recorded.batches _ _ _ _ _ (flushed_core.mpr member) empty
  · intro commits
    have none : seen.flatMap Obs.lostEvents = [] := by
      refine List.flatMap_eq_nil_iff.mpr fun obs member => ?_
      have kept := commits obs member
      cases obs with
      | flushed =>
        obtain rfl := kept
        rfl
      | limited | pushed | moved | drained | logged | latency | single | batch | metrics
      | shutdown | threw | crashed => rfl
    constructor
    · rw [counted, none, List.length_nil, Nat.add_zero]
    · intro record member
      obtain ⟨clock, reason, batchId, events, failed, shown, own⟩ :=
        recorded.records record member
      have inside := flushed_core.mp shown
      obtain rfl : failed = false := commits _ inside
      exact ⟨(batchId, events), List.mem_flatMap.mpr ⟨_, inside, List.mem_cons_self⟩, own⟩

/-- In a run in which no draw is a failure, `totalEventsFlushed` is the number of events in the
batches that were committed and the records are of these. In every run this is so exactly when
no flush has failed. -/
theorem failed_flushes_reported (env : Env) :
    (∀ seen p, system.Run Commits (.start env) seen p → Truthful seen p) ∧
      ∀ seen p, system.AnyRun (.start env) seen p →
        (Truthful seen p ↔ ∀ obs ∈ seen, obs.failed = false) :=
  ⟨fun _ _ run => (truthful_iff run.any).mpr (run_commits run), fun _ _ run => truthful_iff run⟩

/-- Two events are flushed by a shutdown and one by the ticker, and all three are counted. -/
theorem failed_flushes_reported_three :
    ∃ seen p, system.Run Commits (.start (.calm 0)) seen p ∧
      p.engine.totalEventsFlushed = 3 ∧ Truthful seen p := by
  obtain ⟨seen, p, run, passed⟩ := System.exec_witness system Commits (.start (.calm 0))
    [.request (.calm 1) (.ingestBatch [plainEvent, plainEvent]),
      .request (.calm 2) .simulateGracefulShutdown, .fire (.calm 2002) 3,
      .request (.calm 2003) (.ingestSingle plainEvent), .fire (.calm 2010) 0,
      .fire (.calm 2050) 1]
    (fun (p, _) => p.engine.totalEventsFlushed = 3) (by decide +kernel)
  exact ⟨seen, p, run, of_decide_eq_true passed,
    (failed_flushes_reported (.calm 0)).1 seen p run⟩

/-- The write of one event fails, and the event is counted and recorded. -/
theorem failed_flush_counted :
    ∃ seen p, system.AnyRun (.start (.calm 0)) seen p ∧
      p.engine.totalEventsFlushed = 1 ∧ p.engine.persistedTimeSeries.length = 1 ∧
      seen.flatMap Obs.committed = [] ∧ ¬ Truthful seen p := by
  obtain ⟨seen, p, run, passed⟩ := System.exec_witness system System.unguarded (.start (.calm 0))
    [.request (.calm 1) (.ingestSingle plainEvent),
      .request { Env.calm 2 with failure := ⟨0, by norm_num⟩ } .simulateGracefulShutdown]
    (fun (p, seen) => p.engine.totalEventsFlushed = 1 &&
      p.engine.persistedTimeSeries.length = 1 && (seen.flatMap Obs.committed).isEmpty)
    (by decide +kernel)
  simp only [Bool.and_eq_true, decide_eq_true_eq, List.isEmpty_iff] at passed
  obtain ⟨⟨counted, records⟩, none⟩ := passed
  refine ⟨seen, p, run, counted, records, none, fun truthful => ?_⟩
  have told := truthful.counted
  rw [counted, none] at told
  contradiction

end IngestionEngine.Server
