import IngestionEngine.Server.Sources
import IngestionEngine.Server.Stall
import IngestionEngine.Systems.Window

/-!
# The capped histories

The engine keeps a log, a sample of latencies and the records of its last batches, each up to a
size of its own. Every method adds to them only what it shows, one entry after the other, so they
are what a system does that only records. That system keeps the newest entries of each history.
-/

namespace IngestionEngine.Server

open Systems Program

/-- What the engine records. -/
inductive Entry where
  /-- `addLog` adds an entry. -/
  | log (entry : StructuredLog)
  /-- `recordLatency` adds a latency. -/
  | latency (ms : ℚ)
  /-- `triggerFlush` adds the records of a batch. -/
  | flush (env : Env) (batchId : Nat) (events : List TelemetryEvent)

/-- The log entry. -/
def Entry.logs : Entry → List StructuredLog
  | .log entry => [entry]
  | .latency _ | .flush _ _ _ => []

/-- The latency. -/
def Entry.latencies : Entry → List ℚ
  | .latency ms => [ms]
  | .log _ | .flush _ _ _ => []

/-- The number of the batch. -/
def Entry.batches : Entry → List Nat
  | .flush _ batchId _ => [batchId]
  | .log _ | .latency _ => []

/-- The records of the first events of the batch, with its number. -/
def Entry.records : Entry → List PersistedRecord
  | .flush env batchId events =>
    (events.take 50).zipIdx.map fun numbered =>
      persistedRecord env batchId numbered.1 numbered.2
  | .log _ | .latency _ => []

/-- What an observation says was recorded, with the surroundings that the records are made of. -/
def Obs.entries (env : Env) : Obs → List Entry
  | .logged entry => [.log entry]
  | .latency ms => [.latency ms]
  | .flushed _ _ batchId events _ => [.flush env batchId events]
  | _ => []

/-- The histories of the engine. -/
structure Histories where
  /-- `totalBatchesFlushed` -/
  totalBatchesFlushed : Nat
  /-- `persistedTimeSeries` -/
  persistedTimeSeries : List PersistedRecord
  /-- `recentLogs` -/
  recentLogs : List StructuredLog
  /-- `latencies` -/
  latencies : List ℚ

/-- An entry is recorded; a batch has the next number. -/
def Histories.step (h : Histories) : Entry → Option (Histories × List Entry)
  | .log entry => some ({ h with recentLogs := pushLog entry h.recentLogs }, [.log entry])
  | .latency ms => some ({ h with latencies := pushLatency ms h.latencies }, [.latency ms])
  | .flush env batchId events =>
    if batchId = h.totalBatchesFlushed + 1 then
      some ({ h with
          totalBatchesFlushed := batchId
          persistedTimeSeries :=
            ((Entry.flush env batchId events).records.reverse ++ h.persistedTimeSeries).take 300 },
        [.flush env batchId events])
    else none

section Methods

variable {α : Type} (env : Env)

end Methods

/-! ### Runs of the recorder -/

/-- The process before the constructor runs. -/
def Process.blank (env : Env) : Process where
  engine := .fresh env.clock
  loop := .empty env.clock
  crashed := false

/-- Everything recorded by the constructor and then by the steps, in order. -/
def recorded (env : Env) (history : List (Act × List Obs)) : List Entry :=
  ((construct env).run (.blank env)).out.flatMap (Obs.entries env) ++
    history.flatMap fun taken => taken.2.flatMap (Obs.entries taken.1.env)

/-- The histories are the newest entries of what was recorded, and the batches are numbered from one
on. -/
structure Histories.Windows (entries : List Entry) (h : Histories) : Prop where
  /-- The numbers of the batches. -/
  numbers : entries.flatMap Entry.batches = List.range' 1 h.totalBatchesFlushed
  /-- The numbers of the records are in order. -/
  ordered : (entries.flatMap Entry.records).Pairwise fun old new => old.batchId ≤ new.batchId
  /-- None is above the number of the last batch. -/
  bounded : ∀ record ∈ entries.flatMap Entry.records, record.batchId ≤ h.totalBatchesFlushed
  /-- `persistedTimeSeries` -/
  records : h.persistedTimeSeries = newest 300 (entries.flatMap Entry.records)
  /-- `recentLogs` -/
  logs : h.recentLogs = newest maxLogs (entries.flatMap Entry.logs)
  /-- `latencies` -/
  latencies : h.latencies = (entries.flatMap Entry.latencies).rtake 500

/-- The records of a batch have its number. -/
theorem records_batchId {env : Env} {batchId : Nat} {events : List TelemetryEvent}
    {record : PersistedRecord} (member : record ∈ (Entry.flush env batchId events).records) :
    record.batchId = batchId := by
  obtain ⟨numbered, _, rfl⟩ := List.mem_map.mp member
  rfl

/-- An entry that is no batch keeps the windows if it is put into its own. -/
theorem Histories.Windows.keep {entries : List Entry} {h after : Histories} {entry : Entry}
    (windows : h.Windows entries) (batches : entry.batches = []) (records : entry.records = [])
    (total : after.totalBatchesFlushed = h.totalBatchesFlushed)
    (series : after.persistedTimeSeries = h.persistedTimeSeries)
    (logs : after.recentLogs = newest maxLogs (entries.flatMap Entry.logs ++ entry.logs))
    (latencies : after.latencies =
      (entries.flatMap Entry.latencies ++ entry.latencies).rtake 500) :
    after.Windows (entries ++ [entry]) := by
  constructor
  all_goals simp only [List.flatMap_append, List.flatMap_singleton, batches, records,
    List.append_nil, total, series]
  · exact windows.numbers
  · exact windows.ordered
  · exact windows.bounded
  · exact windows.records
  · exact logs
  · exact latencies

/-- A new log entry keeps the windows. -/
theorem Histories.Windows.log {entries : List Entry} {h : Histories} (windows : h.Windows entries)
    (entry : StructuredLog) :
    ({ h with recentLogs := pushLog entry h.recentLogs } : Histories).Windows
      (entries ++ [.log entry]) := by
  have logs : pushLog entry h.recentLogs =
      newest maxLogs (entries.flatMap Entry.logs ++ [entry]) := by
    rw [windows.logs]
    exact newest_pop _ entry
  have latencies : h.latencies = (entries.flatMap Entry.latencies ++ []).rtake 500 := by
    rw [List.append_nil]
    exact windows.latencies
  exact windows.keep rfl rfl rfl rfl logs latencies

/-- A new latency keeps the windows. -/
theorem Histories.Windows.latency {entries : List Entry} {h : Histories}
    (windows : h.Windows entries) (ms : ℚ) :
    ({ h with latencies := pushLatency ms h.latencies } : Histories).Windows
      (entries ++ [.latency ms]) := by
  have logs : h.recentLogs = newest maxLogs (entries.flatMap Entry.logs ++ []) := by
    rw [List.append_nil]
    exact windows.logs
  have latencies : pushLatency ms h.latencies =
      (entries.flatMap Entry.latencies ++ [ms]).rtake 500 := by
    rw [windows.latencies]
    exact rtake_shift _ ms
  exact windows.keep rfl rfl rfl rfl logs latencies

/-- A new batch keeps the windows. -/
theorem Histories.Windows.flush {entries : List Entry} {h : Histories} (windows : h.Windows entries)
    (env : Env) (events : List TelemetryEvent) :
    ({ h with
      totalBatchesFlushed := h.totalBatchesFlushed + 1
      persistedTimeSeries := ((Entry.flush env (h.totalBatchesFlushed + 1)
        events).records.reverse ++ h.persistedTimeSeries).take 300 } : Histories).Windows
      (entries ++ [.flush env (h.totalBatchesFlushed + 1) events]) := by
  have below : ∀ record ∈ entries.flatMap Entry.records,
      record.batchId < h.totalBatchesFlushed + 1 :=
    fun record member => Nat.lt_succ_of_le (windows.bounded record member)
  constructor
  all_goals simp only [List.flatMap_append, List.flatMap_singleton]
  · rw [windows.numbers, List.range'_1_concat, Nat.add_comm]
    rfl
  · rw [List.pairwise_append]
    refine ⟨windows.ordered, ?_, ?_⟩
    · apply List.pairwise_of_forall_mem_list
      intro old first new second
      rw [records_batchId first, records_batchId second]
    · intro old first new second
      rw [records_batchId second]
      exact (below old first).le
  · intro record member
    rcases List.mem_append.mp member with old | new
    · exact (below record old).le
    · exact (records_batchId new).le
  · rw [windows.records]
    exact (newest_append _ _).symm
  · rw [windows.logs, Entry.logs, List.append_nil]
  · rw [windows.latencies, Entry.latencies, List.append_nil]

end IngestionEngine.Server
