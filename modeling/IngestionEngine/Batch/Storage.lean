import IngestionEngine.Batch.Durability

/-!
# The processor over the MongoDB storage

`MongoStorage.FlushBatch` passes a batch to an unordered `BulkWrite` of the driver and reports its
error. The driver is a parameter: it is given which inserts fail. `FlushBatch` returns nothing but
an error, so `doFlush` counts a batch as a whole or not at all, also one of which a part was
inserted.
-/

namespace IngestionEngine.Batch

open Systems

variable {Ev : Type}

/-- The documents of a batch whose insert does not fail, by their index. -/
def surviving (fails : Nat → Bool) (models : List Ev) : List Ev :=
  (models.zipIdx.filter fun model => !fails model.2).map Prod.fst

/-- A batch without a failing insert survives as a whole. -/
theorem surviving_all {fails : Nat → Bool} {models : List Ev}
    (none : ∀ index, index < models.length → fails index = false) :
    surviving fails models = models := by
  have kept : models.zipIdx.filter (fun model => !fails model.2) = models.zipIdx := by
    rw [List.filter_eq_self]
    intro model member
    have inside : model.2 < models.length := by
      have bounds := List.snd_lt_of_mem_zipIdx member
      omega
    simp [none model.2 inside]
  rw [surviving, kept, List.zipIdx_map_fst]

/-- The driver, as far as an unordered `BulkWrite` of inserts goes: the documents that it inserts,
and its error. -/
structure Driver (Ev : Type) where
  /-- `BulkWrite`, given which of the inserts fail. -/
  bulkWrite : (Nat → Bool) → List Ev → List Ev × Option String

/-- An unordered `BulkWrite` attempts each insert, and has an error if one of them fails. -/
structure Driver.Unordered (driver : Driver Ev) : Prop where
  /-- The inserts that do not fail are made. -/
  inserts : ∀ fails models, (driver.bulkWrite fails models).1 = surviving fails models
  /-- Only a failing insert is an error. -/
  errs : ∀ fails models, (driver.bulkWrite fails models).2.isSome = true ↔
    ∃ index, index < models.length ∧ fails index = true

/-- `MongoStorage.FlushBatch`: the documents inserted, and the error. -/
def MongoStorage.flushBatch (driver : Driver Ev) (fails : Nat → Bool) (events : List Ev) :
    List Ev × Option String :=
  if events.length = 0 then ([], none)
  else
    let (inserted, err) := driver.bulkWrite fails events
    match err with
    | some text => (inserted, some ("bulk write error: " ++ text))
    | none => (inserted, none)

/-- The processor and the collection that it writes to. -/
structure Stored (Ev : Type) where
  /-- The processor. -/
  processor : Processor Ev
  /-- The documents inserted. -/
  collection : List Ev

/-- What an observer of the processor and its storage sees. -/
inductive StoredObs (Ev : Type) where
  /-- What the processor shows. -/
  | processor (shown : Obs Ev)
  /-- `BulkWrite` inserted some documents, and had an error or not. -/
  | inserted (documents : List Ev) (failed : Bool)
  deriving DecidableEq

/-- The steps of the processor and its storage. -/
inductive StoredAct (Ev : Type) where
  /-- A step of the processor other than the return of `FlushBatch`. -/
  | processor (action : Act Ev)
  /-- `FlushBatch` returns, after some inserts failed. -/
  | flush (fails : Nat → Bool)

/-- The batch inside `FlushBatch` is written. -/
def Stored.flush (driver : Driver Ev) (s : Stored Ev) (fails : Nat → Bool) :
    Option (Stored Ev × List (StoredObs Ev)) :=
  let (inserted, err) := MongoStorage.flushBatch driver fails s.processor.pc.inFlight
  match s.processor.flushReturns err.isNone with
  | none => none
  | some (after, out) =>
    some (⟨after, s.collection ++ inserted⟩,
      .inserted inserted err.isSome :: out.map .processor)

/-- One atomic step. -/
def Stored.step (driver : Driver Ev) (s : Stored Ev) :
    StoredAct Ev → Option (Stored Ev × List (StoredObs Ev))
  | .processor (.flushReturns _) => none
  | .processor action =>
    match s.processor.step action with
    | none => none
    | some (after, out) => some (⟨after, s.collection⟩, out.map .processor)
  | .flush fails => s.flush driver fails

/-- The processor and its storage as a system. -/
def storedSystem (driver : Driver Ev) : System (Stored Ev) (StoredAct Ev) (StoredObs Ev) :=
  ⟨Stored.step driver⟩

/-- The processor at its start, over a collection without a document of it. -/
def Stored.start (threshold bufferSize : Nat) : Stored Ev := ⟨.start threshold bufferSize, []⟩

/-- What the processor shows of a step. -/
def StoredObs.ofProcessor : StoredObs Ev → List (Obs Ev)
  | .processor shown => [shown]
  | .inserted _ _ => []

/-- The documents that a batch without an error put into the collection. -/
def StoredObs.whole : StoredObs Ev → List Ev
  | .inserted documents false => documents
  | _ => []

/-- The documents that a batch with an error put into the collection. -/
def StoredObs.part : StoredObs Ev → List Ev
  | .inserted documents true => documents
  | _ => []

/-- The events of a batch that was written and is about to be counted. -/
def LoopPc.uncounted : LoopPc Ev → Nat
  | .committed _ events => events.length
  | _ => 0

/-- The goroutine is inside `doFlush`. -/
def LoopPc.inDoFlush : LoopPc Ev → Bool
  | .doFlush _ _ | .flushing _ _ | .committed _ _ | .stamping _ | .stamped _ => true
  | _ => false

/-- `FlushBatch` inserts what survives. -/
theorem flushBatch_inserted {driver : Driver Ev} (unordered : driver.Unordered)
    (fails : Nat → Bool) (events : List Ev) :
    (MongoStorage.flushBatch driver fails events).1 = surviving fails events := by
  have inserts := unordered.inserts fails events
  unfold MongoStorage.flushBatch
  split
  · rename_i empty
    rw [List.length_eq_zero_iff.mp empty]
    rfl
  · dsimp only
    split <;> exact inserts

/-- `FlushBatch` returns an error if some insert failed. -/
theorem flushBatch_failed {driver : Driver Ev} (unordered : driver.Unordered)
    (fails : Nat → Bool) (events : List Ev) :
    (MongoStorage.flushBatch driver fails events).2.isSome = true ↔
      ∃ index, index < events.length ∧ fails index = true := by
  have errs := unordered.errs fails events
  unfold MongoStorage.flushBatch
  split
  · rename_i empty
    simp [empty]
  · dsimp only
    split
    · rename_i text failed
      rw [failed] at errs
      exact errs
    · rename_i clean
      rw [clean] at errs
      exact errs

/-- A batch for which `FlushBatch` returns nil is in the collection as a whole. -/
theorem flushBatch_whole {driver : Driver Ev} (unordered : driver.Unordered) (fails : Nat → Bool)
    (events : List Ev) (clean : (MongoStorage.flushBatch driver fails events).2 = none) :
    (MongoStorage.flushBatch driver fails events).1 = events := by
  rw [flushBatch_inserted unordered]
  apply surviving_all
  intro index inside
  rw [Bool.eq_false_iff]
  intro fail
  have failed := (flushBatch_failed unordered fails events).mpr ⟨index, inside, fail⟩
  rw [clean] at failed
  contradiction

namespace Processor

/-- A step other than the return of `FlushBatch` counts only what was written. -/
theorem step_uncounted {p after : Processor Ev} {action : Act Ev} {out : List (Obs Ev)}
    (other : ∀ stored, action ≠ .flushReturns stored)
    (stepped : p.step action = some (after, out)) :
    after.totalFlushed + after.pc.uncounted = p.totalFlushed + p.pc.uncounted := by
  cases step_cases stepped with
  | submit moved =>
    cases moved with
    | meet waiting => simp [waiting, LoopPc.uncounted]
    | queue | refuse => rfl
  | tickWakes waiting | cancelWakes waiting => simp [waiting, LoopPc.uncounted]
  | tickWaits | cancelWaits | metricsLock | metricsUnlock => rfl
  | select here moved => cases moved <;> simp [here, LoopPc.uncounted]
  | advance moved =>
    cases moved with
    | @lock pc free entered =>
      have same : pc.uncounted = p.pc.uncounted := by
        cases into : p.pc <;> rw [into] at entered <;> cases entered <;> rfl
      simp only [same]
    | @skip reason here | @stamp reason here =>
      cases reason <;> simp [here, LoopPc.uncounted, Reason.resume]
    | count here => simp [here, LoopPc.uncounted]
    | fill here | append here | expire here | expireIdle here | drain here | drainStop here
    | last here | lastIdle here | call here | finish here => simp [here, LoopPc.uncounted]
  | flushStored => exact absurd rfl (other true)
  | flushFailed => exact absurd rfl (other false)

/-- The return of `FlushBatch` leaves a written batch to be counted. -/
theorem flushReturns_uncounted {p after : Processor Ev} {stored : Bool} {out : List (Obs Ev)}
    (returned : p.flushReturns stored = some (after, out)) :
    after.totalFlushed + after.pc.uncounted =
      p.totalFlushed + p.pc.uncounted + if stored then p.pc.inFlight.length else 0 := by
  have moved : p.step (.flushReturns stored) = some (after, out) := returned
  cases step_cases moved with
  | flushStored here => simp [here, LoopPc.uncounted, LoopPc.inFlight]
  | @flushFailed reason events here =>
    cases reason <;> simp [here, LoopPc.uncounted, Reason.resume]

end Processor

/-- Everything a step of the processor and its storage can do. -/
inductive StoredStep (driver : Driver Ev) (s : Stored Ev) :
    StoredAct Ev → Stored Ev → List (StoredObs Ev) → Prop where
  /-- The processor takes a step, and the storage none. -/
  | processor {action : Act Ev} {after : Processor Ev} {out : List (Obs Ev)}
      (other : ∀ stored, action ≠ .flushReturns stored)
      (moved : s.processor.step action = some (after, out)) :
      StoredStep driver s (.processor action) ⟨after, s.collection⟩ (out.map .processor)
  /-- `FlushBatch` returns. -/
  | flush {fails : Nat → Bool} {inserted : List Ev} {err : Option String} {after : Processor Ev}
      {out : List (Obs Ev)}
      (wrote : MongoStorage.flushBatch driver fails s.processor.pc.inFlight = (inserted, err))
      (returned : s.processor.flushReturns err.isNone = some (after, out)) :
      StoredStep driver s (.flush fails) ⟨after, s.collection ++ inserted⟩
        (.inserted inserted err.isSome :: out.map .processor)

/-- `step` does nothing else. -/
theorem stored_cases {driver : Driver Ev} {s after : Stored Ev} {action : StoredAct Ev}
    {out : List (StoredObs Ev)} (stepped : s.step driver action = some (after, out)) :
    StoredStep driver s action after out := by
  cases action with
  | processor action =>
    have moved (other : ∀ stored, action ≠ .flushReturns stored)
        (same : s.step driver (.processor action) =
          match s.processor.step action with
          | none => none
          | some (after, out) => some (⟨after, s.collection⟩, out.map .processor)) :
        StoredStep driver s (.processor action) after out := by
      rw [same] at stepped
      split at stepped
      · contradiction
      · rename_i next shown moved
        obtain ⟨rfl, rfl⟩ := stepped
        exact .processor other moved
    cases action with
    | flushReturns stored => contradiction
    | submit | tick | cancel | metricsLock | metricsUnlock | select | advance =>
      exact moved nofun rfl
  | flush fails =>
    simp only [Stored.step, Stored.flush] at stepped
    split at stepped
    · contradiction
    · rename_i next shown returned
      obtain ⟨rfl, rfl⟩ := stepped
      exact .flush rfl returned

/-- What the processor shows is read back. -/
theorem ofProcessor_map (out : List (Obs Ev)) :
    (out.map StoredObs.processor).flatMap StoredObs.ofProcessor = out ∧
      (out.map StoredObs.processor).flatMap StoredObs.whole = [] ∧
      (out.map StoredObs.processor).flatMap StoredObs.part = [] := by
  induction out with
  | nil => exact ⟨rfl, rfl, rfl⟩
  | cons first rest ih =>
    obtain ⟨shown, whole, part⟩ := ih
    refine ⟨?_, whole, part⟩
    rw [List.map_cons, List.flatMap_cons, shown]
    rfl

/-- What the return of `FlushBatch` shows is read back. -/
theorem ofFlush_map (inserted : List Ev) (failed : Bool) (shown : List (Obs Ev)) :
    (StoredObs.inserted inserted failed :: shown.map .processor).flatMap StoredObs.ofProcessor =
        shown ∧
      (StoredObs.inserted inserted failed :: shown.map .processor).flatMap StoredObs.whole =
        (if failed then [] else inserted) ∧
      (StoredObs.inserted inserted failed :: shown.map .processor).flatMap StoredObs.part =
        (if failed then inserted else []) := by
  obtain ⟨shows, noWhole, noPart⟩ := ofProcessor_map shown
  refine ⟨shows, ?_, ?_⟩
  · rw [List.flatMap_cons, noWhole, List.append_nil]
    cases failed <;> rfl
  · rw [List.flatMap_cons, noPart, List.append_nil]
    cases failed <;> rfl

/-- The processor over its storage is a processor. -/
theorem run_processor {driver : Driver Ev} {threshold bufferSize : Nat}
    {guard : Stored Ev → StoredAct Ev → Prop} {seen : List (StoredObs Ev)} {s : Stored Ev}
    (run : (storedSystem driver).Run guard (.start threshold bufferSize) seen s) :
    (system Ev).AnyRun (.start threshold bufferSize) (seen.flatMap StoredObs.ofProcessor)
      s.processor := by
  refine run.project Stored.processor StoredObs.ofProcessor ?_
  intro seen state action after out _ _ stepped
  cases stored_cases stepped with
  | @processor action next shown other moved =>
    refine .inr ⟨action, trivial, ?_⟩
    rw [(ofProcessor_map shown).1]
    exact moved
  | @flush fails inserted err next shown wrote returned =>
    refine .inr ⟨.flushReturns err.isNone, trivial, ?_⟩
    rw [(ofFlush_map inserted err.isSome shown).1]
    exact returned

/-- Where the documents of a run are counted. -/
structure StoredInv (seen : List (StoredObs Ev)) (s : Stored Ev) : Prop where
  /-- `totalFlushed` counts the batches without an error. -/
  counted : s.processor.totalFlushed + s.processor.pc.uncounted =
    (seen.flatMap StoredObs.whole).length
  /-- These are in the collection as a whole. -/
  whole : seen.flatMap StoredObs.whole =
    (seen.flatMap StoredObs.ofProcessor).flatMap Obs.stored
  /-- The collection has nothing but documents of some batch. -/
  collected : s.collection.length =
    (seen.flatMap StoredObs.whole).length + (seen.flatMap StoredObs.part).length

/-- Only the return of `FlushBatch` shows a written batch. -/
theorem step_stored_silent {p after : Processor Ev} {action : Act Ev} {out : List (Obs Ev)}
    (other : ∀ stored, action ≠ .flushReturns stored)
    (stepped : p.step action = some (after, out)) : out.flatMap Obs.stored = [] := by
  cases Processor.step_cases stepped with
  | submit | tickWakes | tickWaits | cancelWakes | cancelWaits | metricsLock | metricsUnlock
  | select => rfl
  | advance moved => cases moved <;> rfl
  | flushStored => exact absurd rfl (other true)
  | flushFailed => exact absurd rfl (other false)

/-- The return of `FlushBatch` shows the batch that was in flight. -/
theorem flushReturns_stored {p after : Processor Ev} {stored : Bool} {out : List (Obs Ev)}
    (returned : p.flushReturns stored = some (after, out)) :
    out.flatMap Obs.stored = if stored then p.pc.inFlight else [] := by
  have moved : p.step (.flushReturns stored) = some (after, out) := returned
  cases Processor.step_cases moved with
  | flushStored here => simp [here, LoopPc.inFlight, Obs.stored]
  | flushFailed here => rfl

/-- Every step keeps count of the documents. -/
theorem step_stored {driver : Driver Ev} (unordered : driver.Unordered)
    {seen out : List (StoredObs Ev)} {s after : Stored Ev} {action : StoredAct Ev}
    (inv : StoredInv seen s) (stepped : s.step driver action = some (after, out)) :
    StoredInv (seen ++ out) after := by
  obtain ⟨counted, whole, collected⟩ := inv
  cases stored_cases stepped with
  | @processor action next shown other moved =>
    obtain ⟨shows, noWhole, noPart⟩ := ofProcessor_map shown
    have uncounted := Processor.step_uncounted other moved
    refine ⟨?_, ?_, ?_⟩
    · rw [List.flatMap_append, noWhole, List.append_nil, ← counted]
      exact uncounted
    · rw [List.flatMap_append, List.flatMap_append, List.flatMap_append, noWhole, shows,
        step_stored_silent other moved, whole]
    · rw [List.flatMap_append, List.flatMap_append, noWhole, noPart, List.append_nil,
        List.append_nil]
      exact collected
  | @flush fails inserted err next shown wrote returned =>
    obtain ⟨shows, added, part⟩ := ofFlush_map inserted err.isSome shown
    have uncounted := Processor.flushReturns_uncounted returned
    have stored := flushReturns_stored returned
    -- a batch without an error was inserted as a whole
    have inFlight (clean : err = none) : inserted = s.processor.pc.inFlight := by
      have every := flushBatch_whole unordered fails s.processor.pc.inFlight
      rw [wrote] at every
      exact every clean
    refine ⟨?_, ?_, ?_⟩
    · rw [uncounted, counted, List.flatMap_append, added, List.length_append]
      cases err with
      | none => rw [inFlight rfl]; rfl
      | some text => rfl
    · rw [List.flatMap_append, List.flatMap_append, List.flatMap_append, added, shows, stored,
        whole]
      cases err with
      | none => rw [inFlight rfl]; rfl
      | some text => rfl
    · rw [List.flatMap_append, List.flatMap_append, added, part, List.length_append,
        List.length_append, List.length_append, collected]
      cases err with
      | none =>
        show _ + inserted.length = _ + inserted.length + (_ + 0)
        omega
      | some text =>
        show _ + inserted.length = _ + 0 + (_ + inserted.length)
        omega

/-- In every run the documents are counted where they belong. -/
theorem run_stored {driver : Driver Ev} (unordered : driver.Unordered) {threshold bufferSize : Nat}
    {guard : Stored Ev → StoredAct Ev → Prop} {seen : List (StoredObs Ev)} {s : Stored Ev}
    (run : (storedSystem driver).Run guard (.start threshold bufferSize) seen s) :
    StoredInv seen s := by
  refine run.invariant StoredInv ⟨rfl, rfl, rfl⟩ ?_
  intro seen s action after out inv _ stepped
  exact step_stored unordered inv stepped

/-- Outside `doFlush`, `totalFlushed` is the number of documents of the batches for which
`FlushBatch` returned nil, all of which are inserted; the collection has beside them the documents
that were inserted of a batch with a failing insert, which are not counted. -/
theorem flushed_documents {driver : Driver Ev} (unordered : driver.Unordered)
    {threshold bufferSize : Nat} {seen : List (StoredObs Ev)} {s : Stored Ev}
    (run : (storedSystem driver).AnyRun (.start threshold bufferSize) seen s)
    (outside : s.processor.pc.inDoFlush = false) :
    s.processor.totalFlushed = (seen.flatMap StoredObs.whole).length ∧
      seen.flatMap StoredObs.whole =
        (seen.flatMap StoredObs.ofProcessor).flatMap Obs.stored ∧
      s.collection.length =
        s.processor.totalFlushed + (seen.flatMap StoredObs.part).length := by
  obtain ⟨counted, whole, collected⟩ := run_stored unordered run
  have nothing : s.processor.pc.uncounted = 0 := by
    cases here : s.processor.pc with
    | committed reason events => simp [here, LoopPc.inDoFlush] at outside
    | _ => rfl
  rw [nothing, Nat.add_zero] at counted
  exact ⟨counted, whole, by rw [collected, counted]⟩

/-- A driver that attempts each insert. -/
def Driver.independent : Driver Ev where
  bulkWrite fails models :=
    (surviving fails models,
      if (List.range models.length).any fails then some "write exception" else none)

/-- It is unordered. -/
theorem independent_unordered : (Driver.independent : Driver Ev).Unordered where
  inserts _ _ := rfl
  errs fails models := by
    simp only [Driver.independent]
    split
    · rename_i some
      simpa using some
    · rename_i none
      simpa using none

/-- A batch of two is written as a whole, and one event of the next batch. -/
def partlyWritten : List (StoredAct Nat) :=
  [.processor (.submit 1), .processor (.select .inCh), .processor .advance, .processor .advance,
    .processor (.submit 2), .processor (.select .inCh), .processor .advance, .processor .advance,
    .processor .advance, .flush fun _ => false, .processor .advance, .processor .advance,
    .processor .advance, .processor (.submit 3), .processor (.select .inCh), .processor .advance,
    .processor .advance, .processor (.submit 1), .processor (.select .inCh), .processor .advance,
    .processor .advance, .processor .advance, .flush fun index => index = 1]

/-- The first batch is counted, and the inserted event of the second one is not. -/
theorem flushed_documents_part :
    ∃ seen s, (storedSystem (Driver.independent : Driver Nat)).AnyRun (.start 2 1) seen s ∧
      s.processor.totalFlushed = 2 ∧ s.collection = [1, 2, 3] ∧
      s.collection.length = 2 + (seen.flatMap StoredObs.part).length := by
  obtain ⟨seen, s, run, passed⟩ := System.exec_witness
    (storedSystem (Driver.independent : Driver Nat)) System.unguarded (.start 2 1) partlyWritten
    (fun (s, _) => s.processor.totalFlushed = 2 && s.collection = [1, 2, 3] &&
      s.processor.pc.inDoFlush = false) (by decide)
  simp only [Bool.and_eq_true, decide_eq_true_eq] at passed
  obtain ⟨⟨two, collection⟩, outside⟩ := passed
  have kept := flushed_documents independent_unordered run outside
  rw [two] at kept
  exact ⟨seen, s, run, two, collection, kept.2.2⟩

/-- `totalFlushed` is not the number of documents inserted. -/
theorem flushed_documents_missed :
    ¬ ∀ (driver : Driver Nat) (threshold bufferSize : Nat) (seen : List (StoredObs Nat))
      (s : Stored Nat), driver.Unordered →
      (storedSystem driver).AnyRun (.start threshold bufferSize) seen s →
      s.processor.pc.inDoFlush = false → s.processor.totalFlushed = s.collection.length := by
  intro counted
  obtain ⟨seen, s, run, passed⟩ := System.exec_witness
    (storedSystem (Driver.independent : Driver Nat)) System.unguarded (.start 2 1) partlyWritten
    (fun (s, _) => s.processor.totalFlushed = 2 && s.collection.length = 3 &&
      s.processor.pc.inDoFlush = false) (by decide)
  simp only [Bool.and_eq_true, decide_eq_true_eq] at passed
  obtain ⟨⟨two, three⟩, outside⟩ := passed
  have same := counted Driver.independent 2 1 seen s independent_unordered run outside
  omega

end IngestionEngine.Batch
