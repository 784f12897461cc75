import IngestionEngine.Server.Buffer
import IngestionEngine.Server.Limiter

/-!
# How many events a flush writes

The tick of the workers looks at the threshold only when it has put its whole chunk into the buffer,
unlike the batch processor, which looks at it after each event. So a batch is no larger than the
threshold exactly as long as no chunk reaches beyond it.
-/

namespace IngestionEngine.Server

open Systems Program

/-- A tick of the workers that moves events puts no more into the buffer than the threshold. -/
def ChunkFits (p : Process) (action : Act) : Prop :=
  ∀ timer ∈ p.loop.timers, timer.task = .workers → action.fires timer.id = true →
    p.engine.Ticks → (JsNum.ofNat p.engine.moved.batchBuffer.length).le p.engine.batchThreshold =
      true

/-- The configuration is left alone, and every chunk fits. -/
def ChunksFit (p : Process) (action : Act) : Prop := action.isConfig = false ∧ ChunkFits p action

instance (e : Engine) : Decidable e.Ticks := inferInstanceAs (Decidable (_ ∧ _ ∧ _))

instance (p : Process) (action : Act) : Decidable (ChunkFits p action) :=
  inferInstanceAs (Decidable (∀ timer ∈ p.loop.timers, timer.task = .workers →
    action.fires timer.id = true → p.engine.Ticks →
    (JsNum.ofNat p.engine.moved.batchBuffer.length).le p.engine.batchThreshold = true))

instance (p : Process) (action : Act) : Decidable (ChunksFit p action) :=
  inferInstanceAs (Decidable (action.isConfig = false ∧ ChunkFits p action))

/-- The flush has at least one event and at most as many as the threshold, unless a shutdown made
it. -/
def Obs.Sized (threshold : ℚ) : Obs → Prop
  | .flushed _ .gracefulShutdown _ _ _ => True
  | .flushed _ .countThreshold _ events _ | .flushed _ .windowTimeout _ events _ =>
    1 ≤ events.length ∧ (events.length : ℚ) ≤ threshold
  | _ => True

section Sizes

variable {threshold : ℚ} {p after : Process} {action : Act} {out : List Obs}

/-- At a fixed configuration the buffer stays below the threshold. -/
theorem step_short (other : action.isConfig = false) (short : ¬ p.engine.Full)
    (stepped : step p action = some (after, out)) : ¬ after.engine.Full := by
  rcases step_buffer stepped with kept | short
  · have same : after.engine.batchThreshold = p.engine.batchThreshold :=
      congrFun (congrArg Config.clamped (step_config_same other stepped)) .batchThreshold
    unfold Engine.Full at short ⊢
    rw [kept, same]
    exact short
  · exact short

/-- A buffer that is not full has fewer events than the threshold. -/
theorem below_of_short {e : Engine} (set : e.batchThreshold = .fin threshold)
    (some : e.batchBuffer.length ≠ 0) (short : ¬ e.Full) :
    (e.batchBuffer.length : ℚ) < threshold := by
  by_contra reached
  apply short
  refine ⟨some, ?_⟩
  rw [set, JsNum.ofNat_fin, JsNum.le_fin]
  exact not_lt.mp reached

/-- A step whose chunk fits flushes batches that are no larger than the threshold. -/
theorem step_sized (set : p.engine.batchThreshold = .fin threshold) (short : ¬ p.engine.Full)
    (fits : ChunkFits p action) (stepped : step p action = some (after, out)) :
    ∀ obs ∈ out, obs.Sized threshold := by
  intro obs member
  cases obs with
  | flushed clock reason batchId events failed =>
    cases step_flushes stepped member with
    | @count env timer live task fires ticks full batch =>
      subst fires
      have within := fits timer live task (decide_eq_true rfl) ticks
      rw [set, JsNum.ofNat_fin, JsNum.le_fin] at within
      rw [batch]
      exact ⟨Nat.one_le_iff_ne_zero.mpr full.1, within⟩
    | window some batch =>
      rw [batch]
      exact ⟨Nat.one_le_iff_ne_zero.mpr some, le_of_lt (below_of_short set some short)⟩
    | shutdown => trivial
  | limited | pushed | moved | drained | logged | latency | single | batch | metrics | shutdown
  | threw | crashed => trivial

/-- A tick whose chunk does not fit flushes a batch that is larger than the threshold. -/
theorem step_oversized (set : p.engine.batchThreshold = .fin threshold) (positive : 0 ≤ threshold)
    (large : ¬ ChunkFits p action) (stepped : step p action = some (after, out)) :
    ∃ clock batchId events failed,
      .flushed clock .countThreshold batchId events failed ∈ out ∧ threshold < events.length := by
  unfold ChunkFits at large
  push Not at large
  obtain ⟨timer, live, task, fires, ticks, above⟩ := large
  cases action with
  | request env request => contradiction
  | fire env id =>
    obtain rfl : id = timer.id := of_decide_eq_true fires
    have ran := fire_workers live task stepped
    rw [set, JsNum.ofNat_fin, ne_eq, JsNum.le_fin, not_le] at above
    have full : p.engine.moved.Full := by
      refine ⟨?_, ?_⟩
      · intro empty
        rw [empty, Nat.cast_zero] at above
        exact absurd positive (not_le.mpr above)
      · have same : p.engine.moved.batchThreshold = .fin threshold := set
        rw [same, JsNum.ofNat_fin, JsNum.le_fin]
        exact le_of_lt above
    obtain ⟨q, entry, tick, _⟩ := run_workerTick_full env (p := p.fired env timer) ticks full
    rw [tick] at ran
    obtain ⟨_, rfl⟩ := Prod.mk.inj ran
    exact ⟨_, _, _, _, List.mem_cons_of_mem _ List.mem_cons_self, above⟩

end Sizes

/-- In a run at a fixed configuration, from a buffer below the threshold, every batch that the
workers or the ticker flush has at least one event and at most as many as the threshold, as long as
every chunk fits. The first chunk that does not is flushed as a larger batch. -/
theorem flush_size {threshold : ℚ} {init : Process}
    (set : init.engine.batchThreshold = .fin threshold)
    (range : 100 ≤ threshold ∧ threshold ≤ 50000) (short : ¬ init.engine.Full) :
    (∀ seen p, system.Run ChunksFit init seen p → ∀ obs ∈ seen, obs.Sized threshold) ∧
      ∀ seen p action after out, system.Run (fun _ action => action.isConfig = false) init seen p →
        ¬ ChunkFits p action → step p action = some (after, out) →
        ∃ clock batchId events failed,
          .flushed clock .countThreshold batchId events failed ∈ out ∧
            threshold < events.length := by
  constructor
  · intro seen p run
    have kept := run.invariant (fun seen p => p.engine.batchThreshold = .fin threshold ∧
      ¬ p.engine.Full ∧ ∀ obs ∈ seen, obs.Sized threshold) ⟨set, short, by simp⟩ ?_
    · exact kept.2.2
    · rintro seen p action after out ⟨set, short, sized⟩ ⟨other, fits⟩ stepped
      refine ⟨?_, step_short other short stepped, ?_⟩
      · have same := step_config_same other stepped
        exact (congrFun (congrArg Config.clamped same) .batchThreshold).trans set
      · exact List.forall_mem_append.mpr ⟨sized, step_sized set short fits stepped⟩
  · intro seen p action after out run large stepped
    have kept : p.engine.batchThreshold = .fin threshold := by
      refine run.state_invariant (fun p => p.engine.batchThreshold = .fin threshold) set ?_
      intro p action after out set other stepped
      have same := step_config_same other stepped
      exact (congrFun (congrArg Config.clamped same) .batchThreshold).trans set
    exact step_oversized kept (by linarith only [range.1]) large stepped

/-- A request that sets the threshold to 100. -/
def leastThreshold : Request := .updateConfig (.obj [("batchThreshold", .num 100)])

/-- A process whose threshold was set to 100 before anything else. -/
def Process.least : Process :=
  ((leastThreshold.call (.calm 0)).run ((Process.start (.calm 0)).begin (.calm 0))).state

/-- A run reaches it. -/
theorem least_reached : ∃ before, system.AnyRun (.start (.calm 0)) before .least := by
  have permitted : System.unguarded (Process.start (.calm 0))
      (Act.request (.calm 0) leastThreshold) := trivial
  have stepped : step (.start (.calm 0)) (.request (.calm 0) leastThreshold) = some (.least, _) :=
    step_request_state rfl
  exact ⟨_, .next .start permitted stepped⟩

/-- It has the threshold, and an empty buffer. -/
theorem least_set : Process.least.engine.batchThreshold = .fin 100 ∧ ¬ Process.least.engine.Full :=
  ⟨by decide +kernel, not_full_of_empty rfl⟩

/-- Two events are moved by one tick, and the ticker flushes both. -/
theorem flush_size_window : ∃ seen p, system.Run ChunksFit .least seen p ∧
    (seen.flatMap Obs.flushedEvents).length = 2 ∧ ∀ obs ∈ seen, obs.Sized 100 := by
  obtain ⟨seen, p, run, passed⟩ := System.exec_witness system ChunksFit .least
    [.request (.calm 1) (.ingestBatch [plainEvent, plainEvent]), .fire (.calm 10) 0,
      .fire (.calm 500) 1]
    (fun last => (last.2.flatMap Obs.flushedEvents).length = 2) (by decide +kernel)
  obtain ⟨set, short⟩ := least_set
  have sized := (flush_size set (by norm_num) short).1 seen p run
  exact ⟨seen, p, run, of_decide_eq_true passed, sized⟩

/-- The sizes of the batches that the workers have flushed. -/
def Obs.countSizes : Obs → List Nat
  | .flushed _ .countThreshold _ events _ => [events.length]
  | _ => []

/-- One tick moves a batch of 101 events, and flushes all of them for a threshold of 100. -/
theorem flush_oversized : ∃ before seen p, system.AnyRun (.start (.calm 0)) before .least ∧
    system.Run (fun _ action => action.isConfig = false) .least seen p ∧
    p.engine.batchThreshold = .fin 100 ∧ 101 ∈ seen.flatMap Obs.countSizes ∧
    ¬ ∀ obs ∈ seen, obs.Sized 100 := by
  obtain ⟨before, reached⟩ := least_reached
  obtain ⟨seen, p, run, passed⟩ := System.exec_witness system
    (fun _ action => action.isConfig = false) .least
    [.request (.calm 1) (.ingestBatch (List.replicate 101 plainEvent)), .fire (.calm 10) 0]
    (fun last => last.1.engine.batchThreshold = .fin 100 &&
      101 ∈ last.2.flatMap Obs.countSizes)
    (by decide +kernel)
  simp only [Bool.and_eq_true, decide_eq_true_eq] at passed
  obtain ⟨set, large⟩ := passed
  refine ⟨before, seen, p, reached, run, set, large, fun sized => ?_⟩
  obtain ⟨obs, member, size⟩ := List.mem_flatMap.mp large
  have bound := sized obs member
  unfold Obs.countSizes at size
  split at size
  · have most := bound.2
    rw [← List.mem_singleton.mp size] at most
    norm_num at most
  · contradiction

end IngestionEngine.Server
