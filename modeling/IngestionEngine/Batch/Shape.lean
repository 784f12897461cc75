import IngestionEngine.Batch.Memory
import IngestionEngine.Event.Event

/-!
# The shape of the batches

A batch is taken from the buffer by the event that completes it, by a tick or by the drain. The
first two find the buffer within the threshold; the drain adds what was left in the channel. None
of them takes an empty buffer, which the in-memory storage relies on: it reads the first event.
-/

namespace IngestionEngine.Batch

open Systems

variable {Ev : Type}

/-- How many events a batch flushed for a reason can have. -/
def Reason.Fits (threshold bufferSize : Nat) : Reason → Nat → Prop
  | .countThreshold, count => count = threshold
  | .windowTimeout, count => 1 ≤ count ∧ count ≤ threshold - 1
  | .gracefulShutdown, count => 1 ≤ count ∧ count ≤ threshold - 1 + bufferSize

/-- `DevMemoryFlusher.FlushBatch`: the count and the service of the first event, as it logs them;
it panics when there is none. -/
def DevMemoryFlusher.flushBatch (events : List Event.TelemetryEvent) : Option (Nat × String) :=
  match events with
  | [] => none
  | first :: _ => some (events.length, first.service)

/-- The batches of a run, in the buffer, on their way to `FlushBatch` and passed to it. -/
structure ShapeInv (threshold bufferSize : Nat) (seen : List (Obs Ev)) (p : Processor Ev) :
    Prop where
  /-- In the drain the buffer and the channel stay below one batch and a full channel. -/
  draining : 1 ≤ p.pc.phase → p.pc.phase ≤ 2 → NoLateSubmit seen →
    p.buffer.length + p.inCh.queue.length ≤ threshold - 1 + bufferSize
  /-- A batch that `doFlush` was given fits its reason. -/
  taken : ∀ reason events, p.pc = .doFlush reason events → NoLateSubmit seen →
    reason.Fits threshold bufferSize events.length
  /-- So does a batch that `FlushBatch` was given. -/
  called : ∀ reason events, .flushCalled reason events ∈ seen → NoLateSubmit seen →
    reason.Fits threshold bufferSize events.length

section Steps

variable {threshold bufferSize : Nat} {seen out : List (Obs Ev)} {p after : Processor Ev}

/-- A step that takes no batch keeps their shape. -/
theorem ShapeInv.stay (inv : ShapeInv threshold bufferSize seen p)
    (silent : ∀ reason events, .flushCalled reason events ∉ out)
    (draining : 1 ≤ after.pc.phase → after.pc.phase ≤ 2 → NoLateSubmit (seen ++ out) →
      after.buffer.length + after.inCh.queue.length ≤ threshold - 1 + bufferSize)
    (taken : ∀ reason events, after.pc = .doFlush reason events →
      p.pc = .doFlush reason events) : ShapeInv threshold bufferSize (seen ++ out) after where
  draining := draining
  taken reason events here quiet := inv.taken reason events (taken reason events here) quiet.prefix
  called reason events member quiet := by
    rcases List.mem_append.mp member with old | new
    · exact inv.called reason events old quiet.prefix
    · exact absurd new (silent reason events)

/-- A step that leaves the drain and takes no batch keeps their shape. -/
theorem ShapeInv.leave (inv : ShapeInv threshold bufferSize seen p)
    (silent : ∀ reason events, .flushCalled reason events ∉ out)
    (phase : after.pc.phase = 0 ∨ 3 ≤ after.pc.phase)
    (idle : ∀ reason events, after.pc ≠ .doFlush reason events) :
    ShapeInv threshold bufferSize (seen ++ out) after := by
  refine inv.stay silent ?_ fun reason events here => absurd here (idle reason events)
  intro begun still
  omega

/-- A step that takes a batch gives it to `doFlush`, outside the receive loop of the drain. -/
theorem ShapeInv.takes (inv : ShapeInv threshold bufferSize seen p) {reason : Reason}
    {events : List Ev} (here : after.pc = .doFlush reason events)
    (fits : NoLateSubmit seen → reason.Fits threshold bufferSize events.length) :
    ShapeInv threshold bufferSize (seen ++ []) after where
  draining begun still := by
    rw [here] at begun still
    cases reason <;> simp [LoopPc.phase] at begun still
  taken other batch there quiet := by
    rw [here] at there
    obtain ⟨rfl, rfl⟩ := LoopPc.doFlush.inj there
    exact fits quiet.prefix
  called other batch member quiet := by
    rw [List.append_nil] at member quiet
    exact inv.called other batch member quiet

/-- Every statement of the batch goroutine keeps the shape of the batches. -/
theorem advance_shape (positive : 1 ≤ threshold) (size : SizeInv threshold bufferSize seen p)
    (inv : ShapeInv threshold bufferSize seen p) (moved : Processor.Advance p after out) :
    ShapeInv threshold bufferSize (seen ++ out) after := by
  cases moved with
  | @lock pc free entered =>
    have phase := afterLock_phase entered
    refine inv.stay (by simp) ?_ ?_
    · intro begun still quiet
      rw [phase] at begun still
      exact inv.draining begun still quiet.prefix
    · rintro reason events rfl
      cases into : p.pc <;> simp [LoopPc.afterLock, into] at entered
  | @fill ev here full =>
    apply inv.takes rfl
    intro _
    have fits := size.running (by rw [here]; rfl)
    have same := size.limits.1
    simp only [here, LoopPc.room, LoopPc.inLoop] at fits
    show (p.buffer ++ [ev]).length = threshold
    rw [List.length_append, List.length_singleton]
    omega
  | expire here filled =>
    apply inv.takes rfl
    intro _
    have fits := size.running (by rw [here]; rfl)
    have some := List.length_pos_iff.mpr filled
    simp only [here, LoopPc.room, LoopPc.inLoop] at fits
    exact ⟨some, by omega⟩
  | last here filled =>
    apply inv.takes rfl
    intro quiet
    have second : p.pc.phase = 2 := by rw [here]; rfl
    have bound := inv.draining (by omega) (by omega) quiet
    exact ⟨List.length_pos_iff.mpr filled, by omega⟩
  | @drain ev inCh here received =>
    have first : p.pc.phase = 1 := by rw [here]; rfl
    refine inv.stay (by simp) ?_ ?_
    · intro _ _ quiet
      have bound := inv.draining (by omega) (by omega) quiet.prefix
      rw [received, List.length_cons] at bound
      simp only [List.length_append, List.length_singleton]
      omega
    · intro reason events into
      exact into
  | drainStop here empty =>
    have first : p.pc.phase = 1 := by rw [here]; rfl
    refine inv.stay (by simp) ?_ (by simp)
    intro _ _ quiet
    exact inv.draining (by omega) (by omega) quiet.prefix
  | append | expireIdle => exact inv.leave (by simp) (.inl rfl) (by simp)
  | lastIdle | finish => exact inv.leave (by simp) (.inr (Nat.le_succ 3)) (by simp)
  | @skip reason here | @stamp reason here =>
    cases reason with
    | countThreshold | windowTimeout =>
      exact inv.leave (by simp) (.inl rfl) (by simp [Reason.resume])
    | gracefulShutdown =>
      exact inv.leave (by simp) (.inr (Nat.le_succ 3)) (by simp [Reason.resume])
  | @count reason events here =>
    cases reason with
    | countThreshold | windowTimeout => exact inv.leave (by simp) (.inl rfl) (by simp)
    | gracefulShutdown => exact inv.leave (by simp) (.inr (Nat.le_succ 3)) (by simp)
  | @call reason events here filled =>
    refine ⟨fun begun still => ?_, by simp, fun other batch member quiet => ?_⟩
    · cases reason <;> simp [LoopPc.phase] at begun still
    · rcases List.mem_append.mp member with old | new
      · exact inv.called other batch old quiet.prefix
      · obtain ⟨rfl, rfl⟩ := Obs.flushCalled.inj (List.mem_singleton.mp new)
        exact inv.taken _ _ here quiet.prefix

/-- Every step keeps the shape of the batches. -/
theorem step_shape {action : Act Ev} (positive : 1 ≤ threshold) (drain : DrainInv seen p)
    (size : SizeInv threshold bufferSize seen p) (inv : ShapeInv threshold bufferSize seen p)
    (stepped : p.step action = some (after, out)) :
    ShapeInv threshold bufferSize (seen ++ out) after := by
  -- the drain begins with a buffer below the threshold
  have begins (runs : p.pc.phase = 0) :
      p.buffer.length + p.inCh.queue.length ≤ threshold - 1 + bufferSize := by
    have fits := size.running runs
    have channel := p.inCh.bounded
    have capacity := size.limits.2
    unfold LoopPc.room at fits
    omega
  cases Processor.step_cases stepped with
  | submit moved =>
    cases moved with
    | meet => exact inv.leave (by simp) (.inl rfl) (by simp)
    | queue running room sent =>
      refine inv.stay (by simp) (fun begun still quiet => ?_) fun reason events here => here
      have late := quiet.later (drain.stopped (drain.cancelled begun))
      simp [Obs.accepted] at late
    | refuse =>
      exact inv.stay (by simp) (fun begun still quiet => inv.draining begun still quiet.prefix)
        fun reason events here => here
  | tickWakes => exact inv.leave (by simp) (.inl rfl) (by simp)
  | tickWaits | cancelWaits | metricsLock | metricsUnlock =>
    exact inv.stay (by simp) (fun begun still quiet => inv.draining begun still quiet.prefix)
      fun reason events here => here
  | cancelWakes parked =>
    exact inv.stay (by simp) (fun _ _ _ => begins (by rw [parked]; rfl)) (by simp)
  | select here moved =>
    cases moved with
    | done => exact inv.stay (by simp) (fun _ _ _ => begins (by rw [here]; rfl)) (by simp)
    | receive | ticker | block => exact inv.leave (by simp) (.inl rfl) (by simp)
  | advance moved => exact advance_shape positive size inv moved
  | @flushStored reason events here | @flushFailed reason events here =>
    cases reason with
    | countThreshold | windowTimeout =>
      exact inv.leave (by simp) (.inl rfl) (by simp [Reason.resume])
    | gracefulShutdown =>
      exact inv.leave (by simp) (.inr (Nat.le_succ 3)) (by simp [Reason.resume])

end Steps

/-- In every run the batches keep their shape. -/
theorem run_shape {threshold bufferSize : Nat} {guard : Processor Ev → Act Ev → Prop}
    (positive : 1 ≤ threshold) {seen : List (Obs Ev)} {p : Processor Ev}
    (run : (system Ev).Run guard (.start threshold bufferSize) seen p) :
    ShapeInv threshold bufferSize seen p := by
  induction run with
  | start => exact ⟨nofun, nofun, nofun⟩
  | next before permitted stepped ih =>
    obtain ⟨drain, size⟩ := run_bounds positive before
    exact step_shape positive drain size ih stepped

/-- No step passes an empty batch to `FlushBatch`. -/
theorem step_filled {p after : Processor Ev} {action : Act Ev} {out : List (Obs Ev)}
    (stepped : p.step action = some (after, out)) {reason : Reason} {events : List Ev}
    (called : .flushCalled reason events ∈ out) : events ≠ [] := by
  cases Processor.step_cases stepped with
  | submit | tickWakes | tickWaits | cancelWakes | cancelWaits | metricsLock | metricsUnlock
  | select | flushStored | flushFailed => simp at called
  | advance moved =>
    cases moved with
    | call here filled =>
      obtain ⟨rfl, rfl⟩ := Obs.flushCalled.inj (List.mem_singleton.mp called)
      exact filled
    | lock | fill | append | expire | expireIdle | drain | drainStop | last | lastIdle | skip
    | count | stamp | finish => simp at called

/-- In every run no batch passed to `FlushBatch` is empty. -/
theorem run_filled {threshold bufferSize : Nat} {guard : Processor Ev → Act Ev → Prop}
    {seen : List (Obs Ev)} {p : Processor Ev}
    (run : (system Ev).Run guard (.start threshold bufferSize) seen p) :
    ∀ reason events, .flushCalled reason events ∈ seen → events ≠ [] := by
  refine run.invariant (fun seen _ => ∀ reason events, .flushCalled reason events ∈ seen →
    events ≠ []) nofun ?_
  intro seen p action after out filled _ stepped reason events called
  rcases List.mem_append.mp called with old | new
  · exact filled reason events old
  · exact step_filled stepped new

/-- In every run the in-memory storage finds the event that it reads in every batch. -/
theorem dev_flusher_returns {threshold bufferSize : Nat} {seen : List (Obs Event.TelemetryEvent)}
    {p : Processor Event.TelemetryEvent}
    (run : (system Event.TelemetryEvent).AnyRun (.start threshold bufferSize) seen p)
    {reason : Reason} {events : List Event.TelemetryEvent}
    (called : .flushCalled reason events ∈ seen) :
    (DevMemoryFlusher.flushBatch events).isSome = true := by
  cases events with
  | nil => exact absurd rfl (run_filled run reason [] called)
  | cons first rest => rfl

/-- In every run in which no `Submit` succeeds after the cancel, each batch passed to `FlushBatch`
has an event and as many as its reason allows: the threshold, fewer than that, or what is left of
one batch and a full channel. At the head of the loop the buffer is below the threshold. -/
theorem batch_shape {threshold bufferSize : Nat} (positive : 1 ≤ threshold)
    {seen : List (Obs Ev)} {p : Processor Ev}
    (run : (system Ev).AnyRun (.start threshold bufferSize) seen p) (quiet : NoLateSubmit seen) :
    (∀ reason events, .flushCalled reason events ∈ seen →
        events ≠ [] ∧ reason.Fits threshold bufferSize events.length) ∧
      (p.pc = .select ∨ p.pc = .parked → p.buffer.length < threshold) := by
  constructor
  · intro reason events called
    exact ⟨run_filled run reason events called,
      (run_shape positive run).called reason events called quiet⟩
  · intro head
    have runs : p.pc.phase = 0 := by rcases head with here | here <;> rw [here] <;> rfl
    have fits := (run_bounds positive run).2.running runs
    have room : 1 ≤ p.pc.room := Nat.le_max_left 1 _
    omega

/-- With a threshold of two a full batch, a tick and a drain flush two events, one and two. -/
theorem batch_shape_three :
    ∃ seen p, (system Nat).AnyRun (.start 2 1) seen p ∧
      .flushCalled .countThreshold [1, 2] ∈ seen ∧ .flushCalled .windowTimeout [3] ∈ seen ∧
      .flushCalled .gracefulShutdown [4, 5] ∈ seen ∧
      (∀ reason events, .flushCalled reason events ∈ seen →
        events ≠ [] ∧ reason.Fits 2 1 events.length) := by
  obtain ⟨seen, p, run, passed⟩ := System.exec_witness (system Nat) System.unguarded (.start 2 1)
    [.submit 1, .select .inCh, .advance, .advance, .submit 2, .select .inCh, .advance, .advance,
      .advance, .flushReturns true, .advance, .advance, .advance, .submit 3, .select .inCh,
      .advance, .advance, .tick, .select .ticker, .advance, .advance, .advance,
      .flushReturns false, .submit 4, .select .inCh, .advance, .advance, .submit 5, .cancel,
      .select .done, .advance, .advance, .advance, .advance, .advance]
    (fun (_, seen) => seen = [.submitted 1 true, .submitted 2 true,
      .flushCalled .countThreshold [1, 2], .flushReturned .countThreshold [1, 2] true,
      .submitted 3 true, .flushCalled .windowTimeout [3], .flushReturned .windowTimeout [3] false,
      .submitted 4 true, .submitted 5 true, .stopped, .flushCalled .gracefulShutdown [4, 5]])
    (by decide)
  rw [decide_eq_true_eq] at passed
  subst passed
  have kept := batch_shape (by decide) run (by simp [NoLateSubmit, afterStop, Obs.accepted])
  exact ⟨_, p, run, by simp, by simp, by simp, kept.1⟩

end IngestionEngine.Batch
