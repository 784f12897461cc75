import IngestionEngine.Batch.Flow

/-!
# How many events the processor holds

While it runs, the buffer and the hands of the batch goroutine stay within the threshold. In the
drain the buffer grows past it, but only by events that leave the channel, as long as nothing is
accepted any more. In either phase the processor holds no more than fits the channel and one
batch.
-/

namespace IngestionEngine.Batch

open Systems

variable {Ev : Type}

/-- The events in the hands of the batch goroutine: the one it received, or the batch that it
takes to `FlushBatch` and holds until that has returned and been counted. -/
def LoopPc.inLoop : LoopPc Ev → Nat
  | .received _ | .appending _ => 1
  | .doFlush _ events | .flushing _ events | .committed _ events => events.length
  | .select | .parked | .ticked | .checking | .cancelled | .draining | .drained | .stamping _
  | .stamped _ | .unlocking | .returned => 0

/-- What the goroutine takes up of the threshold; where its hands are empty it may be about to
receive an event. -/
def LoopPc.room (pc : LoopPc Ev) : Nat := max 1 pc.inLoop

/-- The events in the channel, in the buffer and in the hands of the batch goroutine. -/
def Processor.held (p : Processor Ev) : Nat :=
  p.inCh.queue.length + p.buffer.length + p.pc.inLoop

/-- How many events the processor holds. -/
structure SizeInv (threshold bufferSize : Nat) (seen : List (Obs Ev)) (p : Processor Ev) :
    Prop where
  /-- The threshold and the capacity stay. -/
  limits : p.threshold = threshold ∧ p.inCh.capacity = bufferSize
  /-- While the processor runs, one more event still fits the threshold. -/
  running : p.pc.phase = 0 → p.buffer.length + p.pc.room ≤ threshold
  /-- In the shutdown the channel and one batch bound what is held. -/
  draining : 1 ≤ p.pc.phase → NoLateSubmit seen → p.held ≤ bufferSize + threshold

/-- No step changes the capacity of the channel. -/
theorem step_capacity {p after : Processor Ev} {action : Act Ev} {out : List (Obs Ev)}
    (stepped : p.step action = some (after, out)) : after.inCh.capacity = p.inCh.capacity := by
  have received {ev : Ev} {inCh : Channel Ev} (taken : p.inCh.tryReceive = some (ev, inCh)) :
      inCh.capacity = p.inCh.capacity := (Channel.tryReceive_some taken).2
  cases Processor.step_cases stepped with
  | submit moved =>
    cases moved with
    | meet | refuse => rfl
    | queue running room sent same => exact same
  | tickWakes | tickWaits | cancelWakes | cancelWaits | metricsLock | metricsUnlock
  | flushStored | flushFailed => rfl
  | @select chosen _ here moved =>
    simp only [Processor.step, here, Option.map_eq_some_iff, Prod.mk.injEq] at stepped
    obtain ⟨next, selected, rfl, _⟩ := stepped
    cases chosen with
    | inCh =>
      simp only [Processor.select] at selected
      split at selected
      · rename_i ev inCh taken
        rw [← Option.some.inj selected]
        exact received taken
      · contradiction
    | done | ticker | block =>
      simp only [Processor.select, Option.ite_none_right_eq_some, Option.some.injEq] at selected
      rw [← selected.2]
  | advance moved =>
    cases moved with
    | drain here =>
      simp only [Processor.step, Processor.advance, here] at stepped
      split at stepped
      · rename_i ev inCh taken
        rw [← congrArg (fun q => q.1.inCh) (Option.some.inj stepped)]
        exact received taken
      · rename_i nothing
        rw [← congrArg (fun q => q.1.inCh) (Option.some.inj stepped)]
    | lock | fill | append | expire | expireIdle | drainStop | last | lastIdle | skip | call
    | count | stamp | finish => rfl

/-- No step changes the threshold. -/
theorem step_threshold {p after : Processor Ev} {action : Act Ev} {out : List (Obs Ev)}
    (stepped : p.step action = some (after, out)) : after.threshold = p.threshold := by
  cases Processor.step_cases stepped with
  | submit moved | select _ moved | advance moved => cases moved <;> rfl
  | tickWakes | tickWaits | cancelWakes | cancelWaits | metricsLock | metricsUnlock
  | flushStored | flushFailed => rfl

/-- No `p.mu.Lock()` moves an event. -/
theorem afterLock_inLoop {pc next : LoopPc Ev} (entered : pc.afterLock = some next) :
    next.inLoop = pc.inLoop := by
  cases pc <;> cases entered <;> rfl

section Steps

variable {threshold bufferSize : Nat} {seen out : List (Obs Ev)} {p after : Processor Ev}

/-- A step after which the hands hold no more, and nothing else has moved, keeps the bounds. -/
theorem SizeInv.stay (inv : SizeInv threshold bufferSize seen p)
    (limits : after.threshold = p.threshold ∧ after.inCh = p.inCh)
    (buffer : after.buffer = p.buffer) (fewer : after.pc.inLoop ≤ p.pc.inLoop)
    (phase : after.pc.phase = 0 ↔ p.pc.phase = 0) :
    SizeInv threshold bufferSize (seen ++ out) after where
  limits := by
    rw [limits.1, limits.2]
    exact inv.limits
  running := by
    intro runs
    have before := inv.running (phase.mp runs)
    unfold LoopPc.room at before ⊢
    rw [buffer]
    omega
  draining := by
    intro begun quiet
    have before := inv.draining (by omega) quiet.prefix
    unfold Processor.held at before ⊢
    rw [limits.2, buffer]
    omega

/-- A step of the running goroutine keeps the bounds if it keeps to the threshold. -/
theorem SizeInv.runs (inv : SizeInv threshold bufferSize seen p)
    (limits : after.threshold = p.threshold ∧ after.inCh.capacity = p.inCh.capacity)
    (phase : after.pc.phase = 0) (fits : after.buffer.length + after.pc.room ≤ threshold) :
    SizeInv threshold bufferSize (seen ++ out) after where
  limits := by
    rw [limits.1, limits.2]
    exact inv.limits
  running := fun _ => fits
  draining := by
    intro begun
    omega

/-- A step of the shutdown keeps the bounds if what is held does not grow. -/
theorem SizeInv.drains (inv : SizeInv threshold bufferSize seen p)
    (limits : after.threshold = p.threshold ∧ after.inCh.capacity = p.inCh.capacity)
    (begun : 1 ≤ p.pc.phase ∧ 1 ≤ after.pc.phase) (fewer : after.held ≤ p.held) :
    SizeInv threshold bufferSize (seen ++ out) after where
  limits := by
    rw [limits.1, limits.2]
    exact inv.limits
  running := by
    intro runs
    omega
  draining := by
    intro _ quiet
    exact Nat.le_trans fewer (inv.draining begun.1 quiet.prefix)

/-- The shutdown begins with a buffer that one more event fits and with empty hands. -/
theorem SizeInv.begins (inv : SizeInv threshold bufferSize seen p)
    (limits : after.threshold = p.threshold ∧ after.inCh = p.inCh)
    (buffer : after.buffer = p.buffer) (ran : p.pc.phase = 0)
    (begun : after.pc.phase = 1 ∧ after.pc.inLoop = 0) :
    SizeInv threshold bufferSize (seen ++ out) after where
  limits := by
    rw [limits.1, limits.2]
    exact inv.limits
  running := by
    intro runs
    omega
  draining := by
    intro _ _
    have before := inv.running ran
    have channel := p.inCh.bounded
    have capacity := inv.limits.2
    unfold LoopPc.room at before
    unfold Processor.held
    rw [limits.2, buffer]
    omega

/-- Every statement of the batch goroutine keeps the bounds. -/
theorem advance_size (inv : SizeInv threshold bufferSize seen p)
    (stepped : p.step .advance = some (after, out)) (moved : Processor.Advance p after out) :
    SizeInv threshold bufferSize (seen ++ out) after := by
  have limits : after.threshold = p.threshold ∧ after.inCh.capacity = p.inCh.capacity :=
    ⟨step_threshold stepped, step_capacity stepped⟩
  cases moved with
  | lock free entered =>
    have hands := afterLock_inLoop entered
    have phase := afterLock_phase entered
    exact inv.stay ⟨rfl, rfl⟩ rfl (Nat.le_of_eq hands) (by rw [phase])
  | @fill ev here full =>
    have fits := inv.running (by rw [here]; rfl)
    rw [here] at fits
    apply inv.runs limits rfl
    simp only [LoopPc.room, LoopPc.inLoop, List.length_append, List.length_cons,
      List.length_nil] at fits ⊢
    omega
  | @append ev here below =>
    have same := inv.limits.1
    apply inv.runs limits rfl
    simp only [LoopPc.room, LoopPc.inLoop, List.length_append, List.length_cons,
      List.length_nil]
    omega
  | expire here filled =>
    have fits := inv.running (by rw [here]; rfl)
    rw [here] at fits
    apply inv.runs limits rfl
    simp only [LoopPc.room, LoopPc.inLoop, List.length_nil] at fits ⊢
    omega
  | expireIdle here empty =>
    have fits := inv.running (by rw [here]; rfl)
    rw [here] at fits
    exact inv.runs limits rfl fits
  | @drain ev inCh here received =>
    have begun : p.pc.phase = 1 := by rw [here]; rfl
    apply inv.drains limits ⟨Nat.le_of_eq begun.symm, Nat.le_of_eq begun.symm⟩
    simp only [Processor.held, received, List.length_append, List.length_cons, List.length_nil]
    omega
  | drainStop here empty =>
    have begun : p.pc.phase = 1 := by rw [here]; rfl
    apply inv.drains limits ⟨by omega, by simp [LoopPc.phase]⟩
    simp [Processor.held, here, LoopPc.inLoop]
  | last here filled =>
    have begun : p.pc.phase = 2 := by rw [here]; rfl
    apply inv.drains limits ⟨by omega, by simp [LoopPc.phase]⟩
    simp [Processor.held, here, LoopPc.inLoop]
  | lastIdle here empty =>
    have begun : p.pc.phase = 2 := by rw [here]; rfl
    apply inv.drains limits ⟨by omega, by simp [LoopPc.phase]⟩
    simp [Processor.held, here, LoopPc.inLoop]
  | @skip reason here | @stamp reason here =>
    refine inv.stay ⟨rfl, rfl⟩ rfl ?_ ?_
    · cases reason <;> exact Nat.zero_le _
    · rw [here]
      cases reason <;> simp [LoopPc.phase, Reason.resume]
  | @call reason events here =>
    refine inv.stay ⟨rfl, rfl⟩ rfl ?_ ?_
    · rw [here]
      exact Nat.le_refl _
    · rw [here]
      cases reason <;> simp [LoopPc.phase]
  | @count reason events here =>
    refine inv.stay ⟨rfl, rfl⟩ rfl ?_ ?_
    · exact Nat.zero_le _
    · rw [here]
      cases reason <;> simp [LoopPc.phase]
  | finish here =>
    refine inv.stay ⟨rfl, rfl⟩ rfl ?_ ?_
    · exact Nat.zero_le _
    · simp [here, LoopPc.phase]

/-- Every step keeps the bounds. -/
theorem step_size {action : Act Ev} (drain : DrainInv seen p)
    (inv : SizeInv threshold bufferSize seen p) (stepped : p.step action = some (after, out)) :
    SizeInv threshold bufferSize (seen ++ out) after := by
  have limits : after.threshold = p.threshold ∧ after.inCh.capacity = p.inCh.capacity :=
    ⟨step_threshold stepped, step_capacity stepped⟩
  -- a goroutine that waits in its `select` leaves room for what wakes it
  have waiting (waits : p.pc = .parked ∨ p.pc = .select) : p.buffer.length + 1 ≤ threshold := by
    rcases waits with here | here
    · have fits := inv.running (by rw [here]; rfl)
      rwa [here] at fits
    · have fits := inv.running (by rw [here]; rfl)
      rwa [here] at fits
  cases Processor.step_cases stepped with
  | submit moved =>
    cases moved with
    | meet parked => exact inv.runs limits rfl (waiting (.inl parked))
    | queue running room sent same =>
      refine ⟨⟨inv.limits.1, limits.2.trans inv.limits.2⟩, inv.running, fun begun quiet => ?_⟩
      have late := quiet.later (drain.stopped (drain.cancelled begun))
      simp [Obs.accepted] at late
    | refuse => exact inv.stay ⟨rfl, rfl⟩ rfl (Nat.le_refl _) Iff.rfl
  | tickWakes parked => exact inv.runs limits rfl (waiting (.inl parked))
  | tickWaits | cancelWaits | metricsLock | metricsUnlock =>
    exact inv.stay ⟨rfl, rfl⟩ rfl (Nat.le_refl _) Iff.rfl
  | cancelWakes parked =>
    exact inv.begins ⟨rfl, rfl⟩ rfl (by rw [parked]; rfl) ⟨rfl, rfl⟩
  | select here moved =>
    cases moved with
    | done cancelled => exact inv.begins ⟨rfl, rfl⟩ rfl (by rw [here]; rfl) ⟨rfl, rfl⟩
    | receive front => exact inv.runs limits rfl (waiting (.inr here))
    | ticker fired => exact inv.runs limits rfl (waiting (.inr here))
    | block running quiet empty => exact inv.runs limits rfl (waiting (.inr here))
  | advance moved => exact advance_size inv stepped moved
  | @flushStored reason events here =>
    refine inv.stay ⟨rfl, rfl⟩ rfl ?_ ?_
    · rw [here]
      exact Nat.le_refl _
    · rw [here]
      cases reason <;> simp [LoopPc.phase]
  | @flushFailed reason events here =>
    refine inv.stay ⟨rfl, rfl⟩ rfl ?_ ?_
    · cases reason <;> exact Nat.zero_le _
    · rw [here]
      cases reason <;> simp [LoopPc.phase, Reason.resume]

end Steps

/-- In every run the guarantees of the phases and the bounds hold. -/
theorem run_bounds {threshold bufferSize : Nat} {guard : Processor Ev → Act Ev → Prop}
    (positive : 1 ≤ threshold) {seen : List (Obs Ev)} {p : Processor Ev}
    (run : (system Ev).Run guard (.start threshold bufferSize) seen p) :
    DrainInv seen p ∧ SizeInv threshold bufferSize seen p := by
  apply run.invariant fun seen p => DrainInv seen p ∧ SizeInv threshold bufferSize seen p
  · constructor
    · constructor <;> simp [Processor.start, LoopPc.phase]
    · refine ⟨⟨rfl, rfl⟩, fun _ => ?_, fun begun => ?_⟩
      · show 0 + 1 ≤ threshold
        omega
      · simp [Processor.start, LoopPc.phase] at begun
  · intro seen p action after out kept _ stepped
    exact ⟨step_drain kept.1 stepped, step_size kept.1 kept.2 stepped⟩

/-- In every run in which nothing is accepted after the cancel, the processor holds no more than
fits its channel and one batch. -/
theorem run_size {threshold bufferSize : Nat} {guard : Processor Ev → Act Ev → Prop}
    (positive : 1 ≤ threshold) {seen : List (Obs Ev)} {p : Processor Ev}
    (run : (system Ev).Run guard (.start threshold bufferSize) seen p)
    (quiet : NoLateSubmit seen) : p.held ≤ bufferSize + threshold := by
  have inv := (run_bounds positive run).2
  rcases Nat.eq_zero_or_pos p.pc.phase with runs | begun
  · have fits := inv.running runs
    have channel := p.inCh.bounded
    have capacity := inv.limits.2
    unfold LoopPc.room at fits
    unfold Processor.held
    omega
  · exact inv.draining begun quiet

namespace Processor

/-- Outside the drain the buffer stays below the threshold, or empty where that is 0. -/
def BelowThreshold (threshold : Nat) (p : Processor Ev) : Prop :=
  p.threshold = threshold ∧
    (p.pc ≠ .draining → p.pc ≠ .drained → p.buffer.length < max 1 threshold)

/-- Every step keeps it there. -/
theorem step_below {threshold : Nat} {p after : Processor Ev} {action : Act Ev}
    {out : List (Obs Ev)} (below : p.BelowThreshold threshold)
    (stepped : p.step action = some (after, out)) : after.BelowThreshold threshold := by
  obtain ⟨same, below⟩ := below
  have stays (buffer : after.buffer = p.buffer) (limit : after.threshold = p.threshold)
      (outside : p.pc ≠ .draining ∧ p.pc ≠ .drained) : after.BelowThreshold threshold := by
    refine ⟨limit.trans same, fun _ _ => ?_⟩
    rw [buffer]
    exact below outside.1 outside.2
  have empties (buffer : after.buffer = []) (limit : after.threshold = p.threshold) :
      after.BelowThreshold threshold := by
    refine ⟨limit.trans same, fun _ _ => ?_⟩
    rw [buffer]
    exact Nat.lt_of_lt_of_le Nat.one_pos (Nat.le_max_left _ _)
  cases step_cases stepped with
  | submit moved =>
    cases moved with
    | meet waiting => exact stays rfl rfl (by simp [waiting])
    | queue | refuse => exact ⟨same, below⟩
  | tickWakes waiting | cancelWakes waiting => exact stays rfl rfl (by simp [waiting])
  | tickWaits | cancelWaits | metricsLock | metricsUnlock => exact ⟨same, below⟩
  | select here moved => cases moved <;> exact stays rfl rfl (by simp [here])
  | flushStored here | flushFailed here => exact stays rfl rfl (by simp [here])
  | advance moved =>
    cases moved with
    | @lock pc free entered =>
      apply stays rfl rfl
      constructor
      · intro here
        rw [here] at entered
        contradiction
      · intro here
        rw [here] at entered
        contradiction
    | fill | expire | last => exact empties rfl rfl
    | lastIdle here empty => exact empties empty rfl
    | append here fits =>
      refine ⟨same, fun _ _ => ?_⟩
      rw [List.length_append, ← same]
      exact Nat.lt_of_lt_of_le fits (Nat.le_max_right _ _)
    | expireIdle here empty => exact empties empty rfl
    | drain here => exact ⟨same, fun outside _ => absurd here outside⟩
    | drainStop => exact ⟨same, fun _ outside => absurd rfl outside⟩
    | skip here | call here | count here | stamp here => exact stays rfl rfl (by simp [here])
    | finish here => exact stays rfl rfl (by simp [here])

end Processor

/-- In every run the buffer stays below the threshold outside the drain. -/
theorem run_below {threshold bufferSize : Nat} {guard : Processor Ev → Act Ev → Prop}
    {seen : List (Obs Ev)} {p : Processor Ev}
    (run : (system Ev).Run guard (.start threshold bufferSize) seen p) :
    p.BelowThreshold threshold := by
  apply run.state_invariant (Processor.BelowThreshold threshold)
  · exact ⟨rfl, fun _ _ => Nat.lt_of_lt_of_le Nat.one_pos (Nat.le_max_left _ _)⟩
  · intro p action after out below _ stepped
    exact Processor.step_below below stepped

end IngestionEngine.Batch
