import IngestionEngine.Batch.Processor

/-!
# The order in which the processor hands events to the storage

Everything the processor holds is one sequence: the batch taken from the buffer, the
buffer, the event in the hand of the loop and the inbound channel, oldest first. A step
moves events along that sequence, takes its front to `FlushBatch` or adds an accepted
event to its end, and does nothing else to it.
-/

namespace IngestionEngine.Batch

open Systems

variable {Ev : Type}

/-- The events whose `Submit` returned true. -/
def Obs.accepted : Obs Ev → List Ev
  | .submitted ev true => [ev]
  | _ => []

/-- The events passed to `FlushBatch`. -/
def Obs.flushed : Obs Ev → List Ev
  | .flushCalled _ events => events
  | _ => []

/-- The batch that was taken from the buffer and not yet passed to `FlushBatch`. -/
def LoopPc.taken : LoopPc Ev → List Ev
  | .doFlush _ events => events
  | _ => []

/-- The event in the hand of the loop. -/
def LoopPc.held : LoopPc Ev → List Ev
  | .received ev | .appending ev => [ev]
  | _ => []

namespace Processor

/-- Everything accepted and not yet passed to `FlushBatch`, oldest first. -/
def pending (p : Processor Ev) : List Ev :=
  p.pc.taken ++ p.buffer ++ p.pc.held ++ p.inCh.queue

/-- A goroutine blocks in its `select` only while nothing is ready. -/
def Idle (p : Processor Ev) : Prop :=
  p.pc = .parked → p.inCh.queue = [] ∧ p.tickerC = false ∧ p.ctxDone = false

/-- No `p.mu.Lock()` moves an event. -/
theorem afterLock_flow {pc next : LoopPc Ev} (entered : pc.afterLock = some next) :
    next.taken = pc.taken ∧ next.held = pc.held := by
  cases pc <;> cases entered <;> exact ⟨rfl, rfl⟩

/-- No `p.mu.Lock()` blocks the goroutine in its `select`. -/
theorem afterLock_parked {pc next : LoopPc Ev} (entered : pc.afterLock = some next) :
    next ≠ .parked := by
  cases pc <;> cases entered <;> exact nofun

/-- What is pending before a step and what the step accepts is what the step flushes and
what is pending after it, in that order. -/
theorem step_pending {p after : Processor Ev} {action : Act Ev} {out : List (Obs Ev)}
    (idle : p.Idle) (stepped : p.step action = some (after, out)) :
    p.pending ++ out.flatMap Obs.accepted = out.flatMap Obs.flushed ++ after.pending := by
  cases step_cases stepped with
  | submit moved =>
    cases moved with
    | meet waiting =>
      simp [pending, waiting, (idle waiting).1, LoopPc.taken, LoopPc.held, Obs.accepted,
        Obs.flushed]
    | queue running room sent => simp [pending, sent, Obs.accepted, Obs.flushed]
    | refuse => simp [Obs.accepted, Obs.flushed]
  | tickWakes waiting | cancelWakes waiting =>
    simp [pending, waiting, LoopPc.taken, LoopPc.held, Obs.accepted, Obs.flushed]
  | tickWaits | cancelWaits | metricsLock | metricsUnlock =>
    simp [pending, Obs.accepted, Obs.flushed]
  | select here moved =>
    cases moved with
    | receive front => simp [pending, here, front, LoopPc.taken, LoopPc.held]
    | _ => simp [pending, here, LoopPc.taken, LoopPc.held]
  | advance moved =>
    cases moved with
    | lock free entered =>
      obtain ⟨taken, held⟩ := afterLock_flow entered
      simp [pending, taken, held]
    | drain here received => simp [pending, here, received, LoopPc.taken, LoopPc.held]
    | @skip reason here | @stamp reason here =>
      cases reason <;> simp [pending, here, LoopPc.taken, LoopPc.held, Reason.resume]
    | call here filled =>
      simp [pending, here, LoopPc.taken, LoopPc.held, Obs.flushed, Obs.accepted]
    | fill here | append here | expire here | expireIdle here | drainStop here | last here
    | lastIdle here | count here | finish here =>
      simp [pending, here, LoopPc.taken, LoopPc.held]
  | flushStored here =>
    simp [pending, here, LoopPc.taken, LoopPc.held, Obs.flushed, Obs.accepted]
  | @flushFailed reason events here =>
    cases reason <;>
      simp [pending, here, LoopPc.taken, LoopPc.held, Reason.resume, Obs.flushed, Obs.accepted]

/-- Blocking only when nothing is ready is kept by every step. -/
theorem step_idle {p after : Processor Ev} {action : Act Ev} {out : List (Obs Ev)}
    (idle : p.Idle) (stepped : p.step action = some (after, out)) : after.Idle := by
  intro parked
  cases step_cases stepped with
  | submit moved =>
    cases moved with
    | meet => contradiction
    | queue running => exact absurd parked running
    | refuse => exact idle parked
  | tickWakes | cancelWakes => contradiction
  | tickWaits running | cancelWaits running => exact absurd parked running
  | metricsLock | metricsUnlock => exact idle parked
  | select here moved =>
    cases moved with
    | block running quiet empty => exact ⟨empty, quiet, running⟩
    | _ => contradiction
  | advance moved =>
    cases moved with
    | lock free entered => exact absurd parked (afterLock_parked entered)
    | @skip reason | @stamp reason => cases reason <;> contradiction
    | drain here => simp [here] at parked
    | _ => contradiction
  | flushStored => contradiction
  | @flushFailed reason => cases reason <;> contradiction

end Processor

/-- In every run the accepted events are the flushed ones followed by the pending ones, in
the order of their sends, and the goroutine blocks only when nothing is ready. -/
theorem run_pending {threshold bufferSize : Nat} {guard : Processor Ev → Act Ev → Prop}
    {seen : List (Obs Ev)} {p : Processor Ev}
    (run : (system Ev).Run guard (.start threshold bufferSize) seen p) :
    seen.flatMap Obs.accepted = seen.flatMap Obs.flushed ++ p.pending ∧ p.Idle := by
  refine run.invariant (fun seen p =>
    seen.flatMap Obs.accepted = seen.flatMap Obs.flushed ++ p.pending ∧ p.Idle) ?_ ?_
  · exact ⟨rfl, fun parked => nomatch parked⟩
  · intro seen p action after out held _ stepped
    obtain ⟨flow, idle⟩ := held
    refine ⟨?_, Processor.step_idle idle stepped⟩
    have moved := Processor.step_pending idle stepped
    rw [List.flatMap_append, List.flatMap_append, flow, List.append_assoc, moved,
      List.append_assoc]

/-! ## The drain

The shutdown goes through phases that the goroutine never leaves backwards. Past the
receive loop of `drainAndFlush` the channel stays empty unless some `Submit` succeeds after
the cancel; past the last swap the buffer stays empty. -/

/-- How far the shutdown has come: 1 in the receive loop of `drainAndFlush`, 2 at its label
`DRAINED`, 3 once the last batch is taken, 4 once it has been passed on or there was none. -/
def LoopPc.phase : LoopPc Ev → Nat
  | .cancelled | .draining => 1
  | .drained => 2
  | .doFlush .gracefulShutdown _ => 3
  | .flushing .gracefulShutdown _ | .committed .gracefulShutdown _
  | .stamping .gracefulShutdown | .stamped .gracefulShutdown | .unlocking | .returned => 4
  | _ => 0

/-- What was observed after the first cancel. -/
def afterStop : List (Obs Ev) → List (Obs Ev)
  | [] => []
  | .stopped :: rest => rest
  | _ :: rest => afterStop rest

/-- No `Submit` succeeded after a cancel. -/
def NoLateSubmit (seen : List (Obs Ev)) : Prop := (afterStop seen).flatMap Obs.accepted = []

/-- After a cancel everything counts as late. -/
theorem afterStop_append {seen : List (Obs Ev)} (out : List (Obs Ev)) (stopped : .stopped ∈ seen) :
    afterStop (seen ++ out) = afterStop seen ++ out := by
  induction seen with
  | nil => simp at stopped
  | cons first rest ih =>
    cases first with
    | stopped => rfl
    | _ => exact ih (by simpa using stopped)

/-- Before a cancel nothing is late. -/
theorem afterStop_nil {seen : List (Obs Ev)} (running : .stopped ∉ seen) : afterStop seen = [] := by
  induction seen with
  | nil => rfl
  | cons first rest ih =>
    cases first with
    | stopped => simp at running
    | _ => exact ih (by simpa using running)

/-- Fewer observations hold no more late submits. -/
theorem NoLateSubmit.prefix {seen out : List (Obs Ev)} (quiet : NoLateSubmit (seen ++ out)) :
    NoLateSubmit seen := by
  unfold NoLateSubmit at quiet ⊢
  by_cases stopped : .stopped ∈ seen
  · rw [afterStop_append out stopped, List.flatMap_append, List.append_eq_nil_iff] at quiet
    exact quiet.1
  · rw [afterStop_nil stopped, List.flatMap_nil]

/-- Without a cancel what comes later is late only after its own cancel. -/
theorem NoLateSubmit.running {seen out : List (Obs Ev)} (running : .stopped ∉ seen)
    (quiet : NoLateSubmit out) : NoLateSubmit (seen ++ out) := by
  induction seen with
  | nil => exact quiet
  | cons first rest ih =>
    cases first with
    | stopped => simp at running
    | _ => exact ih (by simpa using running)

/-- What accepts nothing is not late. -/
theorem NoLateSubmit.silent {out : List (Obs Ev)} (silent : out.flatMap Obs.accepted = []) :
    NoLateSubmit out := by
  induction out with
  | nil => rfl
  | cons first rest ih =>
    rw [List.flatMap_cons, List.append_eq_nil_iff] at silent
    cases first with
    | stopped => exact silent.2
    | _ => exact ih silent.2

/-- Observations that accept nothing leave nothing late. -/
theorem NoLateSubmit.append {seen out : List (Obs Ev)} (quiet : NoLateSubmit seen)
    (silent : out.flatMap Obs.accepted = []) : NoLateSubmit (seen ++ out) := by
  by_cases stopped : .stopped ∈ seen
  · unfold NoLateSubmit at quiet ⊢
    rw [afterStop_append out stopped, List.flatMap_append, quiet, silent, List.append_nil]
  · exact .running stopped (.silent silent)

/-- After a cancel nothing more is accepted. -/
theorem NoLateSubmit.later {seen out : List (Obs Ev)} (quiet : NoLateSubmit (seen ++ out))
    (stopped : .stopped ∈ seen) : out.flatMap Obs.accepted = [] := by
  unfold NoLateSubmit at quiet
  rw [afterStop_append out stopped, List.flatMap_append, List.append_eq_nil_iff] at quiet
  exact quiet.2

/-- No `p.mu.Lock()` changes the phase. -/
theorem afterLock_phase {pc next : LoopPc Ev} (entered : pc.afterLock = some next) :
    next.phase = pc.phase := by
  cases pc with
  | stamping reason => cases entered; cases reason <;> rfl
  | _ => cases entered <;> rfl

/-- What each phase of the shutdown guarantees. -/
structure DrainInv (seen : List (Obs Ev)) (p : Processor Ev) : Prop where
  /-- Only a cancelled context starts the shutdown. -/
  cancelled : 1 ≤ p.pc.phase → p.ctxDone = true
  /-- Only `Stop` cancels the context. -/
  stopped : p.ctxDone = true → .stopped ∈ seen
  /-- The channel has been drained. -/
  channel : 2 ≤ p.pc.phase → NoLateSubmit seen → p.inCh.queue = []
  /-- The buffer has been taken. -/
  buffer : 3 ≤ p.pc.phase → p.buffer = []

/-- Outside the shutdown nothing is guaranteed yet. -/
theorem DrainInv.ahead {seen out : List (Obs Ev)} {p after : Processor Ev}
    (inv : DrainInv seen p) (phase : after.pc.phase = 0) (done : after.ctxDone = p.ctxDone) :
    DrainInv (seen ++ out) after where
  cancelled begun := absurd begun (by simp [phase])
  stopped shut := List.mem_append_left out (inv.stopped (done ▸ shut))
  channel begun := absurd begun (by simp [phase])
  buffer begun := absurd begun (by simp [phase])

/-- A step that enters none of the first three phases and moves no event keeps the
guarantees. -/
theorem DrainInv.stay {seen out : List (Obs Ev)} {p after : Processor Ev}
    (inv : DrainInv seen p) (phase : min 3 after.pc.phase ≤ p.pc.phase)
    (done : after.ctxDone = p.ctxDone) (channel : after.inCh = p.inCh)
    (buffer : after.buffer = p.buffer) : DrainInv (seen ++ out) after where
  cancelled begun := by
    rw [done]
    exact inv.cancelled (by omega)
  stopped shut := List.mem_append_left out (inv.stopped (done ▸ shut))
  channel begun quiet := by
    rw [channel]
    exact inv.channel (by omega) quiet.prefix
  buffer begun := by
    rw [buffer]
    exact inv.buffer (by omega)

/-- The guarantees of the phases are kept by every statement of the goroutine. -/
theorem advance_drain {seen out : List (Obs Ev)} {p after : Processor Ev}
    (inv : DrainInv seen p) (moved : Processor.Advance p after out) :
    DrainInv (seen ++ out) after := by
  have kept (shut : p.ctxDone = true) : .stopped ∈ seen ++ out :=
    List.mem_append_left out (inv.stopped shut)
  cases moved with
  | lock free entered =>
    have same := afterLock_phase entered
    exact inv.stay (same ▸ Nat.min_le_right 3 _) rfl rfl rfl
  | fill | append | expire | expireIdle => exact inv.ahead rfl rfl
  | drain here =>
    have first : p.pc.phase = 1 := by rw [here]; rfl
    refine ⟨fun _ => inv.cancelled (Nat.le_of_eq first.symm), kept,
      fun second => ?_, fun third => ?_⟩
    · simp [first] at second
    · simp [first] at third
  | drainStop here empty =>
    have first : p.pc.phase = 1 := by rw [here]; rfl
    refine ⟨fun _ => inv.cancelled (Nat.le_of_eq first.symm), kept,
      fun _ _ => empty, fun third => ?_⟩
    simp [LoopPc.phase] at third
  | last here =>
    have second : p.pc.phase = 2 := by rw [here]; rfl
    exact ⟨fun _ => inv.cancelled (by omega), kept,
      fun _ quiet => inv.channel (Nat.le_of_eq second.symm) quiet.prefix, fun _ => rfl⟩
  | lastIdle here empty =>
    have second : p.pc.phase = 2 := by rw [here]; rfl
    exact ⟨fun _ => inv.cancelled (by omega), kept,
      fun _ quiet => inv.channel (Nat.le_of_eq second.symm) quiet.prefix, fun _ => empty⟩
  | @skip reason here | @stamp reason here | @call reason events here
  | @count reason events here =>
    refine inv.stay ?_ rfl rfl rfl
    rw [here]
    cases reason <;> simp [LoopPc.phase, Reason.resume]
  | finish here => exact inv.stay (by simp [here, LoopPc.phase]) rfl rfl rfl

/-- The guarantees of the phases are kept by every step. -/
theorem step_drain {seen out : List (Obs Ev)} {p after : Processor Ev} {action : Act Ev}
    (inv : DrainInv seen p) (stepped : p.step action = some (after, out)) :
    DrainInv (seen ++ out) after := by
  cases Processor.step_cases stepped with
  | submit moved =>
    cases moved with
    | meet => exact inv.ahead rfl rfl
    | queue running room sent =>
      refine ⟨inv.cancelled, fun shut => List.mem_append_left _ (inv.stopped shut),
        fun second quiet => ?_, inv.buffer⟩
      have late := quiet.later (inv.stopped (inv.cancelled (Nat.le_of_succ_le second)))
      simp [Obs.accepted] at late
    | refuse => exact inv.stay (Nat.min_le_right 3 _) rfl rfl rfl
  | tickWakes => exact inv.ahead rfl rfl
  | tickWaits | metricsLock | metricsUnlock => exact inv.stay (Nat.min_le_right 3 _) rfl rfl rfl
  | cancelWakes =>
    refine ⟨fun _ => rfl, fun _ => by simp, fun second => ?_, fun third => ?_⟩
    · simp [LoopPc.phase] at second
    · simp [LoopPc.phase] at third
  | cancelWaits =>
    exact ⟨fun _ => rfl, fun _ => by simp, fun second quiet => inv.channel second quiet.prefix,
      inv.buffer⟩
  | select here moved =>
    cases moved with
    | done cancelled =>
      refine ⟨fun _ => cancelled, fun shut => List.mem_append_left _ (inv.stopped shut),
        fun second => ?_, fun third => ?_⟩
      · simp [LoopPc.phase] at second
      · simp [LoopPc.phase] at third
    | receive | ticker | block => exact inv.ahead rfl rfl
  | advance moved => exact advance_drain inv moved
  | @flushStored reason events here | @flushFailed reason events here =>
    refine inv.stay ?_ rfl rfl rfl
    rw [here]
    cases reason <;> simp [LoopPc.phase, Reason.resume]

/-- The guarantees of the phases hold in every run. -/
theorem run_drain {threshold bufferSize : Nat} {guard : Processor Ev → Act Ev → Prop}
    {seen : List (Obs Ev)} {p : Processor Ev}
    (run : (system Ev).Run guard (.start threshold bufferSize) seen p) : DrainInv seen p := by
  refine run.invariant DrainInv ?_ ?_
  · constructor <;> simp [Processor.start, LoopPc.phase]
  · intro seen p action after out inv _ stepped
    exact step_drain inv stepped

/-- In the last phase of the shutdown nothing is taken and nothing is in hand. -/
theorem LoopPc.last_phase {pc : LoopPc Ev} (last : pc.phase = 4) :
    pc.taken = [] ∧ pc.held = [] := by
  cases pc with
  | doFlush reason events => cases reason <;> simp [LoopPc.phase] at last
  | received | appending => simp [LoopPc.phase] at last
  | _ => exact ⟨rfl, rfl⟩

/-- Once the last batch has been passed on, and if nothing was accepted after the cancel,
nothing is left and everything accepted was flushed, in order. -/
theorem run_drained {threshold bufferSize : Nat} {guard : Processor Ev → Act Ev → Prop}
    {seen : List (Obs Ev)} {p : Processor Ev}
    (run : (system Ev).Run guard (.start threshold bufferSize) seen p)
    (quiet : NoLateSubmit seen) (last : p.pc.phase = 4) :
    p.buffer = [] ∧ p.inCh.queue = [] ∧
      seen.flatMap Obs.flushed = seen.flatMap Obs.accepted := by
  have drain := run_drain run
  have buffer := drain.buffer (by omega)
  have channel := drain.channel (by omega) quiet
  have empty := LoopPc.last_phase last
  refine ⟨buffer, channel, ?_⟩
  rw [(run_pending run).1]
  simp [Processor.pending, buffer, channel, empty]

/-- The batches passed to `FlushBatch` in the order of the calls, a batch taken from the
buffer and not yet passed on, the buffer, the event in the hand of the loop and the inbound
channel are together the accepted events in the order of their sends. Once `drainAndFlush`
has passed on its batch, and if nothing was accepted after the cancel, the buffer and the
channel are empty and the flushed sequence is the accepted one. -/
theorem hand_off_fifo {threshold bufferSize : Nat} {seen : List (Obs Ev)} {p : Processor Ev}
    (run : (system Ev).AnyRun (.start threshold bufferSize) seen p) :
    seen.flatMap Obs.flushed ++ p.pc.taken ++ p.buffer ++ p.pc.held ++ p.inCh.queue =
        seen.flatMap Obs.accepted ∧
      (NoLateSubmit seen → p.pc.phase = 4 →
        p.buffer = [] ∧ p.inCh.queue = [] ∧
          seen.flatMap Obs.flushed = seen.flatMap Obs.accepted) := by
  constructor
  · rw [(run_pending run).1]
    simp [Processor.pending]
  · intro quiet last
    exact run_drained run quiet last

/-- Three events cross a full batch, the ticker and the drain in the order of their sends. -/
theorem hand_off_fifo_three :
    ∃ seen p, (system Nat).AnyRun (.start 2 2) seen p ∧
      seen.flatMap Obs.flushed = [1, 2, 3] ∧ p.inCh.queue = [] := by
  obtain ⟨seen, p, run, passed⟩ := System.exec_witness (system Nat) System.unguarded (.start 2 2)
    [.submit 1, .submit 2, .submit 9, .select .inCh, .advance, .advance,
      .select .inCh, .advance, .advance, .advance, .submit 3, .flushReturns true, .advance,
      .advance, .advance, .cancel, .select .done, .advance, .advance, .advance, .advance,
      .advance]
    (fun (p, seen) => p.pc.phase = 4 &&
      seen = [.submitted 1 true, .submitted 2 true, .submitted 9 false,
        .flushCalled .countThreshold [1, 2], .submitted 3 true,
        .flushReturned .countThreshold [1, 2] true, .stopped,
        .flushCalled .gracefulShutdown [3]]) (by decide)
  simp only [Bool.and_eq_true, decide_eq_true_eq] at passed
  obtain ⟨last, rfl⟩ := passed
  have kept := (hand_off_fifo run).2 (by simp [NoLateSubmit, afterStop, Obs.accepted]) last
  exact ⟨_, p, run, kept.2.2, kept.2.1⟩

end IngestionEngine.Batch
