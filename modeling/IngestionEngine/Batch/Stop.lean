import IngestionEngine.Batch.Lock
import IngestionEngine.Batch.Memory

/-!
# Whether `Stop` returns

`Stop` cancels the context and waits until `run` has returned. Each step of the batch goroutine
lowers a rank then, so what decides is only whether it comes to the lock of the mutex that it
holds. It does so when the last flush succeeds. What is ahead of the goroutine tells how many calls
of `FlushBatch` come before that flush, and whether there is one at all: while it is still in `run`,
the order in which it takes the events, a waiting tick and the cancelled context leaves it a choice.
-/

namespace IngestionEngine.Batch

open Systems

variable {Ev : Type}

/-- The step belongs to the batch goroutine, or ends the `FlushBatch` it waits for. -/
def Act.ofLoop : Act Ev → Bool
  | .select _ | .advance | .flushReturns _ => true
  | .submit _ | .tick | .cancel | .metricsLock | .metricsUnlock => false

/-- How far each place is from the return of `run`. -/
def LoopPc.rank : LoopPc Ev → Nat
  | .received _ | .ticked => 17
  | .appending _ | .checking => 16
  | .doFlush .gracefulShutdown _ => 6
  | .doFlush _ _ => 15
  | .flushing .gracefulShutdown _ => 5
  | .flushing _ _ => 14
  | .committed .gracefulShutdown _ => 4
  | .committed _ _ => 13
  | .stamping .gracefulShutdown => 3
  | .stamping _ => 12
  | .stamped .gracefulShutdown => 2
  | .stamped _ => 11
  | .select | .parked => 10
  | .cancelled => 9
  | .draining => 8
  | .drained => 7
  | .unlocking => 1
  | .returned => 0

/-- A lock that is taken is one statement. -/
theorem afterLock_rank {pc next : LoopPc Ev} (entered : pc.afterLock = some next) :
    next.rank + 1 = pc.rank := by
  cases pc with
  | stamping reason => cases entered; cases reason <;> rfl
  | _ => cases entered <;> rfl

/-- What is ahead of the batch goroutine once the context is cancelled and nothing more arrives. -/
inductive Ahead where
  /-- After the given number of calls of `FlushBatch` it is at the `select` of `run`, and has so
  many events left. -/
  | looping (calls left : Nat)
  /-- It is in the drain of the shutdown, which calls `FlushBatch` so many times more. -/
  | draining (calls : Nat)
  /-- It locks the mutex that it holds. -/
  | stuck
  deriving DecidableEq

/-- The goroutine can come to the return of `run`, for batches of the given size, a tick that may
wait and the given results of the calls of `FlushBatch` from now on: in `run` everything can be
flushed before the drain, or one of the calls that can be the last one fails; in the drain nothing
is flushed, or its call fails. -/
def Ahead.CanReturn (batch : Nat) (tick : Bool) (results : Nat → Bool) : Ahead → Prop
  | .looping calls left =>
    tick = true ∨ batch ∣ left ∨ ∃ full, full ≤ left / batch ∧ results (calls + full) = false
  | .draining calls => calls = 0 ∨ results 0 = false
  | .stuck => False

namespace Processor

/-- The events in the buffer and in the channel. -/
def waiting (p : Processor Ev) : Nat := p.buffer.length + p.inCh.queue.length

/-- What is ahead of the goroutine. -/
def ahead (p : Processor Ev) : Ahead :=
  match p.pc with
  | .select | .parked => .looping 0 p.waiting
  | .received _ | .appending _ =>
    if p.threshold ≤ p.buffer.length + 1 then .looping 1 p.inCh.queue.length
    else .looping 0 (p.waiting + 1)
  | .ticked | .checking => .looping (min 1 p.buffer.length) p.inCh.queue.length
  | .cancelled | .draining => .draining (min 1 p.waiting)
  | .drained => .draining (min 1 p.buffer.length)
  | .doFlush .gracefulShutdown events => .draining (min 1 events.length)
  | .doFlush _ events => .looping (min 1 events.length) p.waiting
  | .flushing .gracefulShutdown _ => .draining 1
  | .flushing _ _ => .looping 1 p.waiting
  | .committed .gracefulShutdown _ | .stamping .gracefulShutdown | .stamped .gracefulShutdown =>
    .stuck
  | .committed _ _ | .stamping _ | .stamped _ => .looping 0 p.waiting
  | .unlocking | .returned => .draining 0

/-- The goroutine can come to the return of `run`, as what is ahead of it tells. -/
def CanReturn (results : Nat → Bool) (p : Processor Ev) : Prop :=
  p.ahead.CanReturn (max 1 p.threshold) p.tickerC results

/-- Finitely many steps of the goroutine take `run` to its return, when the calls of `FlushBatch`
return the given results, in this order. -/
inductive Returns : (Nat → Bool) → Processor Ev → Prop
  /-- `run` has returned. -/
  | done {results : Nat → Bool} {p : Processor Ev} (returned : p.pc = .returned) : Returns results p
  /-- It chooses a case of its `select`. -/
  | select {results : Nat → Bool} {p after : Processor Ev} {chosen : SelectCase}
      {out : List (Obs Ev)} (stepped : p.step (.select chosen) = some (after, out))
      (rest : Returns results after) : Returns results p
  /-- It takes its next statement. -/
  | advance {results : Nat → Bool} {p after : Processor Ev} {out : List (Obs Ev)}
      (stepped : p.step .advance = some (after, out)) (rest : Returns results after) :
      Returns results p
  /-- `FlushBatch` returns the next result. -/
  | flush {results : Nat → Bool} {p after : Processor Ev} {out : List (Obs Ev)}
      (stepped : p.step (.flushReturns (results 0)) = some (after, out))
      (rest : Returns (fun n => results (n + 1)) after) : Returns results p

/-- An upper bound on the statements left to the goroutine, once the context is cancelled
and nothing more arrives. -/
def rank (p : Processor Ev) : Nat :=
  p.pc.rank + 8 * p.inCh.queue.length + if p.tickerC then 8 else 0

/-- Once the context is cancelled, each step of the goroutine lowers the rank. -/
theorem step_rank {p after : Processor Ev} {action : Act Ev} {out : List (Obs Ev)}
    (cancelled : p.ctxDone = true) (own : action.ofLoop = true)
    (stepped : p.step action = some (after, out)) :
    after.rank < p.rank ∧ after.ctxDone = true := by
  cases step_cases stepped with
  | submit | tickWakes | tickWaits | cancelWakes | cancelWaits | metricsLock | metricsUnlock =>
    simp [Act.ofLoop] at own
  | select here moved =>
    cases moved with
    | done => exact ⟨by simp [rank, here, LoopPc.rank], cancelled⟩
    | receive front =>
      refine ⟨?_, cancelled⟩
      simp only [rank, here, front, LoopPc.rank, List.length_cons]
      omega
    | ticker fired =>
      refine ⟨?_, cancelled⟩
      simp only [rank, here, fired, LoopPc.rank, if_true, if_false, Bool.false_eq_true]
      omega
    | block running => exact absurd cancelled (by simp [running])
  | advance moved =>
    refine ⟨?_, by cases moved <;> exact cancelled⟩
    cases moved with
    | lock free entered =>
      have lower := afterLock_rank entered
      simp only [rank]
      omega
    | drain here received =>
      simp only [rank, here, received, LoopPc.rank, List.length_cons]
      omega
    | @skip reason here | @stamp reason here | @call reason events here
    | @count reason events here =>
      cases reason <;> simp [rank, here, LoopPc.rank, Reason.resume]
    | fill here | append here | expire here | expireIdle here | drainStop here | last here
    | lastIdle here | finish here =>
      simp [rank, here, LoopPc.rank]
  | @flushStored reason events here | @flushFailed reason events here =>
    exact ⟨by cases reason <;> simp [rank, here, LoopPc.rank, Reason.resume], cancelled⟩

/-! ### What the steps of the goroutine do to what is ahead -/

/-- A lock that is taken, except by a goroutine that holds the mutex, leaves ahead what was. -/
theorem lock_ahead {p : Processor Ev} {next : LoopPc Ev} (outside : p.pc.holdsMu = false)
    (entered : p.pc.afterLock = some next) :
    ahead { p with mu := some .loop, pc := next } = p.ahead := by
  cases here : p.pc with
  | received | ticked | cancelled =>
    rw [here] at entered
    obtain rfl := Option.some.inj entered
    simp only [ahead, here, waiting]
  | stamping reason =>
    rw [here] at entered outside
    obtain rfl := Option.some.inj entered
    cases reason with
    | gracefulShutdown => exact absurd outside nofun
    | countThreshold | windowTimeout => simp only [ahead, here, waiting]
  | _ =>
    rw [here] at entered
    exact absurd entered nofun

/-- No statement of the goroutine changes what is ahead of it. -/
theorem advance_ahead {p after : Processor Ev} {out : List (Obs Ev)} (inv : p.LockInv)
    (moved : Advance p after out) : after.ahead = p.ahead := by
  cases moved with
  | lock free entered => exact lock_ahead (inv.outside (by simp [free])) entered
  | fill here full => simp [ahead, here, waiting, full]
  | append here below =>
    have short : ¬ p.threshold ≤ p.buffer.length + 1 := Nat.not_le.mpr below
    simp only [ahead, here, waiting, short, if_false, List.length_append, List.length_singleton]
    congr 1
    omega
  | expire here filled => simp [ahead, here, waiting]
  | expireIdle here empty => simp [ahead, here, waiting, empty]
  | drain here received =>
    simp only [ahead, here, waiting, received, List.length_append, List.length_cons,
      List.length_nil]
    congr 2
    omega
  | drainStop here empty => simp [ahead, here, waiting, empty]
  | last here filled => simp [ahead, here]
  | lastIdle here empty => simp [ahead, here, empty]
  | @skip reason here => cases reason <;> simp [ahead, here, Reason.resume, waiting]
  | @call reason events here filled =>
    have one : min 1 events.length = 1 := by
      have := List.length_pos_iff.mpr filled
      omega
    cases reason <;> simp [ahead, here, waiting, one]
  | @count reason events here => cases reason <;> simp [ahead, here, waiting]
  | @stamp reason here =>
    cases reason with
    | gracefulShutdown => exact absurd here inv.unstamped
    | countThreshold | windowTimeout => simp [ahead, here, Reason.resume, waiting]
  | finish here => simp [ahead, here]

/-- No statement of the goroutine changes whether it can come to its return. -/
theorem advance_canReturn {p after : Processor Ev} {results : Nat → Bool} {out : List (Obs Ev)}
    (inv : p.LockInv) (moved : Advance p after out) :
    after.CanReturn results ↔ p.CanReturn results := by
  have frame : after.threshold = p.threshold ∧ after.tickerC = p.tickerC := by
    cases moved <;> exact ⟨rfl, rfl⟩
  rw [CanReturn, CanReturn, advance_ahead inv moved, frame.1, frame.2]

/-- A call of `FlushBatch` that returns takes its result off the given ones. -/
theorem flush_canReturn {p after : Processor Ev} {results : Nat → Bool} {out : List (Obs Ev)}
    (stepped : p.step (.flushReturns (results 0)) = some (after, out)) :
    after.CanReturn (fun n => results (n + 1)) ↔ p.CanReturn results := by
  generalize returned : results 0 = stored at stepped
  cases step_cases stepped with
  | @flushStored reason events here | @flushFailed reason events here =>
    cases reason <;>
      simp [CanReturn, ahead, here, waiting, Ahead.CanReturn, Reason.resume, returned, Nat.add_comm]

/-- What a goroutine satisfies that only its own steps can take to the return of `run`. -/
structure Leaving (p : Processor Ev) : Prop where
  /-- The context is cancelled. -/
  cancelled : p.ctxDone = true
  /-- It blocks only while nothing is ready. -/
  idle : p.Idle
  /-- No `Metrics` call is inside its critical section. -/
  unread : p.mu ≠ some .metrics
  /-- The mutex is where the code says. -/
  owners : p.LockInv
  /-- The buffer is below the threshold. -/
  below : p.BelowThreshold p.threshold

/-- A goroutine that received an event has one batch less ahead of it, or the event more. -/
theorem ahead_received {p : Processor Ev} {ev : Ev} {inCh : Channel Ev} (here : p.pc = .select)
    (front : p.inCh.queue = ev :: inCh.queue) (below : p.buffer.length < max 1 p.threshold) :
    (p.waiting = max 1 p.threshold + inCh.queue.length ∧
      ahead { p with inCh, pc := .received ev } = .looping 1 inCh.queue.length) ∨
    ahead { p with inCh, pc := .received ev } = p.ahead := by
  by_cases full : p.threshold ≤ p.buffer.length + 1
  · left
    refine ⟨?_, by simp only [ahead, full, if_true]⟩
    rw [waiting, front, List.length_cons]
    omega
  · right
    simp only [ahead, here, full, if_false, waiting, front, List.length_cons]
    congr 1

/-- The drain of the shutdown finds nothing to flush, or its flush fails. -/
theorem cancelled_canReturn (p : Processor Ev) (results : Nat → Bool) :
    CanReturn results { p with pc := .cancelled } ↔ p.waiting = 0 ∨ results 0 = false := by
  show min 1 p.waiting = 0 ∨ results 0 = false ↔ p.waiting = 0 ∨ results 0 = false
  rw [show min 1 p.waiting = 0 ↔ p.waiting = 0 by omega]

/-- No choice at the `select` opens a way to the return of `run`. -/
theorem select_canReturn {p after : Processor Ev} {results : Nat → Bool} (leaving : p.Leaving)
    (here : p.pc = .select) (moved : Select p after) (can : after.CanReturn results) :
    p.CanReturn results := by
  have now : p.ahead = .looping 0 p.waiting := by simp only [ahead, here]
  cases moved with
  | done =>
    obtain empty | fails := (p.cancelled_canReturn results).mp can
    · rw [CanReturn, now, empty]
      exact .inr (.inl (Nat.dvd_zero _))
    · rw [CanReturn, now]
      exact .inr (.inr ⟨0, Nat.zero_le _, fails⟩)
  | @receive ev inCh front =>
    have below := leaving.below.2 (by simp [here]) (by simp [here])
    rcases ahead_received here front below with ⟨more, ahead⟩ | same
    · rw [CanReturn, ahead] at can
      rw [CanReturn, now, more]
      obtain tick | whole | ⟨full, fits, fails⟩ := can
      · exact .inl tick
      · exact .inr (.inl ((Nat.dvd_add_right (Nat.dvd_refl _)).mpr whole))
      · refine .inr (.inr ⟨full + 1, ?_, ?_⟩)
        · rw [Nat.add_div_left _ (by omega)]
          exact Nat.succ_le_succ fits
        · rw [Nat.zero_add, Nat.add_comm]
          exact fails
    · rw [CanReturn, same] at can
      exact can
  | ticker fired =>
    rw [CanReturn, now]
    exact .inl fired
  | block running => exact absurd leaving.cancelled (by simp [running])

/-- Where a way to the return of `run` is open, one of the choices at the `select` keeps it open:
the goroutine leaves when nothing is left or the next flush fails, takes an event while there is
one, and takes the tick otherwise. -/
theorem select_keeps {p : Processor Ev} {results : Nat → Bool} (leaving : p.Leaving)
    (here : p.pc = .select) (can : p.CanReturn results) :
    ∃ chosen after, p.select chosen = some after ∧ after.CanReturn results := by
  have below := leaving.below.2 (by simp [here]) (by simp [here])
  have now : p.ahead = .looping 0 p.waiting := by simp only [ahead, here]
  have leaves : p.select .done = some { p with pc := .cancelled } := if_pos leaving.cancelled
  rw [CanReturn, now] at can
  by_cases fails : results 0 = false
  · exact ⟨.done, _, leaves, (p.cancelled_canReturn results).mpr (.inr fails)⟩
  by_cases empty : p.waiting = 0
  · exact ⟨.done, _, leaves, (p.cancelled_canReturn results).mpr (.inl empty)⟩
  have later {full : Nat} (failed : results (0 + full) = false) : full ≠ 0 := by
    rintro rfl
    exact fails failed
  cases received : p.inCh.tryReceive with
  | some front =>
    obtain ⟨ev, inCh⟩ := front
    refine ⟨.inCh, { p with inCh, pc := .received ev }, by simp only [select, received], ?_⟩
    rcases ahead_received here (Channel.tryReceive_some received).1 below with
      ⟨more, ahead⟩ | same
    · rw [CanReturn, ahead]
      rw [more] at can
      obtain tick | whole | ⟨full, fits, failed⟩ := can
      · exact .inl tick
      · exact .inr (.inl ((Nat.dvd_add_right (Nat.dvd_refl _)).mp whole))
      · obtain ⟨fewer, rfl⟩ := Nat.exists_eq_succ_of_ne_zero (later failed)
        rw [Nat.add_div_left _ (by omega)] at fits
        refine .inr (.inr ⟨fewer, Nat.le_of_succ_le_succ fits, ?_⟩)
        rw [Nat.add_comm 1]
        rwa [Nat.zero_add] at failed
    · rw [CanReturn, same, now]
      exact can
  | none =>
    have drained := Channel.tryReceive_none.mp received
    have few : p.waiting < max 1 p.threshold := by
      rw [waiting, drained, List.length_nil, Nat.add_zero]
      exact below
    obtain tick | whole | ⟨full, fits, failed⟩ := can
    · refine ⟨.ticker, { p with tickerC := false, pc := .ticked }, ?_, .inr (.inl ?_)⟩
      · simp only [select, tick, if_true]
      · show max 1 p.threshold ∣ p.inCh.queue.length
        rw [drained]
        exact Nat.dvd_zero _
    · exact absurd (Nat.le_of_dvd (Nat.pos_of_ne_zero empty) whole) (Nat.not_le.mpr few)
    · rw [Nat.div_eq_of_lt few, Nat.le_zero] at fits
      exact absurd fits (later failed)

/-! ### Leaving `run` -/

/-- A goroutine that does not hold the mutex can take it. -/
theorem Leaving.free {p : Processor Ev} (leaving : p.Leaving) (outside : p.pc.holdsMu = false) :
    p.mu = none := by
  have unowned : p.mu ≠ some .loop := by
    rw [ne_eq, leaving.owners.owner, outside]
    exact Bool.false_ne_true
  cases held : p.mu with
  | none => rfl
  | some holder =>
    cases holder with
    | loop => exact absurd held unowned
    | metrics => exact absurd held leaving.unread

/-- No step of the goroutine gives the mutex to a `Metrics` call. -/
theorem step_unread {p after : Processor Ev} {action : Act Ev} {out : List (Obs Ev)}
    (own : action.ofLoop = true) (unread : p.mu ≠ some .metrics)
    (stepped : p.step action = some (after, out)) : after.mu ≠ some .metrics := by
  cases step_cases stepped with
  | submit | tickWakes | tickWaits | cancelWakes | cancelWaits | metricsLock | metricsUnlock =>
    simp [Act.ofLoop] at own
  | select here moved => cases moved <;> exact unread
  | advance moved => cases moved <;> first | exact unread | exact nofun
  | flushStored | flushFailed => exact unread

/-- Every step of the goroutine keeps what its way to the return needs. -/
theorem Leaving.kept {p after : Processor Ev} {action : Act Ev} {out : List (Obs Ev)}
    (leaving : p.Leaving) (own : action.ofLoop = true)
    (stepped : p.step action = some (after, out)) : after.Leaving where
  cancelled := (step_rank leaving.cancelled own stepped).2
  idle := step_idle leaving.idle stepped
  unread := step_unread own leaving.unread stepped
  owners := step_lock leaving.owners stepped
  below := by
    rw [step_threshold stepped]
    exact step_below leaving.below stepped

/-- The steps that take `run` to its return pass only through states in which it can return. -/
theorem Returns.canReturn {results : Nat → Bool} {p : Processor Ev} (returns : Returns results p)
    (leaving : p.Leaving) : p.CanReturn results := by
  induction returns with
  | done returned =>
    simp only [CanReturn, ahead, returned]
    exact .inl rfl
  | select stepped rest ih =>
    cases step_cases stepped with
    | select here moved => exact select_canReturn leaving here moved (ih (leaving.kept rfl stepped))
  | advance stepped rest ih =>
    cases step_cases stepped with
    | advance moved =>
      exact (advance_canReturn leaving.owners moved).mp (ih (leaving.kept rfl stepped))
  | flush stepped rest ih => exact (flush_canReturn stepped).mp (ih (leaving.kept rfl stepped))

/-- A statement that the goroutine can take keeps what it needs, and brings it closer. -/
theorem Leaving.advances {p : Processor Ev} {results : Nat → Bool} (leaving : p.Leaving)
    (can : p.CanReturn results) (enabled : p.advance ≠ none)
    (ih : ∀ after : Processor Ev, after.rank < p.rank → after.Leaving →
      ∀ results, after.CanReturn results → Returns results after) : Returns results p := by
  obtain ⟨⟨after, out⟩, advanced⟩ := Option.ne_none_iff_exists'.mp enabled
  have stepped : p.step .advance = some (after, out) := advanced
  have lower := (step_rank leaving.cancelled rfl stepped).1
  have still := (advance_canReturn leaving.owners (advance_cases advanced)).mpr can
  exact .advance stepped (ih after lower (leaving.kept rfl stepped) results still)

/-- A goroutine that can come to its return does so after finitely many of its own steps. -/
theorem Leaving.returns {p : Processor Ev} {results : Nat → Bool} (leaving : p.Leaving)
    (can : p.CanReturn results) : Returns results p := by
  induction bound : p.rank using Nat.strongRecOn generalizing p results with
  | ind rank ih =>
    subst bound
    have closer (after : Processor Ev) (lower : after.rank < p.rank) (still : after.Leaving)
        (results : Nat → Bool) (can : after.CanReturn results) : Returns results after :=
      ih after.rank lower still can rfl
    have advances (enabled : p.advance ≠ none) : Returns results p :=
      leaving.advances can enabled closer
    have locking (outside : p.pc.holdsMu = false) (pc : LoopPc Ev) :
        (p.lock .loop pc).map (·, ([] : List (Obs Ev))) ≠ none := by
      simp [lock_free (leaving.free outside)]
    cases here : p.pc with
    | returned => exact .done here
    | parked => exact absurd leaving.cancelled (by simp [(leaving.idle here).2.2])
    | select =>
      obtain ⟨chosen, after, selected, still⟩ := select_keeps leaving here can
      have stepped : p.step (.select chosen) = some (after, []) := by
        simp only [step, here, selected, Option.map_some]
      have lower := (step_rank leaving.cancelled rfl stepped).1
      exact .select stepped (closer after lower (leaving.kept rfl stepped) results still)
    | flushing reason events =>
      obtain ⟨after, out, stepped⟩ : ∃ after out,
          p.step (.flushReturns (results 0)) = some (after, out) := by
        simp [step, flushReturns, here]
      have lower := (step_rank leaving.cancelled rfl stepped).1
      exact .flush stepped (closer after lower (leaving.kept rfl stepped) _
        ((flush_canReturn stepped).mpr can))
    | received ev | ticked | cancelled =>
      apply advances
      simpa only [advance, here] using locking (by rw [here]; rfl) _
    | stamping reason =>
      cases reason with
      | gracefulShutdown => simp [CanReturn, ahead, here, Ahead.CanReturn] at can
      | countThreshold | windowTimeout =>
        apply advances
        simpa only [advance, here] using locking (by rw [here]; rfl) _
    | draining =>
      apply advances
      cases received : p.inCh.tryReceive <;> simp [advance, here, received]
    | appending ev | checking | drained | doFlush reason events =>
      apply advances
      simp only [advance, here]
      split <;> exact Option.some_ne_none _
    | committed | stamped | unlocking =>
      apply advances
      simp only [advance, here]
      exact Option.some_ne_none _

/-- The `Metrics` call inside its critical section, if there is one, leaves it. -/
def releaseMetrics (p : Processor Ev) : Processor Ev :=
  if p.mu = some .metrics then { p with mu := none } else p

/-- Once the context is cancelled and a `Metrics` call has left its critical section, only the
goroutine itself is between it and its return, in every run. -/
theorem releaseMetrics_leaving {threshold : Nat} {p : Processor Ev} (cancelled : p.ctxDone = true)
    (idle : p.Idle) (inv : p.LockInv) (below : p.BelowThreshold threshold) :
    p.releaseMetrics.Leaving := by
  have held : p.BelowThreshold p.threshold := by
    rw [below.1]
    exact below
  unfold releaseMetrics
  split
  · rename_i owned
    exact ⟨cancelled, idle, nofun, .leave nofun (inv.outside (by simp [owned])), held⟩
  · rename_i unread
    exact ⟨cancelled, idle, unread, inv, held⟩

/-- A `Metrics` call takes nothing from what is ahead of the goroutine. -/
theorem releaseMetrics_canReturn (p : Processor Ev) (results : Nat → Bool) :
    p.releaseMetrics.CanReturn results ↔ p.CanReturn results := by
  unfold releaseMetrics
  split <;> exact Iff.rfl

end Processor

/-- The goroutine does not try to lock the mutex it holds, and after `Stop`'s cancel its own steps
lead out of `run` when the calls of `FlushBatch` return the given results, exactly where what is
ahead of it lets it come to the return. A `Metrics` call that is inside its critical section first
leaves it. -/
theorem lock_discipline_iff {threshold bufferSize : Nat} {seen : List (Obs Ev)}
    {p : Processor Ev} (run : (system Ev).AnyRun (.start threshold bufferSize) seen p)
    (results : Nat → Bool) :
    (¬ p.SelfLock ∧ (p.ctxDone = true → p.releaseMetrics.Returns results)) ↔
      (p.ctxDone = true → p.CanReturn results) := by
  have inv := run_lock run
  have leaving (cancelled : p.ctxDone = true) : p.releaseMetrics.Leaving :=
    Processor.releaseMetrics_leaving cancelled (run_pending run).2 inv (run_below run)
  constructor
  · rintro ⟨_, returns⟩ cancelled
    exact (p.releaseMetrics_canReturn results).mp
      ((returns cancelled).canReturn (leaving cancelled))
  · intro can
    constructor
    · intro locks
      have here := (Processor.selfLock_iff inv).mp locks
      have begun : 1 ≤ p.pc.phase := by simp [here, LoopPc.phase]
      have stuck := can ((run_drain run).cancelled begun)
      simp [Processor.CanReturn, Processor.ahead, here, Ahead.CanReturn] at stuck
    · intro cancelled
      exact (leaving cancelled).returns ((p.releaseMetrics_canReturn results).mpr (can cancelled))

/-- One of three events is in the buffer, below the threshold of two, when `Stop` cancels; the
others are in the channel. -/
def stopWithThree : List (Act Nat) :=
  [.submit 7, .select .inCh, .advance, .advance, .submit 8, .submit 9, .cancel]

/-- The goroutine can flush two events and leave the third to a last flush that fails; it cannot
leave when each flush succeeds. -/
theorem lock_discipline_failed_flush :
    ∃ seen p, (system Nat).AnyRun (.start 2 2) seen p ∧ p.ctxDone = true ∧ ¬ p.SelfLock ∧
      p.releaseMetrics.Returns (fun n => n = 0) ∧ ¬ p.releaseMetrics.Returns (fun _ => true) := by
  obtain ⟨seen, p, run, passed⟩ := System.exec_witness (system Nat) System.unguarded (.start 2 2)
    stopWithThree (fun (p, _) => p.ctxDone && !p.tickerC && p.threshold = 2 &&
      p.ahead = .looping 0 3) (by decide)
  simp only [Bool.and_eq_true, Bool.not_eq_true', decide_eq_true_eq] at passed
  obtain ⟨⟨⟨cancelled, quiet⟩, batches⟩, ahead⟩ := passed
  have kept := (lock_discipline_iff run fun n => n = 0).mpr fun _ => by
    rw [Processor.CanReturn, ahead]
    exact .inr (.inr ⟨1, by simp [batches], rfl⟩)
  refine ⟨seen, p, run, cancelled, kept.1, kept.2 cancelled, fun returns => ?_⟩
  have can := (lock_discipline_iff run fun _ => true).mp ⟨kept.1, fun _ => returns⟩ cancelled
  simp [Processor.CanReturn, ahead, Ahead.CanReturn, quiet, batches] at can

/-- One event is buffered below the threshold when `Stop` cancels, and its flush succeeds: the
goroutine locks the mutex it holds, and no results of later calls take `run` to its return. -/
theorem stop_locks_itself :
    ∃ seen p, (system Nat).AnyRun (.start 2 1) seen p ∧ p.SelfLock ∧ p.ctxDone = true ∧
      ∀ results, ¬ p.releaseMetrics.Returns results := by
  obtain ⟨seen, p, run, passed⟩ := System.exec_witness (system Nat) System.unguarded (.start 2 1)
    [.submit 7, .select .inCh, .advance, .advance, .cancel, .select .done, .advance, .advance,
      .advance, .advance, .flushReturns true, .advance]
    (fun (p, _) => p.ctxDone && p.pc = .stamping .gracefulShutdown) (by decide)
  simp only [Bool.and_eq_true, decide_eq_true_eq] at passed
  obtain ⟨cancelled, here⟩ := passed
  have inv := run_lock run
  refine ⟨seen, p, run, (Processor.selfLock_iff inv).mpr here, cancelled, fun results returns => ?_⟩
  have leaving := Processor.releaseMetrics_leaving cancelled (run_pending run).2 inv (run_below run)
  have stuck := (p.releaseMetrics_canReturn results).mp (returns.canReturn leaving)
  simp [Processor.CanReturn, Processor.ahead, here, Ahead.CanReturn] at stuck

end IngestionEngine.Batch
