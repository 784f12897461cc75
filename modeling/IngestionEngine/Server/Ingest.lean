import IngestionEngine.Server.Atomicity
import IngestionEngine.Server.Validation

/-!
# What a single event does to the queue

`ingestSingle` asks the limiter before it looks at its event. What it does after an admission
depends on the event and on the room in the queue only, and what it does after a refusal on neither.
-/

namespace IngestionEngine.Server

open Systems Program

/-- The process when `ingestSingle` has counted its request. -/
def Process.counted (p : Process) : Process :=
  { p with
    engine :=
      { p.engine with
        rpsCounter := p.engine.rpsCounter + 1
        epsCounter := p.engine.epsCounter + 1 } }

/-- `ingestSingle` after the decision of the limiter. -/
def singleDecided (env : Env) (event : JsValue) (allowed : Bool) : Js SingleResult :=
  if !allowed then return ⟨.rateLimited, none, some rateLimitedError⟩
  else do
    let rejected ← lift (invalid event)
    if rejected then return ⟨.error, none, some validationError⟩
    else
      let ev ← lift event.asObject
      let ev := singleEvent env ev
      let e ← engine
      if e.channelCapacity.le (.ofNat e.queue.length) then
        update fun e => { e with totalDropped := e.totalDropped + 1 }
        addLog env .warn "Channel buffer saturated; dropping event (backpressure engaged)"
          "worker.Enqueue"
          (.obj [("queue_len", .nat e.queue.length), ("capacity", .num e.channelCapacity),
            ("service", ev.get "service")])
        return ⟨.queueSaturated, none, some saturatedError⟩
      else
        update fun e => { e with queue := e.queue ++ [ev] }
        update fun e => { e with totalAccepted := e.totalAccepted + 1 }
        emit (.pushed env.clock ev)
        recordLatency env.pushDuration
        emit (.latency env.pushDuration)
        return ⟨.accepted, some (ev.get "trace_id"), none⟩

section Single

variable (env : Env) (p : Process) (event : JsValue)

/-- `ingestSingle` asks the limiter and goes on after its decision. -/
theorem run_ingestSingle : (ingestSingle env event).run p =
    ((allowRateLimit env 1).run p.counted).andThen (singleDecided env event) := rfl

/-- A call that the limiter does not admit leaves the queue and the counters alone. -/
theorem single_short (short : p.core.affords env.clock 1 = false) :
    ((ingestSingle env event).run p).state.engine.tally = p.engine.tally := by
  obtain ⟨q, shown, result, ran, same, decides⟩ := allowRateLimit_decides env 1 p.counted
  rw [run_ingestSingle, ran]
  cases result with
  | error thrown => exact (Prod.mk.inj same).1
  | ok allowed =>
    cases allowed with
    | true =>
      have affords : p.core.affords env.clock 1 = true := decides.mp rfl
      rw [short] at affords
      contradiction
    | false => exact (Prod.mk.inj same).1

/-- An admitted call goes on with the queue, the counters and the capacity as they were. -/
theorem single_admitted (affords : p.core.affords env.clock 1 = true) : ∃ q : Process,
    q.engine.tally = p.engine.tally ∧ q.engine.channelCapacity = p.engine.channelCapacity ∧
      ((ingestSingle env event).run p).state = ((singleDecided env event true).run q).state ∧
      ((ingestSingle env event).run p).result = ((singleDecided env event true).run q).result := by
  obtain ⟨q, shown, result, ran, same, decides⟩ := allowRateLimit_decides env 1 p.counted
  obtain rfl : result = .ok true := decides.mpr affords
  obtain ⟨tally, capacity⟩ := Prod.mk.inj same
  rw [run_ingestSingle, ran, andThen_ok]
  exact ⟨q, tally, capacity, rfl, rfl⟩

variable {env p event}

/-- An invalid event leaves the queue and the counters alone. -/
theorem decided_invalid (rejected : invalid event ≠ .ok false) :
    ((singleDecided env event true).run p).state = p := by
  simp only [singleDecided, Bool.not_true, Bool.false_eq_true, if_false, run_bind, run_lift]
  cases read : invalid event with
  | error thrown => rfl
  | ok value =>
    cases value with
    | true => rfl
    | false => exact absurd read rejected

variable {ev : TelemetryEvent} (valid : invalid event = .ok false) (read : event.asObject = .ok ev)

include valid read

/-- A valid event that finds the queue full is dropped. -/
theorem decided_full (full : p.engine.channelCapacity.le (.ofNat p.engine.queue.length) = true) :
    ((singleDecided env event true).run p).state.engine.tally =
        (p.engine.queue, p.engine.totalAccepted, p.engine.totalDropped + 1) ∧
      ((singleDecided env event true).run p).result =
        .ok ⟨.queueSaturated, none, some saturatedError⟩ := by
  simp only [singleDecided, Bool.not_true, Bool.false_eq_true, if_false, valid, read, run_bind,
    run_lift, run_engine, andThen_ok, if_pos full, run_update, run_addLog, run_pure, after_mk]
  exact ⟨rfl, trivial⟩

/-- One that finds room is queued. -/
theorem decided_fits (room : ¬ p.engine.channelCapacity.le (.ofNat p.engine.queue.length) = true) :
    ((singleDecided env event true).run p).state.engine.tally =
        (p.engine.queue ++ [singleEvent env ev], p.engine.totalAccepted + 1,
          p.engine.totalDropped) ∧
      ((singleDecided env event true).run p).result =
        .ok ⟨.accepted, some ((singleEvent env ev).get "trace_id"), none⟩ := by
  simp only [singleDecided, Bool.not_true, Bool.false_eq_true, if_false, valid, read, run_bind,
    run_lift, run_engine, andThen_ok, if_neg room, run_update, run_emit, run_recordLatency,
    run_pure, after_mk]
  exact ⟨rfl, trivial⟩

end Single

end IngestionEngine.Server
