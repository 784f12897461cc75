import IngestionEngine.Server.Changes
import IngestionEngine.Server.Stall

/-!
# Batches that are taken in part

`ingestBatch` looks at one element after the other and throws at the first that is not an object.
The elements before it have been accepted or dropped by then, and stay so. Only a batch whose
first element is the one that throws leaves everything as it was.
-/

namespace IngestionEngine.Server

open Systems Program

/-- The value is an object or an array. -/
def JsValue.isObject (value : JsValue) : Bool := value.asObject.isOk

/-- The elements before the first that is not an object. -/
def leading (events : List JsValue) : List JsValue := events.takeWhile JsValue.isObject

/-- Every element is an object, or the first is not. -/
def Uniform (events : List JsValue) : Prop :=
  (∀ event ∈ events, event.isObject = true) ∨ ∃ first ∈ events.head?, first.isObject = false

/-- What `ingestBatch` may change for good. -/
def Engine.tally (e : Engine) : List TelemetryEvent × Nat × Nat :=
  (e.queue, e.totalAccepted, e.totalDropped)

/-- A call of `ingestBatch` returns counts that add up to the length of its batch, or it throws and
leaves the queue and the counters alone. -/
def Atomic (env : Env) (p : Process) (events : List JsValue) : Prop :=
  (∃ result, ((ingestBatch env events).run p).result = .ok result ∧
      result.accepted + result.dropped = result.total ∧ result.total = events.length) ∨
    ∃ thrown, ((ingestBatch env events).run p).result = .error thrown ∧
      ((ingestBatch env events).run p).state.engine.tally = p.engine.tally

/-- No element comes before the first that is not an object exactly when that is the first. -/
theorem leading_nil (events : List JsValue) :
    leading events = [] ↔ ∀ first ∈ events.head?, first.isObject = false := by
  cases events with
  | nil => simp [leading]
  | cons event rest => cases object : event.isObject <;> simp [leading, object]

/-! ### The loop -/

/-- What the loop of `ingestBatch` does to the counters, and how it ends. -/
structure Takes (events : List JsValue) (accepted dropped : Nat) (p : Process)
    (outcome : Outcome Process Obs JsError (Nat × Nat)) : Prop where
  /-- The elements before the first that is not an object are accepted or dropped. -/
  counted : outcome.state.engine.totalAccepted + outcome.state.engine.totalDropped =
    p.engine.totalAccepted + p.engine.totalDropped + (leading events).length
  /-- If there is none, nothing happens. -/
  kept : leading events = [] → outcome.state = p
  /-- The loop returns if every element is an object. -/
  returned : (∀ event ∈ events, event.isObject = true) → ∃ counts, outcome.result = .ok counts ∧
    counts.1 + counts.2 = accepted + dropped + events.length
  /-- It throws otherwise. -/
  thrown : (∃ event ∈ events, event.isObject = false) → outcome.result = .error .typeError

section Loop

variable (env : Env)

/-- A value that is not an object throws a `TypeError`. -/
theorem asObject_error {value : JsValue} (other : value.isObject = false) :
    value.asObject = .error .typeError := by
  cases value with
  | undefined | null | bool | num | str => rfl
  | arr | obj => contradiction

/-- An object has properties. -/
theorem asObject_ok {value : JsValue} (object : value.isObject = true) :
    ∃ ev, value.asObject = .ok ev := by
  cases value with
  | undefined | null | bool | num | str => contradiction
  | arr | obj => exact ⟨_, rfl⟩

/-- The loop takes its elements up to the first that is not an object. -/
theorem ingestEvents_takes (events : List JsValue) (index accepted dropped : Nat) (p : Process) :
    Takes events accepted dropped p
      ((ingestEvents env events index accepted dropped).run p) := by
  induction events generalizing index accepted dropped p with
  | nil => exact ⟨rfl, fun _ => rfl, fun _ => ⟨(accepted, dropped), rfl, rfl⟩, by simp⟩
  | cons event rest ih =>
    cases object : event.isObject with
    | false =>
      have read := asObject_error object
      have ran : (ingestEvents env (event :: rest) index accepted dropped).run p =
          ⟨p, [], .error .typeError⟩ := by
        rw [ingestEvents, read]
        rfl
      rw [ran]
      refine ⟨by simp [leading, object], fun _ => rfl, fun whole => ?_, fun _ => rfl⟩
      rw [whole event List.mem_cons_self] at object
      contradiction
    | true =>
      obtain ⟨ev, read⟩ := asObject_ok object
      -- One element more is taken than the rest takes, whichever counter it goes to.
      have more {accepted' dropped' : Nat} {q : Process} {shown : List Obs}
          (ran : (ingestEvents env (event :: rest) index accepted dropped).run p =
            ((ingestEvents env rest (index + 1) accepted' dropped').run q).after shown)
          (taken : q.engine.totalAccepted + q.engine.totalDropped =
            p.engine.totalAccepted + p.engine.totalDropped + 1)
          (counts : accepted' + dropped' = accepted + dropped + 1) :
          Takes (event :: rest) accepted dropped p
            ((ingestEvents env (event :: rest) index accepted dropped).run p) := by
        obtain ⟨counted, _, returned, thrown⟩ := ih (index + 1) accepted' dropped' q
        rw [ran]
        refine ⟨?_, by simp [leading, object], fun whole => ?_, ?_⟩
        · have one : (leading (event :: rest)).length = (leading rest).length + 1 := by
            simp [leading, object]
          rw [after_state, counted, one, taken]
          omega
        · obtain ⟨values, ended, sum⟩ :=
            returned fun other member => whole other (List.mem_cons_of_mem _ member)
          refine ⟨values, ended, ?_⟩
          rw [sum, List.length_cons, counts]
          omega
        · rintro ⟨other, member, broken⟩
          refine thrown ⟨other, ?_, broken⟩
          rcases List.mem_cons.mp member with rfl | later
          · rw [object] at broken
            contradiction
          · exact later
      by_cases room : (JsNum.ofNat p.engine.queue.length).lt p.engine.channelCapacity = true
      · apply more
        · rw [ingestEvents]
          simp only [read, run_bind, run_lift, run_engine, andThen_ok, if_pos room, run_update,
            run_emit]
          rfl
        · exact Nat.add_right_comm _ 1 _
        · exact Nat.add_right_comm _ 1 _
      · apply more
        · rw [ingestEvents]
          simp only [read, run_bind, run_lift, run_engine, andThen_ok, if_neg room, run_update]
          rfl
        · rfl
        · rfl

/-! ### The call -/

/-- The limiter leaves the queue and the counters alone, and admits a call if it has the tokens. -/
theorem allowRateLimit_decides (count : JsNum) (p : Process) : ∃ q shown result,
    (allowRateLimit env count).run p = ⟨q, shown, result⟩ ∧
      (q.engine.tally, q.engine.channelCapacity) = (p.engine.tally, p.engine.channelCapacity) ∧
      (result = .ok true ↔ p.core.affords env.clock count = true) := by
  obtain ⟨changes, result, makes, limits⟩ := allowRateLimit_makes env p count
  have kept (value : (List TelemetryEvent × Nat × Nat) × JsNum) :
      Keeps (fun p => (p.engine.tally, p.engine.channelCapacity) = value)
        (allowRateLimit env count) := keeps_limiter env (fun _ _ _ _ held => held) count
  have same := view_kept kept p
  have ended := makes.ended
  generalize (allowRateLimit env count).run p = outcome at same ended
  obtain ⟨q, shown, value⟩ := outcome
  obtain rfl : value = result := ended
  exact ⟨q, shown, value, rfl, same, limits.affords⟩

/-- The process when `ingestBatch` has counted its request. -/
def Process.requested (p : Process) (events : List JsValue) : Process :=
  { p with
    engine :=
      { p.engine with
        rpsCounter := p.engine.rpsCounter + 1
        epsCounter := p.engine.epsCounter + events.length } }

/-- `ingestBatch` after the decision of the limiter. -/
def ingestDecided (env : Env) (events : List JsValue) (allowed : Bool) : Js BatchResult :=
  if !allowed then do
    update fun e => { e with rateLimitedRequests := e.rateLimitedRequests + events.length }
    return ⟨events.length, 0, events.length, true⟩
  else do
    let counts ← ingestEvents env events 0 0 0
    recordLatency (env.jitter * (4 / 10) + 1 / 10)
    emit (.latency (env.jitter * (4 / 10) + 1 / 10))
    return ⟨events.length, counts.1, counts.2, false⟩

variable (p : Process) (events : List JsValue)

/-- `ingestBatch` asks the limiter and goes on after its decision. -/
theorem run_ingestBatch : (ingestBatch env events).run p =
    ((allowRateLimit env (batchCost events.length)).run (p.requested events)).andThen
      (ingestDecided env events) := rfl

/-- A batch that the limiter does not admit is dropped as a whole, or throws before its loop. -/
theorem batch_short (short : p.core.affords env.clock (batchCost events.length) = false) :
    ((ingestBatch env events).run p).state.engine.tally = p.engine.tally ∧
      (((ingestBatch env events).run p).result = .ok ⟨events.length, 0, events.length, true⟩ ∨
        ∃ thrown, ((ingestBatch env events).run p).result = .error thrown) := by
  obtain ⟨q, shown, result, ran, same, decides⟩ :=
    allowRateLimit_decides env (batchCost events.length) (p.requested events)
  rw [run_ingestBatch, ran]
  cases result with
  | error thrown => exact ⟨(Prod.mk.inj same).1, .inr ⟨thrown, rfl⟩⟩
  | ok allowed =>
    cases allowed with
    | true =>
      have affords : p.core.affords env.clock (batchCost events.length) = true := decides.mp rfl
      rw [short] at affords
      contradiction
    | false => exact ⟨(Prod.mk.inj same).1, .inl rfl⟩

/-- So it is all or nothing. -/
theorem batch_refused (short : p.core.affords env.clock (batchCost events.length) = false) :
    Atomic env p events := by
  obtain ⟨kept, returned | ⟨thrown, failed⟩⟩ := batch_short env p events short
  · exact .inl ⟨_, returned, Nat.zero_add _, rfl⟩
  · exact .inr ⟨thrown, failed, kept⟩

/-- An admitted batch ends as its loop does. -/
theorem batch_admitted (affords : p.core.affords env.clock (batchCost events.length) = true) :
    ∃ q : Process, q.engine.tally = p.engine.tally ∧
      q.engine.channelCapacity = p.engine.channelCapacity ∧
      ((ingestBatch env events).run p).state.engine.tally =
        ((ingestEvents env events 0 0 0).run q).state.engine.tally ∧
      ((ingestBatch env events).run p).result =
        ((ingestEvents env events 0 0 0).run q).result.map fun counts =>
          ⟨events.length, counts.1, counts.2, false⟩ := by
  obtain ⟨q, shown, result, ran, same, decides⟩ :=
    allowRateLimit_decides env (batchCost events.length) (p.requested events)
  obtain rfl : result = .ok true := decides.mpr affords
  have started : (ingestDecided env events true).run q =
      ((ingestEvents env events 0 0 0).run q).andThen fun counts => do
        recordLatency (env.jitter * (4 / 10) + 1 / 10)
        emit (.latency (env.jitter * (4 / 10) + 1 / 10))
        return ⟨events.length, counts.1, counts.2, false⟩ := rfl
  refine ⟨q, (Prod.mk.inj same).1, (Prod.mk.inj same).2, ?_⟩
  rw [run_ingestBatch, ran, andThen_ok, started]
  generalize (ingestEvents env events 0 0 0).run q = outcome
  obtain ⟨r, taken, value⟩ := outcome
  cases value with
  | error thrown => exact ⟨rfl, rfl⟩
  | ok counts =>
    simp only [andThen_ok, run_bind, run_recordLatency, run_emit, run_pure, after_mk]
    exact ⟨rfl, rfl⟩

/-- A call of `ingestBatch` is all or nothing exactly when the limiter does not admit it, every
element is an object, or the first is not. -/
theorem ingestBatch_atomic (env : Env) (p : Process) (events : List JsValue) :
    Atomic env p events ↔
      (p.core.affords env.clock (batchCost events.length) = true → Uniform events) := by
  cases affords : p.core.affords env.clock (batchCost events.length) with
  | false => exact ⟨fun _ => by simp, fun _ => batch_refused env p events affords⟩
  | true =>
    obtain ⟨q, same, _, tally, result⟩ := batch_admitted env p events affords
    obtain ⟨counted, kept, returned, thrown⟩ := ingestEvents_takes env events 0 0 0 q
    by_cases whole : ∀ event ∈ events, event.isObject = true
    · refine ⟨fun _ _ => .inl whole, fun _ => ?_⟩
      obtain ⟨counts, ended, sum⟩ := returned whole
      rw [ended] at result
      rw [Nat.zero_add] at sum
      exact .inl ⟨_, result, sum, rfl⟩
    · push Not at whole
      obtain ⟨event, member, other⟩ := whole
      rw [thrown ⟨event, member, Bool.eq_false_of_not_eq_true other⟩] at result
      constructor
      · rintro (⟨value, ended, _⟩ | ⟨_, _, left⟩) _
        · rw [result] at ended
          contradiction
        · rw [tally] at left
          simp only [Engine.tally, Prod.mk.injEq] at left same
          have none : leading events = [] := List.eq_nil_of_length_eq_zero (by omega)
          rw [leading_nil] at none
          cases events with
          | nil => contradiction
          | cons first rest => exact .inr ⟨first, rfl, none first rfl⟩
      · intro uniform
        have none : leading events = [] := by
          rw [leading_nil]
          rcases uniform rfl with objects | ⟨first, head, broken⟩
          · exact absurd (objects event member) other
          · intro _ same
            rwa [Option.mem_unique same head]
        refine .inr ⟨_, result, ?_⟩
        rw [tally, kept none, same]

end Loop

/-- The first element of a batch is accepted before the second throws. The client that sends the
batch again leaves two copies of it in the queue. -/
theorem ingestBatch_partial :
    ¬ Atomic (.calm 1) (.start (.calm 0)) [plainEvent, .null] ∧
      ∃ seen p, system.AnyRun (.start (.calm 0)) seen p ∧
        p.engine.queue.length = 2 ∧ p.engine.totalAccepted = 2 ∧
        (seen.filter fun obs => obs matches .threw .typeError).length = 2 := by
  constructor
  · let ended := (ingestBatch (.calm 1) [plainEvent, .null]).run (.start (.calm 0))
    have throws : ended.result.isOk = false := by decide +kernel
    have counted : ended.state.engine.tally.2.1 = 1 := by decide +kernel
    rintro (⟨result, returned, _⟩ | ⟨thrown, _, kept⟩)
    · have returns : ended.result = .ok result := returned
      rw [returns] at throws
      contradiction
    · have same : ended.state.engine.tally = (Process.start (.calm 0)).engine.tally := kept
      rw [same] at counted
      contradiction
  · obtain ⟨seen, p, run, passed⟩ := System.exec_witness system System.unguarded (.start (.calm 0))
      [.request (.calm 1) (.ingestBatch [plainEvent, .null]),
        .request (.calm 2) (.ingestBatch [plainEvent, .null])]
      (fun (p, seen) => p.engine.queue.length = 2 && p.engine.totalAccepted = 2 &&
        (seen.filter fun obs => obs matches .threw .typeError).length = 2) (by decide +kernel)
    simp only [Bool.and_eq_true, decide_eq_true_eq] at passed
    exact ⟨seen, p, run, passed.1.1, passed.1.2, passed.2⟩

end IngestionEngine.Server
