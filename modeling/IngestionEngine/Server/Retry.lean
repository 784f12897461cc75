import IngestionEngine.Server.Meter

/-!
# Batches that can be sent again

The answer to a batch that the limiter refuses asks the client to send it again. The tokens never
exceed the burst, however long it waits, while the cost of a batch grows with its length. So the
limiter admits the batch later exactly when its cost is no more than the burst.
-/

namespace IngestionEngine.Server

open Systems Program

/-- A timer fires that makes no use of the limiter. -/
def Idle (p : Process) (action : Act) : Prop :=
  Onward p action ∧ (∃ env id, action = .fire env id) ∧ p.use action = .none

/-- After some idle time the limiter admits the batch. -/
def Retryable (p : Process) (events : List JsValue) : Prop :=
  ∃ seen q later last shown, system.Run Idle p seen q ∧ q.loop.time ≤ later.clock ∧
    step q (.request later (.ingestBatch events)) = some (last, shown) ∧
    shown.flatMap Obs.decision = [true]

section Levels

variable {rps burst cost : ℚ} {m : Meter} {clock : Int}

/-- The meter has enough for a cost when the burst has, and the tokens with the gain have. -/
theorem level_enough : (JsNum.fin cost).le (m.level rps burst clock) = true ↔
    cost ≤ burst ∧ (JsNum.fin cost).le
      (m.tokens.add (.fin ((seconds clock - seconds m.time) * rps))) = true := by
  rw [Meter.level, JsNum.le_min, JsNum.le_fin]

/-- For any amount there is a time by which so much was earned. -/
theorem earned_later (positive : 0 < rps) (clock : Int) (amount : ℚ) :
    ∃ later, clock ≤ later ∧ amount ≤ (seconds later - seconds clock) * rps := by
  have enough : amount / rps * 1000 ≤ ⌈amount / rps * 1000⌉₊ := Nat.le_ceil _
  refine ⟨clock + ⌈amount / rps * 1000⌉₊, by omega, ?_⟩
  have waited : seconds (clock + ⌈amount / rps * 1000⌉₊) - seconds clock =
      (⌈amount / rps * 1000⌉₊ : ℚ) / 1000 := by
    unfold seconds
    push_cast
    ring
  have long : amount / rps ≤ (⌈amount / rps * 1000⌉₊ : ℚ) / 1000 := by linarith only [enough]
  rw [waited]
  exact (div_le_iff₀ positive).mp long

/-- A meter that has too few tokens for a cost has enough later, exactly when the cost is no more
than the burst and the tokens are a number above `-Infinity`. -/
theorem refused_later (positive : 0 < rps)
    (short : (JsNum.fin cost).le (m.level rps burst clock) = false) :
    (∃ later, clock ≤ later ∧
        (JsNum.fin cost).le ((m.look rps burst clock).level rps burst later) = true) ↔
      cost ≤ burst ∧ m.tokens ≠ .nan ∧ m.tokens ≠ .negInf := by
  have refused : ¬ (cost ≤ burst ∧ (JsNum.fin cost).le
      (m.tokens.add (.fin ((seconds clock - seconds m.time) * rps))) = true) := by
    rw [← level_enough, short]
    decide
  simp only [level_enough]
  have looked : (m.look rps burst clock).time = clock := rfl
  rw [looked]
  cases tokens : m.tokens with
  | fin level =>
    have left : (m.look rps burst clock).tokens =
        .fin (min burst (level + (seconds clock - seconds m.time) * rps)) := by
      rw [Meter.look, Meter.level, tokens, JsNum.add_fin, JsNum.min_fin]
    rw [left]
    constructor
    · rintro ⟨_, _, within, _⟩
      exact ⟨within, by simp, by simp⟩
    · rintro ⟨within, _, _⟩
      obtain ⟨later, order, earned⟩ := earned_later positive clock
        (cost - min burst (level + (seconds clock - seconds m.time) * rps))
      refine ⟨later, order, within, ?_⟩
      rw [JsNum.add_fin, JsNum.le_fin]
      linarith only [earned]
  | posInf =>
    -- An infinite number of tokens is enough for every cost within the burst.
    rw [tokens] at refused
    have none : ¬ cost ≤ burst := fun within => refused ⟨within, rfl⟩
    constructor
    · rintro ⟨_, _, within, _⟩
      exact absurd within none
    · rintro ⟨within, _⟩
      exact absurd within none
  | negInf =>
    have left : (m.look rps burst clock).tokens = .negInf := by
      rw [Meter.look, Meter.level, tokens]
      rfl
    rw [left]
    constructor
    · rintro ⟨_, _, _, enough⟩
      contradiction
    · rintro ⟨_, _, number⟩
      exact absurd rfl number
  | nan =>
    have left : (m.look rps burst clock).tokens = .nan := by
      rw [Meter.look, Meter.level, tokens]
      rfl
    rw [left]
    constructor
    · rintro ⟨_, _, _, enough⟩
      contradiction
    · rintro ⟨_, number, _⟩
      exact absurd rfl number

end Levels

/-! ### What the limiter answers -/

/-- The change is the end of a call or a callback. -/
def Change.isFinish : Change → Bool
  | .finish _ => true
  | .touch _ | .refill _ | .spend _ _ | .refuse _ _ | .refuseBatch _ | .push _ _ | .drop | .move _ _
  | .drain _ | .flush _ _ | .setRps _ | .setBurst _ | .capTokens _ => false

section Answers

variable {rps burst : ℚ} {p after : Process} {env : Env} {events : List JsValue} {out : List Obs}

/-- The limiter ends no call. -/
theorem Limits.unfinished {c : Core} {clock : Int} {cost : JsNum} {changes : List Change}
    {result : Except JsError Bool} (limits : Limits c clock cost changes result) :
    ∀ change ∈ changes, change.isFinish = false := by
  cases limits <;> simp [Change.isFinish]

/-- Neither does `ingestBatch` before it returns or throws. -/
theorem BatchMakes.unfinished {c : Core} {capacity : JsNum} {changes : List Change}
    {result : Except JsError BatchResult}
    (makes : BatchMakes c env capacity events changes result) :
    ∀ change ∈ changes, change.isFinish = false := by
  cases makes with
  | throws limits => exact limits.unfinished
  | refused limits =>
    exact List.forall_mem_append.mpr ⟨limits.unfinished, List.forall_mem_singleton.mpr rfl⟩
  | broken limits | admitted limits =>
    refine List.forall_mem_append.mpr ⟨limits.unfinished, ?_⟩
    exact batchChanges_each (fun change => change.isFinish = false) rfl (fun _ => rfl) _ _ _ _

/-- What `ingestBatch` returns says whether the limiter had too few tokens. -/
theorem BatchMakes.limited {c : Core} {capacity : JsNum} {changes : List Change}
    {result : BatchResult} (makes : BatchMakes c env capacity events changes (.ok result)) :
    result.rateLimited = !c.affords env.clock (batchCost events.length) := by
  cases makes with
  | refused limits =>
    have short : c.affords env.clock (batchCost events.length) = false := by
      apply Bool.eq_false_of_not_eq_true
      intro affords
      cases limits.affords.mpr affords
    rw [short]
    rfl
  | admitted limits =>
    rw [limits.affords.mp rfl]
    rfl

/-- So does the answer to a batch. -/
theorem batch_answers (stepped : step p (.request env (.ingestBatch events)) = some (after, out))
    {result : BatchResult} (answered : .batch result ∈ out) :
    result.rateLimited = !p.core.affords env.clock (batchCost events.length) := by
  obtain ⟨changes, executed, makes⟩ := step_makes stepped
  have inside : .batch result ∈ out.flatMap Obs.core :=
    List.mem_flatMap.mpr ⟨_, answered, List.mem_singleton.mpr rfl⟩
  obtain ⟨change, member, before, later, shown, moved, shows⟩ :=
    System.exec_shown executed inside
  obtain rfl : change = .finish (.batch result) := shows_ends rfl (change_shows moved _ shows)
  cases makes with
  | request makes =>
    cases makes with
    | @batch _ inner returned makes =>
      rw [ending, List.append_nil] at member
      rcases List.mem_append.mp member with early | last
      · exact absurd (makes.unfinished _ early) (by simp [Change.isFinish])
      · obtain rfl : result = returned := by simpa using last
        exact makes.limited
    | @batchThrows _ inner thrown makes =>
      rcases List.mem_append.mp member with early | last
      · exact absurd (makes.unfinished _ early) (by simp [Change.isFinish])
      · simp [ending] at last

/-! ### Idle time -/

/-- Idle time leaves the meter and the rates alone. -/
theorem run_idle (rates : p.core.AtRates rps burst) {seen : List Obs} {q : Process}
    (run : system.Run Idle p seen q) :
    q.core.meter = p.core.meter ∧ q.core.AtRates rps burst ∧ p.loop.time ≤ q.loop.time := by
  refine run.state_invariant (fun q => q.core.meter = p.core.meter ∧ q.core.AtRates rps burst ∧
    p.loop.time ≤ q.loop.time) ⟨rfl, rates, le_rfl⟩ ?_
  rintro q action after out ⟨same, rates, order⟩ ⟨onward, ⟨env, id, rfl⟩, unused⟩ stepped
  have moved : step q (.fire env id) = some (after, out) := stepped
  have used := step_used rates rfl moved
  have kept := used.meter
  rw [unused] at kept
  refine ⟨kept.trans same, used.rates, le_trans order ?_⟩
  rw [step_time moved]
  exact onward

/-- The limiter of a live process admits the batch after some idle time, when the meter has enough
at some later time. -/
theorem retryable_meter (rates : p.core.AtRates rps burst) (alive : p.crashed = false) :
    Retryable p events ↔ ∃ later, p.loop.time ≤ later ∧
      (batchCost events.length).le (p.core.meter.level rps burst later) = true := by
  constructor
  · rintro ⟨seen, q, later, last, shown, idle, order, called, admitted⟩
    obtain ⟨same, held, past⟩ := run_idle rates idle
    have decided : shown.flatMap Obs.decision =
        [(batchCost events.length).le (q.core.meter.level rps burst later.clock)] :=
      (step_used held rfl called).decided
    rw [admitted, same] at decided
    exact ⟨later.clock, le_trans past order, (List.singleton_inj.mp decided).symm⟩
  · rintro ⟨later, order, enough⟩
    have called : step p (.request (.calm later) (.ingestBatch events)) = some (_, _) :=
      step_request_state alive
    have decided := (step_used rates rfl called).decided
    have admits : [(batchCost events.length).le (p.core.meter.level rps burst later)] = [true] :=
      congrArg (fun allowed => [allowed]) enough
    exact ⟨[], p, .calm later, _, _, .start, order, called, decided.trans admits⟩

end Answers

/-- After a batch was refused, there is an idle time after which the limiter admits it, exactly when
its cost is no more than the burst and the tokens are a number above `-Infinity`. -/
theorem batch_retryable {rps burst : ℚ} {p after : Process} {env : Env} {events : List JsValue}
    {out : List Obs} {result : BatchResult} (rates : p.core.AtRates rps burst)
    (positive : 0 < rps)
    (stepped : step p (.request env (.ingestBatch events)) = some (after, out))
    (answered : .batch result ∈ out) (refused : result.rateLimited = true) :
    Retryable after events ↔ (batchCost events.length).le (.fin burst) = true ∧
      p.engine.availableTokens ≠ .nan ∧ p.engine.availableTokens ≠ .negInf := by
  obtain ⟨cost, priced, _⟩ := batchCost_fin events.length
  have used := step_used rates rfl stepped
  have read : p.core.affords env.clock (batchCost events.length) =
      (JsNum.fin cost).le (p.core.meter.level rps burst env.clock) := by
    rw [Core.affords, tokensAt_level rates, priced]
  have short : (JsNum.fin cost).le (p.core.meter.level rps burst env.clock) = false := by
    have limited := batch_answers stepped answered
    rw [refused, read] at limited
    simpa using limited
  have lacking :
      ¬ (batchCost events.length).le (p.core.meter.level rps burst env.clock) = true := by
    rw [priced, short]
    decide
  have looked : after.core.meter = p.core.meter.look rps burst env.clock :=
    used.meter.trans (if_neg lacking)
  have time : after.loop.time = env.clock := step_time stepped
  rw [retryable_meter used.rates (request_alive stepped), looked, time, priced, JsNum.le_fin]
  exact refused_later positive short

/-- Whether the limiter refused a batch. -/
def Obs.refuses : Obs → Bool
  | .batch result => result.rateLimited
  | _ => false

/-- A process whose limiter has paid for one event. -/
def Process.paid (burst : ℚ) : Process :=
  (((Request.ingestSingle plainEvent).call (.calm 0)).run
    ((Process.withLimiter (.calm 0) 10 burst).begin (.calm 0))).state

/-- A run reaches it, and it keeps the rates. -/
theorem paid_reached (burst : ℚ) :
    (∃ seen, system.AnyRun (.withLimiter (.calm 0) 10 burst) seen (.paid burst)) ∧
      (Process.paid burst).core.AtRates 10 burst ∧ (Process.paid burst).crashed = false := by
  have rates : (Process.withLimiter (.calm 0) 10 burst).core.AtRates 10 burst := ⟨rfl, rfl⟩
  have permitted : System.unguarded (Process.withLimiter (.calm 0) 10 burst)
      (Act.request (.calm 0) (.ingestSingle plainEvent)) := trivial
  have stepped : step (.withLimiter (.calm 0) 10 burst)
      (.request (.calm 0) (.ingestSingle plainEvent)) = some (.paid burst, _) :=
    step_request_state rfl
  exact ⟨⟨_, .next .start permitted stepped⟩, (step_used rates rfl stepped).rates,
    request_alive stepped⟩

/-- A batch that costs two tokens. -/
def largerBatch : List JsValue := List.replicate 51 plainEvent

/-- It is refused, whether the burst is one or two. -/
theorem larger_refused (burst : ℚ) (known : burst = 1 ∨ burst = 2) : ∃ after out result,
    step (.paid burst) (.request (.calm 0) (.ingestBatch largerBatch)) = some (after, out) ∧
      .batch result ∈ out ∧ result.rateLimited = true := by
  have alive := (paid_reached burst).2.2
  have refused : (respond (((Request.ingestBatch largerBatch).call (.calm 0)).run
      ((Process.paid burst).begin (.calm 0)))).2.any Obs.refuses = true := by
    rcases known with rfl | rfl <;> decide +kernel
  obtain ⟨obs, member, refuses⟩ := List.any_eq_true.mp refused
  cases obs with
  | batch result => exact ⟨_, _, result, step_request_state alive, member, refuses⟩
  | limited | pushed | moved | drained | flushed | logged | latency | single | metrics | shutdown
  | threw | crashed => contradiction

/-- When the burst is two, it is admitted later. -/
theorem batch_retryable_burst : ∃ after out result,
    step (.paid 2) (.request (.calm 0) (.ingestBatch largerBatch)) = some (after, out) ∧
      .batch result ∈ out ∧ result.rateLimited = true ∧ Retryable after largerBatch := by
  obtain ⟨_, rates, _⟩ := paid_reached 2
  obtain ⟨after, out, result, stepped, answered, refused⟩ := larger_refused 2 (.inr rfl)
  refine ⟨after, out, result, stepped, answered, refused, ?_⟩
  apply (batch_retryable rates (by norm_num) stepped answered refused).mpr
  exact ⟨by decide +kernel, by decide +kernel, by decide +kernel⟩

/-- When the burst is one, it is never admitted. -/
theorem batch_never_retryable : ∃ seen after out result,
    system.AnyRun (.withLimiter (.calm 0) 10 1) seen (.paid 1) ∧
      step (.paid 1) (.request (.calm 0) (.ingestBatch largerBatch)) = some (after, out) ∧
      .batch result ∈ out ∧ result.rateLimited = true ∧ ¬ Retryable after largerBatch := by
  obtain ⟨⟨seen, run⟩, rates, _⟩ := paid_reached 1
  obtain ⟨after, out, result, stepped, answered, refused⟩ := larger_refused 1 (.inl rfl)
  refine ⟨seen, after, out, result, run, stepped, answered, refused, fun retryable => ?_⟩
  rw [retryable_meter (step_used rates rfl stepped).rates (request_alive stepped)] at retryable
  obtain ⟨later, _, enough⟩ := retryable
  have cost : batchCost largerBatch.length = .fin 2 := by decide +kernel
  rw [cost, level_enough] at enough
  exact absurd enough.1 (by norm_num)

end IngestionEngine.Server
