import IngestionEngine.Server.Meter

/-!
# The range of the tokens

The refill adds what was earned since the last look, which is negative when the clock was set back.
Only the burst bounds the sum, so the tokens stay at zero or above exactly as long as no look takes
more from them than there are.
-/

namespace IngestionEngine.Server

open Systems Program

/-- A call that looks at the tokens. -/
inductive LimiterCall where
  /-- `allowRateLimit` -/
  | allowRateLimit (env : Env) (count : JsNum)
  /-- `getMetrics` -/
  | getMetrics (env : Env)

namespace LimiterCall

/-- The call. -/
def program : LimiterCall → Js Unit
  | .allowRateLimit env count => do
    let _ ← Server.allowRateLimit env count
  | .getMetrics env => do
    let _ ← Server.getMetrics env

/-- The reading of the clock. -/
def clock : LimiterCall → Int
  | .allowRateLimit env _ | .getMetrics env => env.clock

/-- The use of the meter. -/
def use : LimiterCall → Use
  | .allowRateLimit _ count => .draw count
  | .getMetrics _ => .look

/-- The count is zero or more. -/
def counts : LimiterCall → Bool
  | .allowRateLimit _ count => JsNum.le 0 count
  | .getMetrics _ => true

end LimiterCall

/-- The process under calls that look at the tokens. -/
def limiterSystem : System Process LimiterCall Obs where
  step p call := some ((call.program.run p).state, (call.program.run p).out)

/-- What the look adds to the tokens leaves them at zero or above. -/
def Covered (rps : ℚ) (p : Process) (call : LimiterCall) : Prop :=
  JsNum.le 0 (p.engine.availableTokens.add
    (.fin ((seconds call.clock - seconds p.engine.lastRefillTime) * rps))) = true

/-- The number is between zero and the burst. -/
def InRange (burst : ℚ) (tokens : JsNum) : Prop := ∃ level, tokens = .fin level ∧
  0 ≤ level ∧ level ≤ burst

instance (rps : ℚ) (p : Process) (call : LimiterCall) : Decidable (Covered rps p call) :=
  inferInstanceAs (Decidable (_ = true))

section Levels

variable {rps burst : ℚ} {m : Meter} {clock : Int}

/-- The refill leaves a number between zero and the burst when what it adds does not take more than
there is. -/
theorem level_range (nonneg : 0 ≤ burst) : InRange burst (m.level rps burst clock) ↔
    JsNum.le 0 (m.tokens.add (.fin ((seconds clock - seconds m.time) * rps))) = true := by
  unfold Meter.level
  generalize m.tokens.add (.fin ((seconds clock - seconds m.time) * rps)) = sum
  rw [JsNum.zero_fin]
  cases sum with
  | fin sum =>
    rw [JsNum.min_fin, JsNum.le_fin]
    constructor
    · rintro ⟨level, same, low, _⟩
      obtain rfl := JsNum.fin.inj same
      exact le_trans low (min_le_right _ _)
    · intro low
      exact ⟨_, rfl, le_min nonneg low, min_le_left _ _⟩
  | posInf =>
    have full : (JsNum.fin burst).min .posInf = .fin burst := rfl
    rw [full]
    exact ⟨fun _ => rfl, fun _ => ⟨burst, rfl, nonneg, le_rfl⟩⟩
  | negInf | nan =>
    constructor
    · rintro ⟨level, same, _⟩
      contradiction
    · intro low
      contradiction

/-- No infinite cost fits the burst. -/
theorem infinite_short : JsNum.posInf.le (m.level rps burst clock) = false := by
  unfold Meter.level
  generalize m.tokens.add (.fin ((seconds clock - seconds m.time) * rps)) = sum
  cases sum with
  | fin sum =>
    rw [JsNum.min_fin]
    rfl
  | posInf | negInf | nan => rfl

/-- A call with a count of zero or more leaves the tokens in the range when the refill does. -/
theorem draw_range (nonneg : 0 ≤ burst) {count : JsNum} (counts : JsNum.le 0 count = true) :
    InRange burst (m.draw rps burst clock count).tokens ↔
      InRange burst (m.level rps burst clock) := by
  by_cases admitted : count.le (m.level rps burst clock) = true
  · have drawn : m.draw rps burst clock count =
        ⟨(m.level rps burst clock).sub count, clock⟩ := if_pos admitted
    rw [drawn]
    cases count with
    | fin cost =>
      rw [JsNum.zero_fin, JsNum.le_fin] at counts
      -- What fits the refilled meter is no more than what there was.
      have low : JsNum.le 0 (m.tokens.add
          (.fin ((seconds clock - seconds m.time) * rps))) = true := by
        have fits := (JsNum.le_min.mp admitted).2
        generalize m.tokens.add (.fin ((seconds clock - seconds m.time) * rps)) = sum at fits ⊢
        cases sum with
        | fin sum =>
          rw [JsNum.le_fin] at fits
          rw [JsNum.zero_fin, JsNum.le_fin]
          exact le_trans counts fits
        | posInf => rfl
        | negInf | nan => contradiction
      have within := (level_range nonneg).mpr low
      obtain ⟨level, same, _, high⟩ := within
      rw [same] at admitted ⊢
      rw [JsNum.le_fin] at admitted
      have left : InRange burst ((JsNum.fin level).sub (.fin cost)) := by
        refine ⟨level - cost, JsNum.sub_fin _ _, sub_nonneg.mpr admitted, ?_⟩
        linarith only [high, counts]
      exact ⟨fun _ => ⟨level, rfl, le_trans counts admitted, high⟩, fun _ => left⟩
    | posInf =>
      rw [infinite_short] at admitted
      contradiction
    | negInf | nan => contradiction
  · have drawn : m.draw rps burst clock count = m.look rps burst clock := if_neg admitted
    rw [drawn]
    exact Iff.rfl

end Levels

section Calls

variable {rps burst : ℚ} {p after : Process} {call : LimiterCall} {out : List Obs}

/-- A call makes its use of the meter. -/
theorem limiter_used (rates : p.core.AtRates rps burst)
    (stepped : limiterSystem.step p call = some (after, out)) :
    after.core.meter = p.core.meter.after rps burst call.clock call.use ∧
      after.core.AtRates rps burst := by
  obtain ⟨rfl, _⟩ := Prod.mk.inj (Option.some.inj stepped)
  cases call with
  | allowRateLimit env count =>
    obtain ⟨changes, result, makes, limits⟩ := allowRateLimit_makes env p count
    have used := (limits.used rates makes.executed).1
    rw [LimiterCall.program, run_bind_state fun _ _ => rfl]
    exact ⟨used.meter, used.rates⟩
  | getMetrics env =>
    obtain ⟨changes, result, makes, looks⟩ := getMetrics_makes env p
    have used := looks_used rates looks makes.executed
    rw [LimiterCall.program, run_bind_state fun _ _ => rfl]
    exact ⟨used.meter, used.rates⟩

/-- A call leaves the tokens in the range exactly when what its look adds leaves them at zero or
above. -/
theorem call_range (rates : p.core.AtRates rps burst) (nonneg : 0 ≤ burst)
    (counts : call.counts = true) (stepped : limiterSystem.step p call = some (after, out)) :
    InRange burst after.engine.availableTokens ↔ Covered rps p call := by
  have used := (limiter_used rates stepped).1
  have tokens : after.engine.availableTokens =
      (p.core.meter.after rps burst call.clock call.use).tokens := congrArg Meter.tokens used
  rw [tokens]
  cases call with
  | allowRateLimit env count => exact (draw_range nonneg counts).trans (level_range nonneg)
  | getMetrics env => exact level_range nonneg

end Calls

/-- At fixed positive rates a call with a count of zero or more leaves the tokens between zero and
the burst exactly when what its look adds leaves them at zero or above. So they stay there in every
run whose looks do. -/
theorem tokens_in_range {rps burst : ℚ} {init : Process} (rates : init.core.AtRates rps burst)
    (positive : 0 < burst) (range : InRange burst init.engine.availableTokens) :
    (∀ seen p, limiterSystem.Run (fun p call => call.counts = true ∧ Covered rps p call)
        init seen p → InRange burst p.engine.availableTokens) ∧
      ∀ seen p call after out, limiterSystem.Run (fun _ call => call.counts = true) init seen p →
        call.counts = true → limiterSystem.step p call = some (after, out) →
        (InRange burst after.engine.availableTokens ↔ Covered rps p call) := by
  have nonneg := le_of_lt positive
  constructor
  · intro seen p run
    have kept := run.state_invariant (fun p => p.core.AtRates rps burst ∧
      InRange burst p.engine.availableTokens) ⟨rates, range⟩ ?_
    · exact kept.2
    · rintro p call after out ⟨rates, _⟩ ⟨counts, covered⟩ stepped
      exact ⟨(limiter_used rates stepped).2, (call_range rates nonneg counts stepped).mpr covered⟩
  · intro seen p call after out run counts stepped
    have kept : p.core.AtRates rps burst := by
      refine run.state_invariant (fun p => p.core.AtRates rps burst) rates ?_
      exact fun p call after out rates _ stepped => (limiter_used rates stepped).2
    exact call_range kept nonneg counts stepped

/-- The clock is set back a tenth of a second between a call and a look, and the tokens are enough
for that. -/
theorem tokens_in_range_back : ∃ seen p,
    limiterSystem.Run (fun p call => call.counts = true ∧ Covered 10 p call)
      (.withLimiter (.calm 1000) 10 2) seen p ∧
      p.engine.availableTokens = .fin 0 ∧ InRange 2 p.engine.availableTokens := by
  obtain ⟨seen, p, run, passed⟩ := System.exec_witness limiterSystem
    (fun p call => call.counts = true ∧ Covered 10 p call) (.withLimiter (.calm 1000) 10 2)
    [.allowRateLimit (.calm 1000) 1, .getMetrics (.calm 900)]
    (fun last => last.1.engine.availableTokens = .fin 0) (by decide +kernel)
  have full : InRange 2 (Process.withLimiter (.calm 1000) 10 2).engine.availableTokens :=
    ⟨2, rfl, by norm_num, le_rfl⟩
  have kept := (tokens_in_range ⟨rfl, rfl⟩ (by norm_num) full).1 seen p run
  exact ⟨seen, p, run, of_decide_eq_true passed, kept⟩

/-- Set back by a second, it takes ten tokens of two. -/
theorem tokens_below_zero : ∃ seen p,
    limiterSystem.Run (fun _ call => call.counts = true) (.withLimiter (.calm 1000) 10 2) seen p ∧
      p.engine.availableTokens = .fin (-8) ∧ ¬ InRange 2 p.engine.availableTokens := by
  obtain ⟨seen, p, run, passed⟩ := System.exec_witness limiterSystem
    (fun _ call => call.counts = true) (.withLimiter (.calm 1000) 10 2) [.getMetrics (.calm 0)]
    (fun last => last.1.engine.availableTokens = .fin (-8)) (by decide +kernel)
  have tokens : p.engine.availableTokens = .fin (-8) := of_decide_eq_true passed
  refine ⟨seen, p, run, tokens, ?_⟩
  rintro ⟨level, same, low, _⟩
  rw [tokens] at same
  rw [← JsNum.fin.inj same] at low
  norm_num at low

end IngestionEngine.Server
