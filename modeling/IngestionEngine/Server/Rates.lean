import IngestionEngine.Server.Accounting
import IngestionEngine.Server.Limiter

/-!
# A rate that changes between refills

`updateConfig` sets the rate of the limiter without a refill, so the next refill pays for all the
time since the last one at the new rate. As long as no refill pays more than the rates in force
have earned, a window admits no more than the burst and what the window earns.
-/

namespace IngestionEngine.Server

open Systems Program Bucket

/-- The rate in force. -/
def Core.rate (c : Core) : ℚ :=
  match c.rateLimitRps.toNumber with
  | .ok (.fin rps) => rps
  | _ => 0

/-- The process with the rates that were in force, the last one first, each with the time from
which it was. -/
structure Metered where
  /-- The process. -/
  process : Process
  /-- The rates. -/
  rates : List (ℚ × ℚ)

/-- The metered process. -/
def meteredSystem : System Metered Act Obs where
  step m action :=
    (step m.process action).map fun (after, out) =>
      ({ process := after, rates := (seconds action.clock, after.core.rate) :: m.rates }, out)

/-- The metering begins at the last refill. -/
def Metered.start (init : Process) : Metered where
  process := init
  rates := [(seconds init.engine.lastRefillTime, init.core.rate)]

/-- A field of a configuration is missing, or has a value that is passed over. -/
def passesOver (cfg : JsValue) (name : String) : Bool :=
  match cfg.get name with
  | .ok given => !given.truthy
  | .error _ => true

/-- A configuration with no burst, and with a positive rate if it has one. -/
def positiveRate (cfg : JsValue) : Bool :=
  passesOver cfg "rateLimitBurst" && (passesOver cfg "rateLimitRps" ||
    match cfg.get "rateLimitRps" with
    | .ok given =>
      match given.toNumber with
      | .ok (.fin rps) => 0 < rps
      | _ => false
    | .error _ => true)

/-- A change of the configuration leaves the burst and keeps the rate positive. -/
def Act.keepsPositive : Act → Bool
  | .request _ (.updateConfig cfg) => positiveRate cfg
  | _ => true

/-- The action is a call of `getMetrics`. -/
def Act.isMetrics : Act → Bool
  | .request _ .getMetrics => true
  | _ => false

/-- The action refills the bucket. -/
def Process.refills (p : Process) (action : Act) : Bool :=
  action.isSingle || (p.batch action).isSome || action.isMetrics

/-- The clock does not go back, and only positive rates are configured. -/
def Retuned (m : Metered) (action : Act) : Prop :=
  Onward m.process action ∧ action.keepsPositive = true

/-- And a refill pays no more than the rates in force have earned since the last one, or what they
have earned fills the bucket. -/
def NotRetroactive (burst : ℚ) (m : Metered) (action : Act) : Prop :=
  Retuned m action ∧ (m.process.refills action = true →
    m.process.core.Fair m.process.core.rate burst (earned m.rates) action.clock)

instance (m : Metered) (action : Act) : Decidable (Retuned m action) :=
  inferInstanceAs (Decidable (Onward m.process action ∧ action.keepsPositive = true))

instance (number : JsNum) (holds : ℚ → Prop) [DecidablePred holds] :
    Decidable (∀ value, number = .fin value → holds value) :=
  match number with
  | .fin value => decidable_of_iff (holds value) (by simp)
  | .posInf | .negInf | .nan => .isTrue (by simp)

instance (c : Core) (rps burst : ℚ) (earns : ℚ → ℚ) (clock : Int) :
    Decidable (c.Fair rps burst earns clock) :=
  inferInstanceAs (Decidable (_ ≤ _ ∨ ∀ level, c.availableTokens = .fin level → burst ≤ _))

instance (burst : ℚ) (m : Metered) (action : Act) : Decidable (NotRetroactive burst m action) :=
  inferInstanceAs (Decidable (Retuned m action ∧ (_ = true → Core.Fair _ _ burst _ _)))

/-! ### A change of the rate -/

/-- The rate is a positive number. -/
def Core.Rated (c : Core) : Prop := ∃ rps, 0 < rps ∧ c.rateLimitRps.toNumber = .ok (.fin rps)

/-- The rate in force is that number. -/
theorem Core.Rated.rate {c : Core} (rated : c.Rated) :
    0 < c.rate ∧ c.rateLimitRps.toNumber = .ok (.fin c.rate) := by
  obtain ⟨rps, positive, number⟩ := rated
  have same : c.rate = rps := by rw [Core.rate, number]
  rw [same]
  exact ⟨positive, number⟩

/-- A change that sets a positive rate, or ends a call that threw. -/
inductive Change.Retunes : Change → Prop where
  /-- The rate. -/
  | rate {given : JsValue} {rps : ℚ} (positive : 0 < rps)
      (number : given.toNumber = .ok (.fin rps)) : Change.Retunes (.setRps given)
  /-- The end. -/
  | ends (thrown : JsError) : Change.Retunes (.finish (.threw thrown))

/-- What a configuration with a positive rate changes. -/
theorem configures_retunes {cfg : JsValue} (permitted : positiveRate cfg = true) {change : Change}
    (configures : Configures cfg change) : change.Retunes := by
  unfold positiveRate at permitted
  rw [Bool.and_eq_true, Bool.or_eq_true] at permitted
  obtain ⟨noBurst, positive⟩ := permitted
  have passes {name : String} {given : JsValue} (found : cfg.get name = .ok given)
      (set : given.truthy = true) : ¬ passesOver cfg name = true := by
    simp [passesOver, found, set]
  cases configures with
  | burst found set | cap found set number => exact absurd noBurst (passes found set)
  | rps found set =>
    have number := positive.resolve_left (passes found set)
    rw [found] at number
    dsimp only at number
    split at number
    · rename_i rps finite
      exact .rate (of_decide_eq_true number) finite
    · contradiction

/-- Such changes keep the rate positive and leave the rest of the bucket alone. -/
theorem exec_retunes {changes : List Change} (retunes : ∀ change ∈ changes, change.Retunes)
    {c after : Core} {out : List Obs} (rated : c.Rated)
    (executed : coreSystem.exec System.unguarded c changes = some (after, out)) :
    after.Rated ∧ after.bucket.2 = c.bucket.2 ∧ out.flatMap Obs.charges = [] ∧
      out.flatMap Obs.arrivals = [] := by
  induction changes generalizing c out with
  | nil =>
    simp only [System.exec, Option.some.injEq, Prod.mk.injEq] at executed
    obtain ⟨rfl, rfl⟩ := executed
    exact ⟨rated, rfl, rfl, rfl⟩
  | cons change rest ih =>
    obtain ⟨own, others⟩ := List.forall_mem_cons.mp retunes
    obtain ⟨_, middle, first, later, stepped, tail, rfl⟩ := System.exec_cons executed
    have moved : middle.Rated ∧ middle.bucket.2 = c.bucket.2 ∧
        first.flatMap Obs.charges = [] ∧ first.flatMap Obs.arrivals = [] := by
      cases own with
      | rate positive number =>
        obtain ⟨rfl, rfl⟩ := Prod.mk.inj (Option.some.inj stepped)
        exact ⟨⟨_, positive, number⟩, rfl, rfl, rfl⟩
      | ends thrown =>
        obtain ⟨rfl, rfl⟩ := Prod.mk.inj (Option.some.inj stepped)
        exact ⟨rated, rfl, rfl, rfl⟩
    obtain ⟨between, same, free, none⟩ := moved
    obtain ⟨ends, kept, charges, arrivals⟩ := ih others between tail
    refine ⟨ends, kept.trans same, ?_, ?_⟩
    · rw [List.flatMap_append, free, charges, List.append_nil]
    · rw [List.flatMap_append, none, arrivals, List.append_nil]

/-! ### Which steps refill -/

/-- A step refills the bucket only if its action says so. -/
theorem refills_of_makes {p : Process} {action : Act} {changes : List Change}
    (makes : StepMakes p action changes) {clock : Int} (refill : .refill clock ∈ changes) :
    p.refills action = true := by
  have before {changes : List Change} {shown : JsError → Obs} {result : Except JsError Unit}
      (refill : .refill clock ∈ changes ++ ending shown result) : .refill clock ∈ changes := by
    rcases List.mem_append.mp refill with own | late
    · exact own
    · cases result <;> simp [ending] at late
  cases makes with
  | request makes =>
    have own := before refill
    cases makes with
    | single makes | singleThrows makes | batch makes | batchThrows makes | metrics makes
    | metricsThrows makes => rfl
    | startLoadTest | stopLoadTest | shutdownThrows => contradiction
    | updateConfig configures => cases configures _ own
    | shutdown flushing => rcases flushing with rfl | rfl <;> simp at own
  | @fire env timer changes result live makes =>
    have own := before refill
    obtain ⟨id, task, due, period⟩ := timer
    have found := EventLoop.find_id live
    cases makes with
    | idle | overflows => contradiction
    | moved flushing => rcases flushing with rfl | rfl <;> simp at own
    | flushed => simp at own
    | loadTest active ticks makes =>
      simp [Process.refills, Process.batch, found, active, ticks]

/-! ### Runs with changing rates -/

section Budgets

variable {rps burst start stop spent : ℚ} {earns : ℚ → ℚ}

/-- What is settled depends only on what was earned up to the last refill. -/
theorem Settled.agree {c : Core} {clock : Int} {out : List Obs}
    (settled : Settled rps burst start stop earns spent clock out c) {others : ℚ → ℚ}
    (same : ∀ time ≤ seconds c.lastRefillTime, others time = earns time) :
    Settled rps burst start stop others spent clock out c := by
  obtain ⟨level, holds, low, high, budget⟩ := settled.solvent.budget
  refine ⟨settled.rate, settled.last, ?_, settled.arrivals⟩
  exact ⟨settled.solvent.limit, level, holds, low, high, budget.agree same⟩

/-- A change of the rate settles the bucket at the new rate. -/
theorem Settled.retuned {c after : Core} {early late : Int} {out : List Obs} {new : ℚ}
    (settled : Settled rps burst start stop earns spent early [] c) (onward : early ≤ late)
    (same : after.bucket.2 = c.bucket.2) (rate : after.rateLimitRps.toNumber = .ok (.fin new))
    (charges : out.flatMap Obs.charges = []) (arrivals : out.flatMap Obs.arrivals = []) :
    Settled new burst start stop earns spent late out after := by
  simp only [Core.bucket, Prod.mk.injEq] at same
  obtain ⟨limit, tokens, last⟩ := same
  constructor
  · exact rate
  · rw [last]
    exact le_trans settled.last onward
  · rw [charges]
    constructor
    · rw [limit]
      exact settled.solvent.limit
    · rw [tokens, last]
      exact settled.solvent.budget
  · rw [charges, arrivals, spentWithin_nil, mul_zero]

/-- The bucket of a metered process is settled with what its rates have earned. -/
structure Metered.Sound (burst start stop spent : ℚ) (out : List Obs) (m : Metered) : Prop where
  /-- No rate was negative. -/
  rates : ∀ piece ∈ m.rates, 0 ≤ piece.2
  /-- The rate in force is positive. -/
  rated : m.process.core.Rated
  /-- The bucket is settled. -/
  settled : Settled m.process.core.rate burst start stop (earned m.rates) spent
    m.process.loop.time out m.process.core

/-- A call of `updateConfig` keeps the bucket settled and the rate positive. -/
theorem config_settles {p after : Process} {action : Act} {out : List Obs}
    (settled : Settled p.core.rate burst start stop earns spent p.loop.time [] p.core)
    (rated : p.core.Rated) (onward : Onward p action) (config : action.isConfig = true)
    (keepsPositive : action.keepsPositive = true) (stepped : step p action = some (after, out)) :
    after.core.Rated ∧
      Settled after.core.rate burst start stop earns spent after.loop.time out after.core := by
  obtain ⟨changes, executed, makes⟩ := step_makes stepped
  have retunes : ∀ change ∈ changes, change.Retunes := by
    cases makes with
    | fire => contradiction
    | @request env request changes result makes =>
      cases makes with
      | updateConfig configures =>
        refine List.forall_mem_append.mpr ⟨?_, ?_⟩
        · exact fun change member => configures_retunes keepsPositive (configures change member)
        · cases result with
          | ok value => exact List.forall_mem_nil _
          | error thrown => exact List.forall_mem_cons.mpr ⟨.ends thrown, List.forall_mem_nil _⟩
      | single | singleThrows | batch | batchThrows | metrics | metricsThrows | startLoadTest
      | stopLoadTest | shutdown | shutdownThrows => contradiction
  obtain ⟨kept, same, charges, arrivals⟩ := exec_retunes retunes rated executed
  rw [flatMap_core _ (fun _ => rfl) fun _ => rfl] at charges arrivals
  rw [step_time stepped]
  exact ⟨kept, settled.retuned onward same kept.rate.2 charges arrivals⟩

/-- A step that is not retroactive keeps a metered process sound. -/
theorem metered_step (positive : 0 ≤ burst) (window : start ≤ stop) {m after : Metered}
    {action : Act} {seen out : List Obs} (sound : m.Sound burst start stop 0 seen)
    (permitted : NotRetroactive burst m action)
    (stepped : meteredSystem.step m action = some (after, out)) :
    after.Sound burst start stop 0 (seen ++ out) := by
  obtain ⟨⟨process, shown⟩, moved, same⟩ := Option.map_eq_some_iff.mp stepped
  obtain ⟨rfl, rfl⟩ := Prod.mk.inj same
  obtain ⟨⟨onward, keepsPositive⟩, fair⟩ := permitted
  have mono : Monotone (earned m.rates) := earned_mono sound.rates
  obtain ⟨nonneg, _⟩ := sound.rated.rate
  have step : process.core.Rated ∧ Settled process.core.rate burst start stop (earned m.rates)
      (0 + spentWithin start stop (seen.flatMap Obs.charges)) process.loop.time shown
      process.core := by
    cases isConfig : action.isConfig with
    | false =>
      have settled := step_settles mono (le_of_lt nonneg) positive window sound.settled.opened
        onward isConfig (fun changes makes refill => fair (refills_of_makes makes refill)) moved
      have rated : process.core.Rated := ⟨_, nonneg, settled.rate⟩
      have kept : process.core.rate = m.process.core.rate := by
        rw [Core.rate, settled.rate]
      rw [kept]
      exact ⟨rated, settled⟩
    | true =>
      exact config_settles sound.settled.opened sound.rated onward isConfig keepsPositive moved
  obtain ⟨rated, settled⟩ := step
  obtain ⟨increasing, _⟩ := rated.rate
  refine ⟨?_, rated, (sound.settled.joined settled).agree ?_⟩
  · exact List.forall_mem_cons.mpr ⟨le_of_lt increasing, sound.rates⟩
  · intro time before
    apply earned_before
    apply le_trans before
    have last := settled.last
    rw [step_time moved] at last
    exact seconds_mono last

end Budgets

/-- As long as no refill is retroactive, the cost admitted in a window is at most the burst and
what the rates in force have earned in the window. -/
theorem changing_rate_envelope {rps burst level : ℚ} {init : Process} {m : Metered}
    {seen : List Obs} (refills : 0 < rps) (holds : 0 < burst)
    (rate : init.engine.rateLimitRps.toNumber = .ok (.fin rps))
    (limit : init.engine.rateLimitBurst.toNumber = .ok (.fin burst))
    (tokens : init.engine.availableTokens = .fin level) (within : 0 ≤ level ∧ level ≤ burst)
    (last : init.engine.lastRefillTime ≤ init.loop.time)
    (run : meteredSystem.Run (NotRetroactive burst) (.start init) seen m) :
    ∀ start stop, start ≤ stop → spentWithin start stop (seen.flatMap Obs.charges) ≤
      burst + (earned m.rates stop - earned m.rates start) := by
  intro start stop window
  have nonneg := le_of_lt holds
  have rated : init.core.Rated := ⟨rps, refills, rate⟩
  have pieces : ∀ piece ∈ (Metered.start init).rates, 0 ≤ piece.2 := by
    intro piece member
    rw [List.mem_singleton.mp member]
    exact le_of_lt rated.rate.1
  have sound : m.Sound burst start stop 0 seen := by
    refine run.invariant (fun seen m => m.Sound burst start stop 0 seen) ?_ ?_
    · refine ⟨pieces, rated, ?_⟩
      exact settled_full (earned_mono pieces) nonneg window rated.rate.2 limit tokens within last
    · intro seen m action after out sound permitted stepped
      exact metered_step nonneg window sound permitted stepped
  obtain ⟨left, _, _, _, budget⟩ := sound.settled.solvent.budget
  have total := budget.total (earned_mono sound.rates) nonneg window
  rwa [zero_add] at total

/-- The rate is lowered from ten tokens a second to one after a poll: until then one token was
earned, which two calls pay together with the burst of one. -/
theorem changing_rate_envelope_met :
    ∃ seen m, meteredSystem.Run (NotRetroactive 1) (.start (.withLimiter (.calm 0) 10 1)) seen m ∧
      spentWithin 0 (1 / 10) (seen.flatMap Obs.charges) = 2 ∧
      spentWithin 0 (1 / 10) (seen.flatMap Obs.charges) ≤
        1 + (earned m.rates (1 / 10) - earned m.rates 0) := by
  obtain ⟨seen, m, run, passed⟩ := System.exec_witness meteredSystem (NotRetroactive 1)
    (.start (.withLimiter (.calm 0) 10 1))
    [.request (.calm 0) (.ingestSingle plainEvent), .request (.calm 100) .getMetrics,
      .request (.calm 100) (.updateConfig (.obj [("rateLimitRps", .num 1)])),
      .request (.calm 100) (.ingestSingle plainEvent),
      .request (.calm 1000) (.ingestSingle plainEvent)]
    (fun (_, seen) => spentWithin 0 (1 / 10) (seen.flatMap Obs.charges) = 2) (by decide +kernel)
  have envelope := changing_rate_envelope (by norm_num) (by norm_num) rfl rfl rfl (by norm_num)
    (le_refl (0 : Int)) run 0 (1 / 10) (by norm_num)
  exact ⟨seen, m, run, of_decide_eq_true passed, envelope⟩

/-- At one token a second with a burst of one, a call takes the token. Half a second later the
rate is raised to a thousand, and another call is admitted at once, though the half second has
earned only half a token. -/
theorem changing_rate_exceeded :
    ∃ seen m, meteredSystem.Run Retuned (.start (.withLimiter (.calm 0) 1 1)) seen m ∧
      1 + (earned m.rates (1 / 2) - earned m.rates 0) <
        spentWithin 0 (1 / 2) (seen.flatMap Obs.charges) := by
  obtain ⟨seen, m, run, passed⟩ := System.exec_witness meteredSystem Retuned
    (.start (.withLimiter (.calm 0) 1 1))
    [.request (.calm 0) (.ingestSingle plainEvent),
      .request (.calm 500) (.updateConfig (.obj [("rateLimitRps", .num 1000)])),
      .request (.calm 500) (.ingestSingle plainEvent)]
    (fun (m, seen) => 1 + (earned m.rates (1 / 2) - earned m.rates 0) <
      spentWithin 0 (1 / 2) (seen.flatMap Obs.charges)) (by decide +kernel)
  exact ⟨seen, m, run, of_decide_eq_true passed⟩

end IngestionEngine.Server
