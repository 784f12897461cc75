import IngestionEngine.Server.Numeric
import IngestionEngine.Server.Settled

/-!
# The configuration that requests leave

`updateConfig` assigns the fields that are given, in a fixed order, until a conversion throws.
The bounds of a field hold for every number but not for `NaN`, which neither bound replaces, and
the rates of the limiter are assigned as they come.
-/

namespace IngestionEngine.Server

open Systems Program

/-- The fields that `updateConfig` puts between two bounds. -/
inductive Field where
  /-- `workerCount` -/
  | workerCount
  /-- `channelCapacity` -/
  | channelCapacity
  /-- `batchThreshold` -/
  | batchThreshold
  /-- `batchFlushWindowMs` -/
  | batchFlushWindowMs
  deriving DecidableEq

namespace Field

/-- The property of the request. -/
def name : Field → String
  | workerCount => "workerCount"
  | channelCapacity => "channelCapacity"
  | batchThreshold => "batchThreshold"
  | batchFlushWindowMs => "batchFlushWindowMs"

/-- The lower bound. -/
def low : Field → ℚ
  | workerCount => 2
  | channelCapacity => 500
  | batchThreshold => 100
  | batchFlushWindowMs => 20

/-- The upper bound. -/
def high : Field → ℚ
  | workerCount => 256
  | channelCapacity => 500000
  | batchThreshold => 50000
  | batchFlushWindowMs => 5000

/-- The bounds are in order. -/
theorem low_le_high (field : Field) : field.low ≤ field.high := by
  cases field <;> norm_num [low, high]

end Field

/-- The configuration of an engine. -/
structure Config where
  /-- The fields between two bounds. -/
  clamped : Field → JsNum
  /-- `rateLimitRps` -/
  rateLimitRps : JsValue
  /-- `rateLimitBurst` -/
  rateLimitBurst : JsValue

/-- A field of the engine. -/
def Engine.field (e : Engine) : Field → JsNum
  | .workerCount => e.workerCount
  | .channelCapacity => e.channelCapacity
  | .batchThreshold => e.batchThreshold
  | .batchFlushWindowMs => e.batchFlushWindowMs

/-- The configuration of the engine. -/
def Engine.config (e : Engine) : Config where
  clamped := e.field
  rateLimitRps := e.rateLimitRps
  rateLimitBurst := e.rateLimitBurst

/-- A finite number between two bounds. -/
def Within (low high : ℚ) (value : JsNum) : Prop := ∃ q, value = .fin q ∧ low ≤ q ∧ q ≤ high

/-- A finite number greater than zero. -/
def Positive (rate : JsValue) : Prop := ∃ q, rate = .num (.fin q) ∧ 0 < q

/-- Every field is a number within its bounds, and both rates are positive numbers. -/
structure Config.Valid (c : Config) : Prop where
  /-- The fields between two bounds. -/
  within : ∀ field : Field, Within field.low field.high (c.clamped field)
  /-- `rateLimitRps` -/
  rps : Positive c.rateLimitRps
  /-- `rateLimitBurst` -/
  burst : Positive c.rateLimitBurst

/-! ### What a request asks for -/

/-- The number that a field is given, if it is. -/
def givenNumber (cfg : JsValue) (name : String) : Except JsError (Option JsNum) := do
  let given ← cfg.get name
  if given.truthy then
    let value ← given.toNumber
    return some value
  else return none

/-- The value that a rate is given, if it is. -/
def givenValue (cfg : JsValue) (name : String) : Except JsError (Option JsValue) := do
  let given ← cfg.get name
  return if given.truthy then some given else none

/-- A value is a positive finite number. -/
def isPositive : JsValue → Bool
  | .num (.fin q) => 0 < q
  | _ => false

/-- The given rates are positive finite numbers. -/
def soundRates (cfg : JsValue) : Bool :=
  let soundBurst :=
    match givenValue cfg "rateLimitBurst" with
    | .ok (some given) => isPositive given
    | _ => true
  match givenValue cfg "rateLimitRps" with
  | .error _ => true
  | .ok none => soundBurst
  | .ok (some given) => isPositive given && soundBurst

/-- The given fields are numbers other than `NaN`, up to the first that throws, and if none does
the given rates are positive finite numbers. -/
def soundFields (cfg : JsValue) : List Field → Bool
  | [] => soundRates cfg
  | field :: rest =>
    match givenNumber cfg field.name with
    | .error _ => true
    | .ok none => soundFields cfg rest
    | .ok (some value) => value ≠ .nan && soundFields cfg rest

/-- The fields in the order in which they are assigned. -/
def allFields : List Field := [.workerCount, .channelCapacity, .batchThreshold, .batchFlushWindowMs]

/-- Every configuration that is asked for is sound. -/
def SoundConfig (_ : Process) : Act → Prop
  | .request _ (.updateConfig cfg) => soundFields cfg allFields = true
  | .request _ _ | .fire _ _ => True

/-- The request gets as far as the window and gives one, which restarts the ticker that flushes. -/
def restartsTicker (cfg : JsValue) : Bool :=
  (givenNumber cfg "workerCount").isOk && (givenNumber cfg "channelCapacity").isOk &&
    (givenNumber cfg "batchThreshold").isOk &&
      match givenNumber cfg "batchFlushWindowMs" with
      | .ok (some _) => true
      | _ => false

/-! ### What a request leaves -/

/-- Assign a field. -/
def Config.assign (field : Field) (value : JsNum) (c : Config) : Config :=
  { c with clamped := fun other => if other = field then value else c.clamped other }

/-- The configuration with the given rates. -/
def configuredRates (cfg : JsValue) (c : Config) : Config :=
  let burst (c : Config) : Config :=
    match givenValue cfg "rateLimitBurst" with
    | .ok (some given) => { c with rateLimitBurst := given }
    | _ => c
  match givenValue cfg "rateLimitRps" with
  | .error _ => c
  | .ok none => burst c
  | .ok (some given) => burst { c with rateLimitRps := given }

/-- The configuration with the given fields and rates, up to the first that throws. -/
def configured (cfg : JsValue) : List Field → Config → Config
  | [], c => configuredRates cfg c
  | field :: rest, c =>
    match givenNumber cfg field.name with
    | .error _ => c
    | .ok none => configured cfg rest c
    | .ok (some value) =>
      configured cfg rest
        (c.assign field (JsNum.max (.fin field.low) (.min (.fin field.high) value)))

/-- A rate is positive when the test says so. -/
theorem isPositive_iff (rate : JsValue) : isPositive rate = true ↔ Positive rate := by
  unfold Positive
  cases rate with
  | num value => cases value <;> simp [isPositive]
  | undefined | null | bool | str | arr | obj => simp [isPositive]

/-- The rates do not change a field between two bounds. -/
theorem configuredRates_clamped (cfg : JsValue) (c : Config) :
    (configuredRates cfg c).clamped = c.clamped := by
  unfold configuredRates
  dsimp only
  split
  · rfl
  · split <;> rfl
  · split <;> rfl

/-- A field that is not among those assigned stays. -/
theorem configured_other (cfg : JsValue) {field : Field} {fields : List Field}
    (other : field ∉ fields) (c : Config) :
    (configured cfg fields c).clamped field = c.clamped field := by
  induction fields generalizing c with
  | nil => exact congrFun (configuredRates_clamped cfg c) field
  | cons first rest ih =>
    rw [List.mem_cons, not_or] at other
    obtain ⟨different, outside⟩ := other
    rw [configured]
    split
    · rfl
    · exact ih outside c
    · rw [ih outside]
      exact if_neg different

/-- The given rates leave a valid configuration valid exactly when they are sound. -/
theorem configuredRates_valid (cfg : JsValue) {c : Config} (valid : c.Valid) :
    (configuredRates cfg c).Valid ↔ soundRates cfg = true := by
  have both (rps burst : JsValue) :
      ({ c with rateLimitRps := rps, rateLimitBurst := burst } : Config).Valid ↔
        isPositive rps = true ∧ isPositive burst = true := by
    rw [isPositive_iff, isPositive_iff]
    exact ⟨fun kept => ⟨kept.rps, kept.burst⟩, fun rates => ⟨valid.within, rates.1, rates.2⟩⟩
  have rps : isPositive c.rateLimitRps = true := (isPositive_iff _).mpr valid.rps
  have burst : isPositive c.rateLimitBurst = true := (isPositive_iff _).mpr valid.burst
  unfold configuredRates soundRates
  cases givenValue cfg "rateLimitRps" with
  | error thrown => exact iff_of_true valid rfl
  | ok givenRps =>
    cases givenValue cfg "rateLimitBurst" with
    | error thrown =>
      cases givenRps with
      | none => exact iff_of_true valid rfl
      | some given => exact (both given c.rateLimitBurst).trans (by simp [burst])
    | ok givenBurst =>
      cases givenRps with
      | none =>
        cases givenBurst with
        | none => exact iff_of_true valid rfl
        | some given => exact (both c.rateLimitRps given).trans (by simp [rps])
      | some first =>
        cases givenBurst with
        | none => exact (both first c.rateLimitBurst).trans (by simp [burst])
        | some second => exact (both first second).trans (by simp)

/-- The given fields leave a valid configuration valid exactly when they are sound. -/
theorem configured_valid (cfg : JsValue) {fields : List Field} (distinct : fields.Nodup)
    {c : Config} (valid : c.Valid) :
    (configured cfg fields c).Valid ↔ soundFields cfg fields = true := by
  induction fields generalizing c with
  | nil => exact configuredRates_valid cfg valid
  | cons field rest ih =>
    obtain ⟨fresh, others⟩ := List.nodup_cons.mp distinct
    rw [configured, soundFields]
    cases givenNumber cfg field.name with
    | error thrown => exact iff_of_true valid rfl
    | ok given =>
      cases given with
      | none => exact ih others valid
      | some value =>
        by_cases number : value = .nan
        · subst number
          refine iff_of_false (fun kept => ?_) (by simp)
          have assigned := kept.within field
          rw [configured_other cfg fresh] at assigned
          obtain ⟨q, finite, _⟩ := assigned
          have lost : (c.assign field .nan).clamped field = .fin q := finite
          simp [Config.assign] at lost
        · obtain ⟨q, finite, above, below⟩ := JsNum.clamp_fin number field.low_le_high
          have assigned : (c.assign field (.fin q)).Valid := by
            refine ⟨fun other => ?_, valid.rps, valid.burst⟩
            by_cases same : other = field
            · subst same
              exact ⟨q, if_pos rfl, above, below⟩
            · have kept : (c.assign field (.fin q)).clamped other = c.clamped other := if_neg same
              rw [kept]
              exact valid.within other
          dsimp only
          rw [finite, ih others assigned]
          simp [number]

/-- No field that is a finite number is below its lower bound. -/
def Config.Above (c : Config) : Prop := ∀ field q, c.clamped field = .fin q → field.low ≤ q

/-- The given fields are put above their lower bounds, unless they are `NaN`. -/
theorem configured_above (cfg : JsValue) (fields : List Field) {c : Config} (above : c.Above) :
    (configured cfg fields c).Above := by
  induction fields generalizing c with
  | nil =>
    intro field
    rw [configured, configuredRates_clamped]
    exact above field
  | cons field rest ih =>
    rw [configured]
    split
    · exact above
    · exact ih above
    · rename_i value found
      apply ih
      intro other q finite
      by_cases same : other = field
      · subst same
        simp only [Config.assign, ↓reduceIte] at finite
        by_cases number : value = .nan
        · rw [number] at finite
          contradiction
        · obtain ⟨put, clamped, least, _⟩ := JsNum.clamp_fin number other.low_le_high
          rw [clamped] at finite
          rwa [← JsNum.fin.inj finite]
      · simp only [Config.assign, if_neg same] at finite
        exact above other q finite

/-! ### What `updateConfig` does -/

/-- A field that can be read is given when it is not empty. -/
theorem givenNumber_read {cfg given : JsValue} {name : String} (found : cfg.get name = .ok given) :
    givenNumber cfg name = if given.truthy then given.toNumber.map some else .ok none := by
  unfold givenNumber
  rw [found]
  by_cases set : given.truthy = true
  · simp only [bind, Except.bind, if_pos set]
    cases given.toNumber <;> rfl
  · simp only [bind, Except.bind, if_neg set]
    rfl

/-- A field between two bounds. -/
theorem run_assignClamped (cfg : JsValue) (name : String) (low high : JsNum)
    (assign : JsNum → Engine → Engine) (afterwards : Js Unit) (p : Process) :
    (assignClamped cfg name low high assign afterwards).run p =
      match givenNumber cfg name with
      | .error thrown => ⟨p, [], .error thrown⟩
      | .ok none => ⟨p, [], .ok ()⟩
      | .ok (some value) =>
        afterwards.run { p with engine := assign (.max low (.min high value)) p.engine } := by
  cases found : cfg.get name with
  | error thrown =>
    have given : givenNumber cfg name = .error thrown := by
      unfold givenNumber
      rw [found]
      rfl
    rw [given, assignClamped, found]
    rfl
  | ok given =>
    rw [givenNumber_read found, assignClamped, found]
    simp only [run_bind, run_lift, andThen_ok]
    by_cases set : given.truthy = true
    · rw [if_pos set, if_pos set]
      cases number : given.toNumber <;> simp only [run_bind, run_lift] <;> rfl
    · rw [if_neg set, if_neg set]
      rfl

/-- A field between two bounds, and what comes after it. -/
theorem config_clamped (field : Field) {cfg : JsValue} {fields : List Field}
    {assign : JsNum → Engine → Engine} {afterwards next : Js Unit}
    (assigns : ∀ value e, (assign value e).config = e.config.assign field value)
    (ends : ∀ p, ∃ (q : Process), afterwards.run p = ⟨q, [], .ok ()⟩ ∧
      q.engine.config = p.engine.config)
    (later : ∀ p, (next.run p).state.engine.config = configured cfg fields p.engine.config)
    (p : Process) :
    ((assignClamped cfg field.name (.fin field.low) (.fin field.high) assign afterwards >>=
        fun _ => next).run p).state.engine.config =
      configured cfg (field :: fields) p.engine.config := by
  rw [run_bind, run_assignClamped, configured]
  cases givenNumber cfg field.name with
  | error thrown => rfl
  | ok given =>
    cases given with
    | none => exact later p
    | some value =>
      obtain ⟨q, ran, same⟩ := ends
        { p with
          engine := assign (.max (.fin field.low) (.min (.fin field.high) value)) p.engine }
      simp only [ran, andThen_ok, after_state]
      rw [later, same]
      exact congrArg (configured cfg fields) (assigns _ _)

/-- A rate that can be read is given when it is not empty. -/
theorem givenValue_read {cfg given : JsValue} {name : String} (found : cfg.get name = .ok given) :
    givenValue cfg name = .ok (if given.truthy then some given else none) := by
  unfold givenValue
  rw [found]
  rfl

/-- A rate that cannot be read throws. -/
theorem givenValue_error {cfg : JsValue} {name : String} {thrown : JsError}
    (failed : cfg.get name = .error thrown) : givenValue cfg name = .error thrown := by
  unfold givenValue
  rw [failed]
  rfl

/-- A rate that is given is assigned. -/
theorem run_updateRateLimitRps (cfg : JsValue) (p : Process) :
    (updateRateLimitRps cfg).run p =
      match givenValue cfg "rateLimitRps" with
      | .error thrown => ⟨p, [], .error thrown⟩
      | .ok none => ⟨p, [], .ok ()⟩
      | .ok (some given) =>
        ⟨{ p with engine := { p.engine with rateLimitRps := given } }, [], .ok ()⟩ := by
  cases found : cfg.get "rateLimitRps" with
  | error thrown =>
    rw [givenValue_error found, updateRateLimitRps, found]
    rfl
  | ok given =>
    rw [givenValue_read found, updateRateLimitRps, found]
    simp only [run_bind, run_lift, andThen_ok, run_onlyIf]
    by_cases set : given.truthy = true
    · simp only [if_pos set]
      rfl
    · simp only [if_neg set]
      rfl

/-- A burst that is given is assigned, also when its conversion throws. -/
theorem config_updateRateLimitBurst (cfg : JsValue) (p : Process) :
    ((updateRateLimitBurst cfg).run p).state.engine.config =
      match givenValue cfg "rateLimitBurst" with
      | .ok (some given) => { p.engine.config with rateLimitBurst := given }
      | _ => p.engine.config := by
  cases found : cfg.get "rateLimitBurst" with
  | error thrown =>
    rw [givenValue_error found, updateRateLimitBurst, found]
    rfl
  | ok given =>
    rw [givenValue_read found, updateRateLimitBurst, found]
    simp only [run_bind, run_lift, andThen_ok]
    by_cases set : given.truthy = true
    · simp only [if_pos set, run_bind, run_update, run_lift, andThen_ok, after_state]
      cases given.toNumber <;> rfl
    · simp only [if_neg set]
      rfl

/-- A log entry changes no configuration. -/
theorem config_log (env : Env) {program : Js Unit} {level : LogLevel} {msg caller : String}
    {fields : JsValue} (p : Process) :
    ((program >>= fun _ => addLog env level msg caller fields).run p).state.engine.config =
      (program.run p).state.engine.config := by
  rw [run_bind]
  generalize program.run p = outcome
  obtain ⟨state, out, result⟩ := outcome
  cases result with
  | error thrown => rfl
  | ok value => rw [andThen_ok, after_state, run_addLog]; rfl

/-- The end of `updateConfig`, which assigns the rates. -/
theorem config_rates (env : Env) (cfg : JsValue) (p : Process) :
    ((do
      updateRateLimitRps cfg
      updateRateLimitBurst cfg
      addLog env .info "Engine configuration dynamically reloaded" "config.Update" cfg
      ).run p).state.engine.config = configured cfg [] p.engine.config := by
  rw [run_bind, run_updateRateLimitRps, configured, configuredRates]
  cases givenValue cfg "rateLimitRps" with
  | error thrown => rfl
  | ok given =>
    cases given with
    | none =>
      rw [andThen_ok, after_state, config_log, config_updateRateLimitBurst]
    | some given =>
      rw [andThen_ok, after_state, config_log, config_updateRateLimitBurst]
      rfl

/-- An assignment of one field, seen in the configuration. -/
theorem config_assign {field : Field} {value : JsNum} {e after : Engine}
    (fields : ∀ other, after.field other = if other = field then value else e.field other)
    (rps : after.rateLimitRps = e.rateLimitRps) (burst : after.rateLimitBurst = e.rateLimitBurst) :
    after.config = e.config.assign field value := by
  have same : after.field = fun other => if other = field then value else e.field other :=
    funext fields
  rw [Engine.config, same, rps, burst]
  rfl

/-- `updateConfig` leaves the configuration that was asked for. -/
theorem config_updateConfig (env : Env) (cfg : JsValue) (p : Process) :
    ((updateConfig env cfg).run p).state.engine.config =
      configured cfg allFields p.engine.config := by
  have quiet (p : Process) : ∃ (q : Process), (pure () : Js Unit).run p = ⟨q, [], .ok ()⟩ ∧
      q.engine.config = p.engine.config := ⟨p, rfl, rfl⟩
  have ticker (p : Process) : ∃ (q : Process), startBatchTicker.run p = ⟨q, [], .ok ()⟩ ∧
      q.engine.config = p.engine.config := ⟨_, rfl, rfl⟩
  refine config_clamped .workerCount (fun _ _ => ?_) quiet (fun p => ?_) p
  · exact config_assign (fun other => by cases other <;> rfl) rfl rfl
  refine config_clamped .channelCapacity (fun _ _ => ?_) quiet (fun p => ?_) p
  · exact config_assign (fun other => by cases other <;> rfl) rfl rfl
  refine config_clamped .batchThreshold (fun _ _ => ?_) quiet (fun p => ?_) p
  · exact config_assign (fun other => by cases other <;> rfl) rfl rfl
  refine config_clamped .batchFlushWindowMs (fun _ _ => ?_) ticker (fun p => ?_) p
  · exact config_assign (fun other => by cases other <;> rfl) rfl rfl
  exact config_rates env cfg p

/-! ### What a step leaves -/

/-- The configuration that an action leaves. -/
def Act.configures (c : Config) : Act → Config
  | .request _ (.updateConfig cfg) => configured cfg allFields c
  | .request _ _ | .fire _ _ => c

/-- The configuration is among what only flushes and configurations assign. -/
theorem configuration_settles (env : Env) (value : Config) :
    Settles env fun e => e.config = value where
  assigned := by
    intro e after same held
    simp only [Engine.settled, Prod.mk.injEq] at same
    obtain ⟨⟨workers, capacity, threshold, window⟩, ⟨rps, burst⟩, _⟩ := same
    have fields : after.field = e.field := by
      funext field
      cases field with
      | workerCount => exact workers
      | channelCapacity => exact capacity
      | batchThreshold => exact threshold
      | batchFlushWindowMs => exact window
    rw [← held, Engine.config, Engine.config, fields, rps, burst]
  flushed := fun reason =>
    keeps_of_view Process.exceptFlush (fun _ => Iff.rfl) (keeps_triggerFlush env reason)

/-- A step leaves the configuration that was asked for, or the one before it. -/
theorem step_configures {p after : Process} {action : Act} {out : List Obs}
    (stepped : step p action = some (after, out)) :
    after.engine.config = action.configures p.engine.config := by
  cases step_cases stepped with
  | @request env request alive =>
    rw [respond_state]
    have kept (other : ∀ cfg, request ≠ .updateConfig cfg) :
        ((request.call env).run (p.begin env)).state.engine.config = p.engine.config :=
      (configuration_settles env p.engine.config).request other (p.begin env) rfl
    cases request with
    | updateConfig cfg => exact config_updateConfig env cfg (p.begin env)
    | ingestSingle | ingestBatch | getMetrics | startLoadTest | stopLoadTest
    | simulateGracefulShutdown => exact kept (by simp)
  | @fire env timer alive live =>
    rw [(finish_state _).2]
    exact (configuration_settles env p.engine.config).callback timer.task (p.fired env timer) rfl

/-- A step leaves a valid configuration valid exactly when it asks for a sound one, if any. -/
theorem step_config {p after : Process} {action : Act} {out : List Obs}
    (valid : p.engine.config.Valid) (stepped : step p action = some (after, out)) :
    after.engine.config.Valid ↔ SoundConfig p action := by
  rw [step_configures stepped]
  cases action with
  | fire env id => exact iff_of_true valid trivial
  | request env request =>
    cases request with
    | updateConfig cfg => exact configured_valid cfg (by decide) valid
    | ingestSingle | ingestBatch | getMetrics | startLoadTest | stopLoadTest
    | simulateGracefulShutdown => exact iff_of_true valid trivial

/-- The constructor leaves a valid configuration. -/
theorem start_config (env : Env) : (Process.start env).engine.config.Valid := by
  refine ⟨fun field => ?_, ⟨10000, rfl, by norm_num⟩, ⟨20000, rfl, by norm_num⟩⟩
  cases field with
  | workerCount => exact ⟨32, rfl, by norm_num [Field.low], by norm_num [Field.high]⟩
  | channelCapacity => exact ⟨50000, rfl, by norm_num [Field.low], by norm_num [Field.high]⟩
  | batchThreshold => exact ⟨5000, rfl, by norm_num [Field.low], by norm_num [Field.high]⟩
  | batchFlushWindowMs => exact ⟨500, rfl, by norm_num [Field.low], by norm_num [Field.high]⟩

/-- In every run no field that is a finite number is below its lower bound. -/
theorem run_above {env : Env} {guard : Process → Act → Prop} {seen : List Obs} {p : Process}
    (run : system.Run guard (.start env) seen p) : p.engine.config.Above := by
  refine run.state_invariant (fun p => p.engine.config.Above) ?_ ?_
  · intro field q finite
    obtain ⟨bounded, same, least, _⟩ := (start_config env).within field
    rw [same] at finite
    rwa [← JsNum.fin.inj finite]
  · intro p action after out above _ stepped
    show after.engine.config.Above
    rw [step_configures stepped]
    unfold Act.configures
    split
    · exact configured_above _ allFields above
    · exact above
    · exact above

instance (p : Process) (action : Act) : Decidable (SoundConfig p action) :=
  match action with
  | .request _ (.updateConfig cfg) =>
    inferInstanceAs (Decidable (soundFields cfg allFields = true))
  | .request _ (.ingestSingle _) | .request _ (.ingestBatch _) | .request _ .getMetrics
  | .request _ (.startLoadTest _ _) | .request _ .stopLoadTest
  | .request _ .simulateGracefulShutdown | .fire _ _ => inferInstanceAs (Decidable True)

/-- As long as every configuration that is asked for is sound, every field is a number within its
bounds and both rates are positive numbers. A configuration that is not sound ends this at once. -/
theorem configuration_valid (env : Env) :
    (∀ (seen : List Obs) (p : Process), system.Run SoundConfig (.start env) seen p →
        p.engine.config.Valid) ∧
      ∀ (p after : Process) (action : Act) (out : List Obs), p.engine.config.Valid →
        step p action = some (after, out) →
        (after.engine.config.Valid ↔ SoundConfig p action) := by
  refine ⟨fun seen p run => ?_, fun _ _ _ _ => step_config⟩
  refine run.state_invariant (fun p => p.engine.config.Valid) (start_config env) ?_
  intro p action after out valid sound stepped
  exact (step_config valid stepped).mpr sound

/-- Numbers out of bounds and texts of numbers are put between the bounds. -/
theorem configuration_valid_text :
    ∃ seen p, system.Run SoundConfig (.start (.calm 0)) seen p ∧ p.engine.workerCount = 256 ∧
      p.engine.batchThreshold = 100 ∧ p.engine.config.Valid := by
  obtain ⟨seen, p, run, passed⟩ := System.exec_witness system SoundConfig (.start (.calm 0))
    [.request (.calm 1) (.updateConfig (.obj [("workerCount", .num 1000),
      ("batchThreshold", .str "7"), ("rateLimitBurst", .num 5)]))]
    (fun (p, _) => p.engine.workerCount = 256 && p.engine.batchThreshold = 100)
    (by decide +kernel)
  simp only [Bool.and_eq_true, decide_eq_true_eq] at passed
  obtain ⟨workers, threshold⟩ := passed
  exact ⟨seen, p, run, workers, threshold, (configuration_valid (.calm 0)).1 seen p run⟩

/-- A text that is not a number leaves `NaN` workers, and a negative rate is assigned. -/
theorem configuration_invalid :
    ∃ seen p, system.AnyRun (.start (.calm 0)) seen p ∧ p.engine.workerCount = .nan ∧
      ¬ p.engine.config.Valid := by
  obtain ⟨seen, p, run, passed⟩ := System.exec_witness system System.unguarded (.start (.calm 0))
    [.request (.calm 1) (.updateConfig (.obj [("workerCount", .str "abc")])),
      .request (.calm 1) (.updateConfig (.obj [("rateLimitRps", .num (.fin (-5)))]))]
    (fun (p, _) => p.engine.workerCount = .nan) (by decide +kernel)
  have workers : p.engine.workerCount = .nan := of_decide_eq_true passed
  refine ⟨seen, p, run, workers, fun valid => ?_⟩
  obtain ⟨q, finite, _⟩ := valid.within .workerCount
  have lost : p.engine.workerCount = .fin q := finite
  rw [workers] at lost
  contradiction

end IngestionEngine.Server
