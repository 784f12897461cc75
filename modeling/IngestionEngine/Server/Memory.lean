import IngestionEngine.Server.Buffer
import IngestionEngine.Server.Gate
import IngestionEngine.Server.Limiter

/-!
# Bounded memory

With integers in every configuration the capacity of the queue and the threshold of the buffer are
always integers between their bounds. Both can be lowered below what is held, so what bounds the
memory are the largest values that they can take.
-/

namespace IngestionEngine.Server

open Systems Program

/-- The value is an integer as `JSON.parse` returns it: one that is too large is infinite. -/
def JsValue.isInteger : JsValue → Bool
  | .num (.fin q) => q.den = 1
  | .num .posInf | .num .negInf => true
  | .num .nan | .undefined | .null | .bool _ | .str _ | .arr _ | .obj _ => false

/-- The fields between two bounds are integers where they are given. -/
def integerFields (cfg : JsValue) : Bool :=
  allFields.all fun field =>
    match cfg.get field.name with
    | .ok given => !given.truthy || given.isInteger
    | .error _ => true

/-- Every configuration that is asked for has integers only. -/
def IntegerConfig (_ : Process) : Act → Prop
  | .request _ (.updateConfig cfg) => integerFields cfg = true
  | .request _ _ | .fire _ _ => True

instance (p : Process) (action : Act) : Decidable (IntegerConfig p action) :=
  match action with
  | .request _ (.updateConfig cfg) => inferInstanceAs (Decidable (integerFields cfg = true))
  | .request _ (.ingestSingle _) | .request _ (.ingestBatch _) | .request _ .getMetrics
  | .request _ (.startLoadTest _ _) | .request _ .stopLoadTest
  | .request _ .simulateGracefulShutdown | .fire _ _ => inferInstanceAs (Decidable True)

/-- The action calls `ingestSingle` or `ingestBatch`. -/
def Process.ingests (p : Process) : Act → Bool
  | .request _ (.ingestSingle _) | .request _ (.ingestBatch _) => true
  | .request _ .getMetrics | .request _ (.startLoadTest _ _) | .request _ .stopLoadTest
  | .request _ (.updateConfig _) | .request _ .simulateGracefulShutdown => false
  | .fire _ id => (p.loop.find id).any fun timer => timer.task matches .loadTest _

/-! ### The configuration -/

/-- Every field between two bounds is an integer between them. -/
def Config.Integral (c : Config) : Prop :=
  ∀ field : Field, ∃ n : Nat, c.clamped field = .ofNat n ∧ field.low ≤ n ∧ n ≤ field.high

/-- A literal of an integer is an integer. -/
theorem literal_isInteger (n : Int) : (JsValue.num (.literal n)).isInteger = true := by
  unfold JsNum.literal
  split_ifs
  · rfl
  · rfl
  · rfl
  · exact decide_eq_true (Rat.den_intCast n)

/-- A body of integers is an integer configuration. -/
theorem integerFields_of_literals {members : List (String × JsValue)}
    (integers : ∀ entry ∈ members, ∃ n : Int, entry.2 = .num (.literal n)) :
    integerFields (.obj members) = true := by
  refine List.all_eq_true.mpr fun field _ => ?_
  show (!(JsObject.get ⟨members⟩ field.name).truthy ||
    (JsObject.get ⟨members⟩ field.name).isInteger) = true
  unfold JsObject.get
  cases found : members.lookup field.name with
  | none => rfl
  | some value =>
    obtain ⟨before, rest, same, _⟩ := List.lookup_eq_some_iff.mp found
    have member : (field.name, value) ∈ members := by
      rw [same]
      exact List.mem_append_right _ List.mem_cons_self
    obtain ⟨n, literal⟩ := integers _ member
    have integer := literal_isInteger n
    rw [← literal] at integer
    exact Bool.or_eq_true_iff.mpr (.inr integer)

/-- An integer between integer bounds is an integer between them. -/
theorem clamp_integer {value : JsNum} (integer : (JsValue.num value).isInteger = true)
    {low high : Nat} (ordered : low ≤ high) :
    ∃ n : Nat, (JsNum.fin low).max ((JsNum.fin high).min value) = .ofNat n ∧ low ≤ n ∧
      n ≤ high := by
  have bounds : (low : ℚ) ≤ high := by exact_mod_cast ordered
  cases value with
  | nan => contradiction
  | negInf => exact ⟨low, rfl, le_refl _, ordered⟩
  | posInf =>
    have most : (JsNum.fin high).min .posInf = .fin high := rfl
    rw [most, JsNum.max_fin, max_eq_right bounds]
    exact ⟨high, rfl, ordered, le_refl _⟩
  | fin q =>
    have whole : (q.num : ℚ) = q := Rat.coe_int_num_of_den_eq_one (of_decide_eq_true integer)
    let clamped : Int := max low (min high q.num)
    have same : max (low : ℚ) (min (high : ℚ) q) = (clamped : ℚ) :=
      calc max (low : ℚ) (min (high : ℚ) q)
          = max (low : ℚ) (min (high : ℚ) (q.num : ℚ)) := by rw [whole]
        _ = (clamped : ℚ) := by
          simp only [clamped]
          push_cast
          rfl
    obtain ⟨n, counted⟩ : ∃ n : Nat, clamped = n :=
      Int.eq_ofNat_of_zero_le (le_trans (Int.natCast_nonneg low) (le_max_left _ _))
    rw [JsNum.min_fin, JsNum.max_fin, same, counted]
    refine ⟨n, rfl, ?_, ?_⟩
    all_goals omega

/-- The bounds of a field are integers. -/
theorem Field.bounds (field : Field) :
    ∃ low high : Nat, field.low = low ∧ field.high = high ∧ low ≤ high := by
  cases field with
  | workerCount => exact ⟨2, 256, by simp [low], by simp [high], by decide⟩
  | channelCapacity => exact ⟨500, 500000, by simp [low], by simp [high], by decide⟩
  | batchThreshold => exact ⟨100, 50000, by simp [low], by simp [high], by decide⟩
  | batchFlushWindowMs => exact ⟨20, 5000, by simp [low], by simp [high], by decide⟩

/-- What an integer configuration gives is an integer. -/
theorem givenNumber_integer {cfg : JsValue} (integers : integerFields cfg = true) (field : Field)
    {value : JsNum} (given : givenNumber cfg field.name = .ok (some value)) :
    (JsValue.num value).isInteger = true := by
  have listed : field ∈ allFields := by cases field <;> decide
  have integer := List.all_eq_true.mp integers field listed
  cases found : cfg.get field.name with
  | error thrown =>
    have failed : givenNumber cfg field.name = .error thrown := by
      unfold givenNumber
      rw [found]
      rfl
    rw [failed] at given
    contradiction
  | ok read =>
    rw [found] at integer
    rw [givenNumber_read found] at given
    by_cases set : read.truthy = true
    · rw [if_pos set] at given
      simp only [set, Bool.not_true, Bool.false_or] at integer
      cases read with
      | num number =>
        cases given
        exact integer
      | undefined | null | bool | str | arr | obj => contradiction
    · rw [if_neg set] at given
      simp at given

/-- The given fields leave an integral configuration integral. -/
theorem configured_integral {cfg : JsValue} (integers : integerFields cfg = true)
    (fields : List Field) {c : Config} (integral : c.Integral) :
    (configured cfg fields c).Integral := by
  induction fields generalizing c with
  | nil =>
    intro field
    rw [configured, configuredRates_clamped]
    exact integral field
  | cons first rest ih =>
    rw [configured]
    split
    · exact integral
    · exact ih integral
    · rename_i value given
      apply ih
      intro field
      by_cases same : field = first
      · subst same
        obtain ⟨low, high, least, most, ordered⟩ := field.bounds
        obtain ⟨n, clamped, above, below⟩ :=
          clamp_integer (givenNumber_integer integers field given) ordered
        refine ⟨n, ?_, ?_, ?_⟩
        · simp only [Config.assign, ↓reduceIte, least, most, clamped]
        · rw [least]
          exact_mod_cast above
        · rw [most]
          exact_mod_cast below
      · simp only [Config.assign, if_neg same]
        exact integral field

/-- A step leaves an integral configuration integral. -/
theorem step_integral {p after : Process} {action : Act} {out : List Obs}
    (integral : p.engine.config.Integral) (integers : IntegerConfig p action)
    (stepped : step p action = some (after, out)) : after.engine.config.Integral := by
  rw [step_configures stepped]
  cases action with
  | fire env id => exact integral
  | request env request =>
    cases request with
    | updateConfig cfg => exact configured_integral integers allFields integral
    | ingestSingle | ingestBatch | getMetrics | startLoadTest | stopLoadTest
    | simulateGracefulShutdown => exact integral

/-! ### The queue -/

section Capped

variable (env : Env) {capacity : Nat} {p : Process}

/-- The queue is as it was, or within the capacity. -/
def Capped (capacity : Nat) (before after : Process) : Prop :=
  after.engine.queue = before.engine.queue ∨ after.engine.queue.length ≤ capacity

/-- The loop of `ingestBatch` pushes only below the capacity. -/
theorem ingestEvents_capped (bounded : p.engine.channelCapacity = .ofNat capacity)
    (events : List JsValue) (index accepted dropped : Nat) :
    Capped capacity p ((ingestEvents env events index accepted dropped).run p).state := by
  induction events generalizing index accepted dropped p with
  | nil => exact .inl rfl
  | cons event rest ih =>
    rw [ingestEvents]
    cases read : event.asObject with
    | error thrown => exact .inl rfl
    | ok ev =>
      simp only [run_bind, run_lift, run_engine, andThen_ok, after_state]
      by_cases room : (JsNum.ofNat p.engine.queue.length).lt p.engine.channelCapacity = true
      · simp only [if_pos room, run_bind, run_update, run_emit, andThen_ok, after_state]
        -- The push has made the queue longer, but it was below the capacity.
        have below : p.engine.queue.length < capacity := by
          rw [bounded, JsNum.ofNat_fin, JsNum.ofNat_fin, JsNum.lt_fin] at room
          exact_mod_cast room
        refine .inr ?_
        rcases ih (p := { p with engine := { p.engine with
          queue := p.engine.queue ++ [batchEvent env index ev]
          totalAccepted := p.engine.totalAccepted + 1 } }) bounded (index + 1) (accepted + 1)
          dropped with same | within
        · refine le_of_eq_of_le (congrArg List.length same) ?_
          rw [List.length_append, List.length_singleton]
          exact below
        · exact within
      · simp only [if_neg room, run_bind, run_update, andThen_ok, after_state]
        exact ih (p := { p with engine := { p.engine with
          totalDropped := p.engine.totalDropped + 1 } }) bounded (index + 1) accepted (dropped + 1)

/-- So does `ingestBatch`. -/
theorem ingestBatch_capped (bounded : p.engine.channelCapacity = .ofNat capacity)
    (events : List JsValue) : Capped capacity p ((ingestBatch env events).run p).state := by
  cases affords : p.core.affords env.clock (batchCost events.length) with
  | false => exact .inl (congrArg Prod.fst (batch_short env p events affords).1)
  | true =>
    obtain ⟨q, same, capacities, tally, _⟩ := batch_admitted env p events affords
    have queue : q.engine.queue = p.engine.queue := congrArg Prod.fst same
    have left : ((ingestBatch env events).run p).state.engine.queue =
        ((ingestEvents env events 0 0 0).run q).state.engine.queue := congrArg Prod.fst tally
    have capped := ingestEvents_capped env (capacities.trans bounded) events 0 0 0
    unfold Capped at capped ⊢
    rw [left, ← queue]
    exact capped

/-- And so does `ingestSingle`. -/
theorem ingestSingle_capped (bounded : p.engine.channelCapacity = .ofNat capacity)
    (event : JsValue) : Capped capacity p ((ingestSingle env event).run p).state := by
  cases affords : p.core.affords env.clock 1 with
  | false => exact .inl (congrArg Prod.fst (single_short env p event affords))
  | true =>
    obtain ⟨q, same, capacities, left, _⟩ := single_admitted env p event affords
    have queue : q.engine.queue = p.engine.queue := congrArg Prod.fst same
    unfold Capped
    rw [left, ← queue]
    by_cases valid : invalid event = .ok false
    · obtain ⟨ev, read, _⟩ := valid_object valid
      by_cases full : q.engine.channelCapacity.le (.ofNat q.engine.queue.length) = true
      · exact .inl (congrArg Prod.fst (decided_full valid read full).1)
      · have queued : ((singleDecided env event true).run q).state.engine.queue =
            q.engine.queue ++ [singleEvent env ev] :=
          congrArg Prod.fst (decided_fits valid read full).1
        have below : q.engine.queue.length < capacity := by
          rw [capacities, bounded, JsNum.ofNat_fin, JsNum.ofNat_fin, JsNum.le_fin] at full
          exact_mod_cast not_le.mp full
        refine .inr (le_of_eq_of_le (congrArg List.length queued) ?_)
        rw [List.length_append, List.length_singleton]
        exact below
    · rw [decided_invalid valid]
      exact .inl rfl

/-- And so does a tick of the load test. -/
theorem loadTestTick_capped (bounded : p.engine.channelCapacity = .ofNat capacity)
    (eventsPerTick : JsNum) : Capped capacity p ((loadTestTick env eventsPerTick).run p).state := by
  cases active : p.engine.loadTestActive with
  | false =>
    rw [run_loadTestTick_idle env p eventsPerTick active]
    exact .inl rfl
  | true =>
    cases ticks : loadTestCount env p.engine eventsPerTick with
    | none =>
      rw [run_loadTestTick_overflows env active ticks]
      exact .inl rfl
    | some count =>
      rw [run_loadTestTick_fits env active ticks, run_bind_state fun _ _ => rfl]
      exact ingestBatch_capped env bounded _

end Capped

section Steps

variable {p after : Process} {action : Act} {out : List Obs}

/-- A step that ingests leaves the queue as it was, or within the capacity. -/
theorem step_capped {capacity : Nat} (bounded : p.engine.channelCapacity = .ofNat capacity)
    (ingests : p.ingests action = true) (stepped : step p action = some (after, out)) :
    Capped capacity p after := by
  cases step_cases stepped with
  | @request env request alive =>
    rw [respond_state]
    cases request with
    | ingestSingle event =>
      have own := ingestSingle_capped env (p := p.begin env) bounded event
      have whole : Capped capacity (p.begin env)
          (((Request.ingestSingle event).call env).run (p.begin env)).state :=
        leaves_bind own fun _ => keeps_emit _
      exact whole
    | ingestBatch events =>
      have own := ingestBatch_capped env (p := p.begin env) bounded events
      have whole : Capped capacity (p.begin env)
          (((Request.ingestBatch events).call env).run (p.begin env)).state :=
        leaves_bind own fun _ => keeps_emit _
      exact whole
    | getMetrics | startLoadTest | stopLoadTest | updateConfig | simulateGracefulShutdown =>
      contradiction
  | @fire env timer alive live =>
    simp only [Process.ingests, EventLoop.find_id live, Option.any_some] at ingests
    cases task : timer.task with
    | workers | release | flush | metrics | reset => simp [task] at ingests
    | loadTest eventsPerTick =>
      have capped := loadTestTick_capped env (p := p.fired env timer) bounded eventsPerTick
      unfold Capped at capped ⊢
      rw [(finish_state _).2]
      exact capped

/-- Only a push makes the queue longer. -/
theorem change_shrinks {c next : Core} {change : Change} {shown : List Obs}
    (other : ∀ clock event, change ≠ .push clock event)
    (stepped : c.step change = some (next, shown)) : next.queue.length ≤ c.queue.length := by
  cases core_cases stepped with
  | @push clock event => exact absurd rfl (other clock event)
  | move => exact (List.drop_sublist _ _).length_le
  | drain => exact Nat.zero_le _
  | touch | refill | spend | refuse | refuseBatch | drop | flush | setRps | setBurst | capTokens
  | finish => exact le_refl _

/-- Every other step leaves the queue no longer. -/
theorem step_shrinks (other : p.ingests action = false)
    (stepped : step p action = some (after, out)) :
    after.engine.queue.length ≤ p.engine.queue.length := by
  have pushless : ∀ clock event, ¬ (Change.push clock event).Made p action := by
    intro clock event made
    cases made with
    | still quiet => contradiction
    | single | batch => contradiction
    | loadTest live task =>
      simp [Process.ingests, EventLoop.find_id live, task] at other
  exact (run_pushless stepped pushless).state_invariant
    (fun c => c.queue.length ≤ p.engine.queue.length) (le_refl _)
    fun _ _ _ _ held other stepped => le_trans (change_shrinks other stepped) held

end Steps

/-! ### The bounds -/

/-- The configuration is integral, and what is held is within the largest that it can be. -/
structure Process.Bounded (p : Process) : Prop where
  /-- The configuration. -/
  integral : p.engine.config.Integral
  /-- The queue. -/
  queue : p.engine.queue.length ≤ 500000
  /-- The buffer. -/
  buffer : p.engine.batchBuffer.length < 50000

/-- A step keeps the bounds. -/
theorem step_bounded {p after : Process} {action : Act} {out : List Obs} (bounded : p.Bounded)
    (integers : IntegerConfig p action) (stepped : step p action = some (after, out)) :
    after.Bounded := by
  have integral := step_integral bounded.integral integers stepped
  refine ⟨integral, ?_, ?_⟩
  · cases ingests : p.ingests action with
    | false => exact le_trans (step_shrinks ingests stepped) bounded.queue
    | true =>
      obtain ⟨capacity, same, _, most⟩ := bounded.integral .channelCapacity
      rcases step_capped same ingests stepped with kept | within
      · rw [kept]
        exact bounded.queue
      · have least : capacity ≤ 500000 := by
          simp only [Field.high] at most
          exact_mod_cast most
        exact le_trans within least
  · rcases step_buffer stepped with kept | short
    · rw [kept]
      exact bounded.buffer
    · obtain ⟨threshold, same, least, most⟩ := integral .batchThreshold
      have set : after.engine.batchThreshold = .ofNat threshold := same
      simp only [Field.low, Field.high] at least most
      have positive : 0 < threshold := by
        have some : (0 : ℚ) < threshold := by linarith only [least]
        exact_mod_cast some
      have below : after.engine.batchBuffer.length < threshold := by
        by_contra reached
        apply short
        refine ⟨by omega, ?_⟩
        rw [set, JsNum.ofNat_fin, JsNum.ofNat_fin, JsNum.le_fin]
        exact_mod_cast not_lt.mp reached
      have largest : threshold ≤ 50000 := by exact_mod_cast most
      omega

/-- The constructor leaves them. -/
theorem start_bounded (env : Env) : (Process.start env).Bounded := by
  refine ⟨fun field => ?_, Nat.zero_le _, Nat.succ_pos _⟩
  cases field with
  | workerCount => exact ⟨32, rfl, by norm_num [Field.low], by norm_num [Field.high]⟩
  | channelCapacity => exact ⟨50000, rfl, by norm_num [Field.low], by norm_num [Field.high]⟩
  | batchThreshold => exact ⟨5000, rfl, by norm_num [Field.low], by norm_num [Field.high]⟩
  | batchFlushWindowMs => exact ⟨500, rfl, by norm_num [Field.low], by norm_num [Field.high]⟩

/-- As long as every configuration has integers only, the queue never has more than 500000 events
and the buffer always fewer than 50000, and no call that ingests leaves a queue above the capacity
that it has changed. -/
theorem memory_bounded {start : Env} {seen : List Obs} {p : Process}
    (run : system.Run IntegerConfig (.start start) seen p) :
    p.engine.queue.length ≤ 500000 ∧ p.engine.batchBuffer.length < 50000 ∧
      ∀ action after out, p.ingests action = true → step p action = some (after, out) →
        after.engine.channelCapacity.lt (.ofNat after.engine.queue.length) = true →
        after.engine.queue = p.engine.queue := by
  have bounded : p.Bounded := run.state_invariant Process.Bounded (start_bounded start)
    fun _ _ _ _ bounded integers stepped => step_bounded bounded integers stepped
  refine ⟨bounded.queue, bounded.buffer, fun action after out ingests stepped above => ?_⟩
  obtain ⟨capacity, same, _, _⟩ := bounded.integral .channelCapacity
  rcases step_capped same ingests stepped with kept | within
  · exact kept
  · have other : action.isConfig = false := by
      cases action with
      | fire env id => rfl
      | request env request => cases request <;> first | rfl | contradiction
    have kept := step_config_same other stepped
    have set : after.engine.channelCapacity = .ofNat capacity :=
      (congrFun (congrArg Config.clamped kept) .channelCapacity).trans same
    rw [set, JsNum.ofNat_fin, JsNum.ofNat_fin, JsNum.lt_fin] at above
    have beyond : capacity < after.engine.queue.length := by exact_mod_cast above
    omega

/-- Integers out of bounds, one of them too large for a number, are put between the bounds. -/
theorem memory_bounded_clamped : ∃ seen p, system.Run IntegerConfig (.start (.calm 0)) seen p ∧
    p.engine.channelCapacity = 500 ∧ p.engine.batchThreshold = 50000 ∧
    p.engine.queue.length = 1 ∧ p.engine.batchBuffer.length = 1 ∧
    p.engine.queue.length ≤ 500000 ∧ p.engine.batchBuffer.length < 50000 := by
  obtain ⟨seen, p, run, passed⟩ := System.exec_witness system IntegerConfig (.start (.calm 0))
    [.request (.calm 1) (.ingestSingle plainEvent), .fire (.calm 10) 0,
      .request (.calm 11) (.updateConfig (.obj [("channelCapacity", .num (.literal (-7))),
        ("batchThreshold", .num (.literal (10 ^ 400))), ("workerCount", .num 0)])),
      .request (.calm 12) (.ingestSingle plainEvent)]
    (fun last => last.1.engine.channelCapacity = 500 && last.1.engine.batchThreshold = 50000 &&
      last.1.engine.queue.length = 1 && last.1.engine.batchBuffer.length = 1) (by decide +kernel)
  simp only [Bool.and_eq_true, decide_eq_true_eq] at passed
  obtain ⟨⟨⟨capacity, threshold⟩, queued⟩, buffered⟩ := passed
  obtain ⟨queue, buffer, _⟩ := memory_bounded run
  exact ⟨seen, p, run, capacity, threshold, queued, buffered, queue, buffer⟩

end IngestionEngine.Server
