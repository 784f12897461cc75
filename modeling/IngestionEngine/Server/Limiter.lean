import IngestionEngine.Server.Changes
import IngestionEngine.Server.Clock
import IngestionEngine.Server.Stall
import IngestionEngine.Systems.Threads
import IngestionEngine.Systems.Timeline

/-!
# What the limiter of the server lets through

Each step looks at the bucket at most once, at its own reading of the clock, and pays from it at
most once. A batch pays one token for fifty events or fewer. So the bucket has a budget over
every window, and the events accepted in the window are at most fifty times what was paid in it.
-/

namespace IngestionEngine.Server

open Systems Program Bucket

/-- A reading of the clock in seconds. -/
def seconds (clock : Int) : ℚ := clock / 1000

/-- The cost of a call that the limiter admitted, with its time. -/
def Obs.charges : Obs → List (ℚ × ℚ)
  | .limited clock (.fin cost) true => [(seconds clock, cost)]
  | _ => []

/-- An event accepted into the queue counts one at its time. -/
def Obs.arrivals : Obs → List (ℚ × ℚ)
  | .pushed clock _ => [(seconds clock, 1)]
  | _ => []

/-- The action is a call of `updateConfig`. -/
def Act.isConfig : Act → Bool
  | .request _ (.updateConfig _) => true
  | _ => false

/-! ### How a step draws on the bucket -/

/-- The change leaves the bucket alone, and pushes at no other time than the given one. -/
def Change.Quiet (clock : Int) : Change → Prop
  | .push time _ => time = clock
  | .refuse _ _ | .refuseBatch _ | .drop | .move _ _ | .drain _ | .flush _ _ | .finish _ => True
  | .touch _ | .refill _ | .spend _ _ | .setRps _ | .setBurst _ | .capTokens _ => False

/-- How many events a change pushes. -/
def Change.pushes : Change → Nat
  | .push _ _ => 1
  | _ => 0

/-- How many events some changes push. -/
def pushedBy (changes : List Change) : Nat := total Change.pushes changes

/-- Two lists push what both push. -/
theorem pushedBy_append (first second : List Change) :
    pushedBy (first ++ second) = pushedBy first + pushedBy second := total_append first second

/-- One quiet change. -/
theorem quiet_one {clock : Int} {change : Change} (quiet : change.Quiet clock) :
    ∀ other ∈ [change], other.Quiet clock := List.forall_mem_singleton.mpr quiet

/-- The changes of a step that looks at the bucket at most once and pays from it at most once,
with the bound of the events that it pushes. -/
inductive Draws (clock : Int) : List Change → Prop where
  /-- The bucket is left alone. -/
  | dry {rest : List Change} (quiet : ∀ change ∈ rest, change.Quiet clock)
      (none : pushedBy rest = 0) : Draws clock rest
  /-- The refill throws. -/
  | touched {rest : List Change} (quiet : ∀ change ∈ rest, change.Quiet clock)
      (none : pushedBy rest = 0) : Draws clock (.touch clock :: rest)
  /-- The bucket is refilled and not paid from. -/
  | looked {rest : List Change} (quiet : ∀ change ∈ rest, change.Quiet clock)
      (none : pushedBy rest = 0) : Draws clock (.refill clock :: rest)
  /-- The bucket is refilled and paid from. -/
  | paid {cost : ℚ} {rest : List Change} (quiet : ∀ change ∈ rest, change.Quiet clock)
      (pushed : (pushedBy rest : ℚ) ≤ 50 * cost) :
      Draws clock (.refill clock :: .spend clock (.fin cost) :: rest)

/-- Something that is quiet and pushes nothing may follow. -/
theorem Draws.append {clock : Int} {changes rest : List Change} (draws : Draws clock changes)
    (quiet : ∀ change ∈ rest, change.Quiet clock) (none : pushedBy rest = 0) :
    Draws clock (changes ++ rest) := by
  have later {first : List Change} (own : ∀ change ∈ first, change.Quiet clock) :
      ∀ change ∈ first ++ rest, change.Quiet clock := List.forall_mem_append.mpr ⟨own, quiet⟩
  have same (first : List Change) : pushedBy (first ++ rest) =
      pushedBy first := by rw [pushedBy_append, none, Nat.add_zero]
  cases draws with
  | dry own nothing => exact .dry (later own) ((same _).trans nothing)
  | touched own nothing => exact .touched (later own) ((same _).trans nothing)
  | looked own nothing => exact .looked (later own) ((same _).trans nothing)
  | paid own pushed =>
    apply Draws.paid (later own)
    rw [same]
    exact pushed

/-- A batch costs a token or more, and at least one for fifty of its events. -/
theorem batchCost_fin (count : Nat) :
    ∃ cost : ℚ, batchCost count = .fin cost ∧ (count : ℚ) ≤ 50 * cost := by
  have divisor : (50 : ℚ) ≠ 0 := by norm_num
  have share : ((JsNum.ofNat count).div 50).ceil = .fin ((⌈(count : ℚ) / 50⌉ : ℤ) : ℚ) := by
    rw [JsNum.ofNat_fin, JsNum.literal_fin, JsNum.div_fin divisor]
    rfl
  refine ⟨max 1 ((⌈(count : ℚ) / 50⌉ : ℤ) : ℚ), ?_, ?_⟩
  · rw [batchCost, share, JsNum.one_fin, JsNum.max_fin]
  · have up : (count : ℚ) / 50 ≤ ⌈(count : ℚ) / 50⌉ := Int.le_ceil _
    have larger := le_max_right (1 : ℚ) ((⌈(count : ℚ) / 50⌉ : ℤ) : ℚ)
    linarith only [up, larger]

/-- The loop of `ingestBatch` is quiet and pushes no more events than there are. -/
theorem batchChanges_pushes (env : Env) (capacity : JsNum) (events : List JsValue)
    (index length : Nat) :
    (∀ change ∈ batchChanges env capacity events index length, change.Quiet env.clock) ∧
      pushedBy (batchChanges env capacity events index length) ≤ events.length := by
  refine ⟨batchChanges_each (fun change => change.Quiet env.clock) trivial (fun _ => rfl) _ _ _ _,
    ?_⟩
  induction events generalizing index length with
  | nil => exact Nat.le_refl 0
  | cons event rest ih =>
    rw [batchChanges]
    cases event.asObject with
    | error thrown => exact Nat.zero_le _
    | ok ev =>
      dsimp only
      split
      · rw [pushedBy, total_cons, List.length_cons, Nat.add_comm]
        exact Nat.succ_le_succ (ih (index + 1) (length + 1))
      · rw [pushedBy, total_cons, List.length_cons, Nat.add_comm]
        exact Nat.le_succ_of_le (ih (index + 1) length)

/-- A call that the limiter does not admit draws nothing. -/
theorem Limits.draws {c : Core} {clock : Int} {cost : JsNum} {changes : List Change}
    {result : Except JsError Bool} (limits : Limits c clock cost changes result)
    (short : result ≠ .ok true) : Draws clock changes := by
  cases limits with
  | throws failed => exact .touched (List.forall_mem_nil _) rfl
  | admitted looked fits => exact absurd rfl short
  | refused looked lacks =>
    apply Draws.looked
    · exact quiet_one trivial
    · rfl

/-- A call that the limiter admits pays its cost, and what follows pushes no more than that
allows. -/
theorem Limits.pays {c : Core} {clock : Int} {cost : ℚ} {changes : List Change}
    (limits : Limits c clock (.fin cost) changes (.ok true)) {rest : List Change}
    (quiet : ∀ change ∈ rest, change.Quiet clock)
    (pushed : (pushedBy rest : ℚ) ≤ 50 * cost) : Draws clock (changes ++ rest) := by
  cases limits with
  | admitted looked fits => exact .paid quiet pushed

/-- `ingestSingle` -/
theorem SingleMakes.draws {c : Core} {env : Env} {event : JsValue} {changes : List Change}
    {result : Except JsError SingleResult} (makes : SingleMakes c env event changes result) :
    Draws env.clock changes := by
  have paid {changes : List Change} (limits : Limits c env.clock 1 changes (.ok true))
      {rest : List Change} (quiet : ∀ change ∈ rest, change.Quiet env.clock)
      (pushed : pushedBy rest ≤ 1) : Draws env.clock (changes ++ rest) := by
    rw [JsNum.one_fin] at limits
    apply limits.pays quiet
    have most : (pushedBy rest : ℚ) ≤ 1 := by exact_mod_cast pushed
    linarith only [most]
  cases makes with
  | throws limits => exact limits.draws (by simp)
  | refused limits => exact limits.draws (by simp)
  | unreadable limits | rejected limits =>
    have drawn := paid limits (List.forall_mem_nil _) (Nat.zero_le 1)
    rwa [List.append_nil] at drawn
  | dropped limits =>
    apply paid limits
    · exact quiet_one trivial
    · exact Nat.zero_le 1
  | accepted limits read service message =>
    apply paid limits
    · exact quiet_one rfl
    · exact Nat.le_refl 1

/-- `ingestBatch` -/
theorem BatchMakes.draws {c : Core} {env : Env} {capacity : JsNum} {events : List JsValue}
    {changes : List Change} {result : Except JsError BatchResult}
    (makes : BatchMakes c env capacity events changes result) : Draws env.clock changes := by
  obtain ⟨cost, priced, covers⟩ := batchCost_fin events.length
  obtain ⟨quiet, fewer⟩ := batchChanges_pushes env capacity events 0 c.queue.length
  have bounded : (pushedBy (batchChanges env capacity events 0 c.queue.length) : ℚ) ≤
      50 * cost := by
    have most : (pushedBy (batchChanges env capacity events 0 c.queue.length) : ℚ) ≤
        events.length := by exact_mod_cast fewer
    exact le_trans most covers
  cases makes with
  | throws limits => exact limits.draws (by simp)
  | refused limits =>
    apply (limits.draws (by simp)).append
    · exact quiet_one trivial
    · rfl
  | broken limits | admitted limits =>
    rw [priced] at limits
    exact limits.pays quiet bounded

/-- Every request other than a change of the configuration. -/
theorem RequestMakes.draws {e : Engine} {env : Env} {request : Request} {changes : List Change}
    {result : Except JsError Unit} (makes : RequestMakes e env request changes result)
    (other : ∀ cfg, request ≠ .updateConfig cfg) : Draws env.clock changes := by
  have ends (shown : Obs) : ∀ change ∈ [Change.finish shown], change.Quiet env.clock :=
    quiet_one trivial
  cases makes with
  | single makes => exact makes.draws.append (ends _) rfl
  | singleThrows makes => exact makes.draws
  | batch makes => exact makes.draws.append (ends _) rfl
  | batchThrows makes => exact makes.draws
  | metrics makes =>
    rcases makes with rfl | rfl
    · exact .touched (ends _) rfl
    · exact .looked (ends _) rfl
  | metricsThrows makes =>
    rcases makes with rfl | rfl
    · exact .touched (List.forall_mem_nil _) rfl
    · exact .looked (List.forall_mem_nil _) rfl
  | startLoadTest | stopLoadTest | shutdownThrows => exact .dry (List.forall_mem_nil _) rfl
  | updateConfig => exact absurd rfl (other _)
  | @shutdown flushes report flushing =>
    have drains : Draws env.clock [.drain env.clock] := by
      apply Draws.dry
      · exact quiet_one trivial
      · rfl
    rcases flushing with rfl | rfl
    · exact drains.append (ends _) rfl
    · apply drains.append
      · exact List.forall_mem_cons.mpr ⟨trivial, ends _⟩
      · rfl

/-- Every callback of a timer. -/
theorem TaskMakes.draws {e : Engine} {env : Env} {task : Task} {changes : List Change}
    {result : Except JsError Unit} (makes : TaskMakes e env task changes result) :
    Draws env.clock changes := by
  have flushes (reason : FlushReason) :
      ∀ change ∈ [Change.flush env reason], change.Quiet env.clock := quiet_one trivial
  cases makes with
  | idle | overflows => exact .dry (List.forall_mem_nil _) rfl
  | moved flushing =>
    rcases flushing with rfl | rfl
    · exact .dry (List.forall_mem_cons.mpr ⟨trivial, List.forall_mem_nil _⟩) rfl
    · exact .dry (List.forall_mem_cons.mpr ⟨trivial, flushes _⟩) rfl
  | flushed => exact .dry (flushes _) rfl
  | loadTest active ticks makes => exact makes.draws

/-- Every step other than a change of the configuration. -/
theorem step_draws {p : Process} {action : Act} {changes : List Change}
    (makes : StepMakes p action changes) (other : action.isConfig = false) :
    Draws action.clock changes := by
  have ends (clock : Int) (shown : JsError → Obs) (result : Except JsError Unit) :
      (∀ change ∈ ending shown result, change.Quiet clock) ∧
        pushedBy (ending shown result) = 0 := by
    cases result with
    | ok value => exact ⟨List.forall_mem_nil _, rfl⟩
    | error thrown => exact ⟨List.forall_mem_cons.mpr ⟨trivial, List.forall_mem_nil _⟩, rfl⟩
  cases makes with
  | @request env request changes result makes =>
    have drawn : Draws env.clock changes := by
      apply makes.draws
      rintro cfg rfl
      contradiction
    obtain ⟨quiet, none⟩ := ends env.clock .threw result
    exact drawn.append quiet none
  | @fire env timer changes result live makes =>
    obtain ⟨quiet, none⟩ := ends env.clock .crashed result
    exact makes.draws.append quiet none

/-! ### What the bucket pays -/

/-- The bucket of the core. -/
def Core.bucket (c : Core) : JsValue × JsValue × JsNum × Int :=
  (c.rateLimitRps, c.rateLimitBurst, c.availableTokens, c.lastRefillTime)

/-- A quiet change leaves the bucket alone, shows no charge, and shows what it pushes. -/
theorem change_quiet {clock : Int} {change : Change} (quiet : change.Quiet clock) {c after : Core}
    {out : List Obs} (stepped : c.step change = some (after, out)) :
    after.bucket = c.bucket ∧ out.flatMap Obs.charges = [] ∧
      out.flatMap Obs.arrivals = List.replicate change.pushes (seconds clock, 1) := by
  cases core_cases stepped with
  | touch | refill | spend | setRps | setBurst | capTokens => exact absurd quiet id
  | @refuse time cost short =>
    refine ⟨rfl, ?_, rfl⟩
    cases cost <;> rfl
  | flush | refuseBatch | drop | move | drain => exact ⟨rfl, rfl, rfl⟩
  | @push time event =>
    obtain rfl : time = clock := quiet
    exact ⟨rfl, rfl, rfl⟩
  | @finish shown ends =>
    cases shown with
    | limited | pushed => contradiction
    | moved | drained | flushed | logged | latency | single | batch | metrics | shutdown
    | threw | crashed => exact ⟨rfl, rfl, rfl⟩

/-- So do any number of quiet changes. -/
theorem exec_quiet {clock : Int} {changes : List Change}
    (quiet : ∀ change ∈ changes, change.Quiet clock) {c after : Core} {out : List Obs}
    (executed : coreSystem.exec System.unguarded c changes = some (after, out)) :
    after.bucket = c.bucket ∧ out.flatMap Obs.charges = [] ∧
      out.flatMap Obs.arrivals = List.replicate (pushedBy changes) (seconds clock, 1) := by
  induction changes generalizing c out with
  | nil =>
    simp only [System.exec, Option.some.injEq, Prod.mk.injEq] at executed
    obtain ⟨rfl, rfl⟩ := executed
    exact ⟨rfl, rfl, rfl⟩
  | cons change rest ih =>
    obtain ⟨own, others⟩ := List.forall_mem_cons.mp quiet
    obtain ⟨_, middle, first, later, stepped, tail, rfl⟩ := System.exec_cons executed
    obtain ⟨same, free, shown⟩ := change_quiet own stepped
    obtain ⟨kept, unpaid, pushed⟩ := ih others tail
    refine ⟨kept.trans same, ?_, ?_⟩
    · rw [List.flatMap_append, free, unpaid, List.append_nil]
    · have count : pushedBy (change :: rest) = change.pushes + pushedBy rest := total_cons _ _
      rw [List.flatMap_append, shown, pushed, count, List.replicate_add]

section Budgets

variable {rps burst start stop spent : ℚ} {earns : ℚ → ℚ}

/-- The bucket holds a level within the burst, and has a budget over the window. -/
structure Solvent (burst start stop : ℚ) (earns : ℚ → ℚ) (spent : ℚ) (c : Core) : Prop where
  /-- The burst is a number. -/
  limit : c.rateLimitBurst.toNumber = .ok (.fin burst)
  /-- The tokens are a number within the burst. -/
  budget : ∃ level, c.availableTokens = .fin level ∧ 0 ≤ level ∧ level ≤ burst ∧
    Budget burst start stop earns (seconds c.lastRefillTime) level spent

/-- A refill at the rate in force is no more than what was earned since the last one, or the
bucket is full even so. -/
def Core.Fair (c : Core) (rps burst : ℚ) (earns : ℚ → ℚ) (clock : Int) : Prop :=
  rps * (seconds clock - seconds c.lastRefillTime) ≤
      earns (seconds clock) - earns (seconds c.lastRefillTime) ∨
    ∀ level, c.availableTokens = .fin level →
      burst ≤ level + (earns (seconds clock) - earns (seconds c.lastRefillTime))

/-- The elapsed time in seconds. -/
theorem seconds_sub (later earlier : Int) :
    ((later - earlier : Int) : ℚ) / 1000 = seconds later - seconds earlier := by
  unfold seconds
  push_cast
  ring

/-- A later reading is no fewer seconds. -/
theorem seconds_mono {earlier later : Int} (order : earlier ≤ later) :
    seconds earlier ≤ seconds later := by
  have cast : (earlier : ℚ) ≤ later := by exact_mod_cast order
  unfold seconds
  linarith only [cast]

/-- The tokens after a refill at finite rates. -/
theorem tokensAt_fin {c : Core} {level : ℚ} (rate : c.rateLimitRps.toNumber = .ok (.fin rps))
    (limit : c.rateLimitBurst.toNumber = .ok (.fin burst))
    (holds : c.availableTokens = .fin level) (clock : Int) : c.tokensAt clock = .ok (.fin
      (min burst (level + (seconds clock - seconds c.lastRefillTime) * rps))) := by
  unfold Core.tokensAt
  rw [rate, limit, holds, seconds_sub]
  simp only [bind, Except.bind, pure, Except.pure, JsNum.mul_fin, JsNum.add_fin, JsNum.min_fin]

/-- Quiet changes keep the budget. -/
theorem Solvent.quiet {c after : Core} (solvent : Solvent burst start stop earns spent c)
    (same : after.bucket = c.bucket) : Solvent burst start stop earns spent after := by
  simp only [Core.bucket, Prod.mk.injEq] at same
  obtain ⟨_, limit, tokens, last⟩ := same
  constructor
  · rw [limit]
    exact solvent.limit
  · rw [tokens, last]
    exact solvent.budget

/-- A fair refill keeps the budget. -/
theorem Solvent.refill (mono : Monotone earns) (nonneg : 0 ≤ rps) (positive : 0 ≤ burst)
    (window : start ≤ stop) {c after : Core} (solvent : Solvent burst start stop earns spent c)
    (rate : c.rateLimitRps.toNumber = .ok (.fin rps)) {clock : Int}
    (later : c.lastRefillTime ≤ clock) (fair : c.Fair rps burst earns clock) {out : List Obs}
    (stepped : c.step (.refill clock) = some (after, out)) :
    after.rateLimitRps = c.rateLimitRps ∧ after.lastRefillTime = clock ∧ out = [] ∧
      Solvent burst start stop earns spent after := by
  obtain ⟨level, holds, low, high, budget⟩ := solvent.budget
  have looked := tokensAt_fin rate solvent.limit holds clock
  rw [Core.step, looked] at stepped
  obtain ⟨rfl, rfl⟩ := Prod.mk.inj (Option.some.inj stepped)
  have order := seconds_mono later
  have raised := mul_nonneg (sub_nonneg.mpr order) nonneg
  refine ⟨rfl, rfl, rfl, solvent.limit, _, rfl, ?_, min_le_left _ _, ?_⟩
  · apply le_min positive
    linarith only [raised, low]
  · apply budget.look mono positive window order (min_le_left _ _)
    rcases fair with slow | full
    · apply le_trans (min_le_right _ _)
      linarith only [slow]
    · exact le_trans (min_le_left _ _) (full level holds)

/-- Paying keeps the budget, and is charged to the window. -/
theorem Solvent.spend {c after : Core} (solvent : Solvent burst start stop earns spent c)
    {clock : Int} (looked : c.lastRefillTime = clock) {cost : ℚ} (nonneg : 0 ≤ cost)
    {out : List Obs} (stepped : c.step (.spend clock (.fin cost)) = some (after, out)) :
    after.rateLimitRps = c.rateLimitRps ∧ after.lastRefillTime = c.lastRefillTime ∧
      out = [.limited clock (.fin cost) true] ∧
      Solvent burst start stop earns
        (spent + spentWithin start stop (out.flatMap Obs.charges)) after := by
  obtain ⟨level, holds, low, high, budget⟩ := solvent.budget
  rw [Core.step, holds] at stepped
  split at stepped
  · rename_i fits
    rw [JsNum.le_fin] at fits
    obtain ⟨rfl, rfl⟩ := Prod.mk.inj (Option.some.inj stepped)
    have paid := budget.pay fits
    rw [looked] at paid
    refine ⟨rfl, rfl, rfl, solvent.limit, level - cost, JsNum.sub_fin _ _, ?_, ?_, ?_⟩
    · exact sub_nonneg.mpr fits
    · linarith only [high, nonneg]
    · have charged : [Obs.limited clock (.fin cost) true].flatMap Obs.charges =
          [(seconds clock, cost)] := rfl
      rw [charged, spentWithin_one]
      show Budget burst start stop earns (seconds c.lastRefillTime) _ _
      rw [looked]
      exact paid
  · contradiction

/-- What a step other than a change of the configuration leaves of the bucket: the rate, a refill
that is no later than the step, the budget, and no more arrivals in the window than its charges
allow. -/
structure Settled (rps burst start stop : ℚ) (earns : ℚ → ℚ) (spent : ℚ) (clock : Int)
    (out : List Obs) (c : Core) : Prop where
  /-- The rate is a number. -/
  rate : c.rateLimitRps.toNumber = .ok (.fin rps)
  /-- The clock has not gone back. -/
  last : c.lastRefillTime ≤ clock
  /-- The bucket is charged. -/
  solvent : Solvent burst start stop earns
    (spent + spentWithin start stop (out.flatMap Obs.charges)) c
  /-- An event costs at least the fiftieth part of a token. -/
  arrivals : spentWithin start stop (out.flatMap Obs.arrivals) ≤
    50 * spentWithin start stop (out.flatMap Obs.charges)

/-- Quiet changes that push nothing. -/
theorem Settled.quiet {c after : Core} {clock : Int} {first out : List Obs} {rest : List Change}
    (settled : Settled rps burst start stop earns spent clock first c)
    (quiet : ∀ change ∈ rest, change.Quiet clock) (none : pushedBy rest = 0)
    (executed : coreSystem.exec System.unguarded c rest = some (after, out)) :
    Settled rps burst start stop earns spent clock (first ++ out) after := by
  obtain ⟨same, free, pushed⟩ := exec_quiet quiet executed
  have kept := settled.solvent.quiet same
  simp only [Core.bucket, Prod.mk.injEq] at same
  rw [none, List.replicate_zero] at pushed
  constructor
  · rw [same.1]
    exact settled.rate
  · rw [same.2.2.2]
    exact settled.last
  · rw [List.flatMap_append, free, List.append_nil]
    exact kept
  · rw [List.flatMap_append, List.flatMap_append, free, pushed, List.append_nil, List.append_nil]
    exact settled.arrivals

/-- A step settles the bucket, if its refill is fair. -/
theorem Draws.settles (mono : Monotone earns) (nonneg : 0 ≤ rps) (positive : 0 ≤ burst)
    (window : start ≤ stop) {c after : Core} {clock : Int} {changes : List Change} {out : List Obs}
    (draws : Draws clock changes) (settled : Settled rps burst start stop earns spent clock [] c)
    (fair : .refill clock ∈ changes → c.Fair rps burst earns clock)
    (executed : coreSystem.exec System.unguarded c changes = some (after, out)) :
    Settled rps burst start stop earns spent clock out after := by
  have before : Solvent burst start stop earns spent c := by
    have solvent := settled.solvent
    rwa [List.flatMap_nil, spentWithin_nil, add_zero] at solvent
  cases draws with
  | dry quiet none => exact settled.quiet quiet none executed
  | touched quiet none =>
    obtain ⟨_, middle, first, later, stepped, _, rfl⟩ := System.exec_cons executed
    obtain ⟨level, holds, _⟩ := before.budget
    have looked := tokensAt_fin settled.rate before.limit holds clock
    have touched : c.step (.touch clock) = some (middle, first) := stepped
    cases core_cases touched with
    | touch failed =>
      rw [looked] at failed
      contradiction
  | looked quiet none =>
    obtain ⟨_, middle, first, later, stepped, tail, rfl⟩ := System.exec_cons executed
    obtain ⟨same, last, rfl, refilled⟩ := before.refill mono nonneg positive window settled.rate
      settled.last (fair List.mem_cons_self) stepped
    have between : Settled rps burst start stop earns spent clock [] middle := by
      refine ⟨?_, le_of_eq last, ?_, settled.arrivals⟩
      · rw [same]
        exact settled.rate
      · rw [List.flatMap_nil, spentWithin_nil, add_zero]
        exact refilled
    exact between.quiet quiet none tail
  | @paid cost rest quiet pushed =>
    obtain ⟨_, middle, first, later, stepped, tail, rfl⟩ := System.exec_cons executed
    obtain ⟨same, last, rfl, refilled⟩ := before.refill mono nonneg positive window settled.rate
      settled.last (fair List.mem_cons_self) stepped
    obtain ⟨_, final, second, trail, paying, ended, rfl⟩ := System.exec_cons tail
    have owed : 0 ≤ cost := by
      have some : (0 : ℚ) ≤ pushedBy rest := Nat.cast_nonneg _
      linarith only [some, pushed]
    obtain ⟨rated, looked, rfl, spends⟩ := refilled.spend last owed paying
    obtain ⟨kept, free, shown⟩ := exec_quiet quiet ended
    have charges : ([] ++ ([Obs.limited clock (.fin cost) true] ++ trail)).flatMap Obs.charges =
        [(seconds clock, cost)] := by
      rw [List.nil_append, List.flatMap_append, free, List.append_nil]
      rfl
    have arrivals : ([] ++ ([Obs.limited clock (.fin cost) true] ++ trail)).flatMap Obs.arrivals =
        List.replicate (pushedBy rest) (seconds clock, 1) := by
      rw [List.nil_append, List.flatMap_append, shown]
      rfl
    have solvent := spends.quiet kept
    simp only [Core.bucket, Prod.mk.injEq] at kept
    constructor
    · rw [kept.1, rated, same]
      exact settled.rate
    · rw [kept.2.2.2, looked, last]
    · rw [charges]
      exact solvent
    · rw [charges, arrivals, spentWithin_one, spentWithin_replicate, mul_one, mul_ite, mul_zero]
      split
      · exact pushed
      · exact le_rfl

/-- What is spent in the window so far may be set aside. -/
theorem Settled.opened {c : Core} {clock : Int} {out : List Obs}
    (settled : Settled rps burst start stop earns spent clock out c) :
    Settled rps burst start stop earns
      (spent + spentWithin start stop (out.flatMap Obs.charges)) clock [] c := by
  refine ⟨settled.rate, settled.last, ?_, ?_⟩
  · rw [List.flatMap_nil, spentWithin_nil, add_zero]
    exact settled.solvent
  · rw [List.flatMap_nil, List.flatMap_nil, spentWithin_nil, mul_zero]

/-- What was set aside counts with what follows. -/
theorem Settled.joined {first c : Core} {early late : Int} {seen out : List Obs} {new : ℚ}
    (settled : Settled rps burst start stop earns spent early seen first)
    (later : Settled new burst start stop earns
      (spent + spentWithin start stop (seen.flatMap Obs.charges)) late out c) :
    Settled new burst start stop earns spent late (seen ++ out) c := by
  have whole (read : Obs → List (ℚ × ℚ)) : spentWithin start stop ((seen ++ out).flatMap read) =
      spentWithin start stop (seen.flatMap read) + spentWithin start stop (out.flatMap read) := by
    rw [List.flatMap_append, spentWithin_append]
  refine ⟨later.rate, later.last, ?_, ?_⟩
  · rw [whole, ← add_assoc]
    exact later.solvent
  · have own := settled.arrivals
    have others := later.arrivals
    rw [whole, whole]
    linarith only [own, others]

/-- A step of the process other than a change of the configuration settles the bucket, if its
refill is fair. -/
theorem step_settles (mono : Monotone earns) (nonneg : 0 ≤ rps) (positive : 0 ≤ burst)
    (window : start ≤ stop) {p after : Process} {action : Act} {out : List Obs}
    (settled : Settled rps burst start stop earns spent p.loop.time [] p.core)
    (onward : Onward p action) (other : action.isConfig = false)
    (fair : ∀ changes, StepMakes p action changes → .refill action.clock ∈ changes →
      p.core.Fair rps burst earns action.clock)
    (stepped : step p action = some (after, out)) :
    Settled rps burst start stop earns spent after.loop.time out after.core := by
  obtain ⟨changes, executed, makes⟩ := step_makes stepped
  have begun : Settled rps burst start stop earns spent action.clock [] p.core :=
    ⟨settled.rate, le_trans settled.last onward, settled.solvent, settled.arrivals⟩
  have ended := (step_draws makes other).settles mono nonneg positive window begun
    (fair changes makes) executed
  have charges : (out.flatMap Obs.core).flatMap Obs.charges = out.flatMap Obs.charges :=
    flatMap_core _ (fun _ => rfl) (fun _ => rfl) out
  have arrivals : (out.flatMap Obs.core).flatMap Obs.arrivals = out.flatMap Obs.arrivals :=
    flatMap_core _ (fun _ => rfl) (fun _ => rfl) out
  rw [step_time stepped]
  refine ⟨ended.rate, ended.last, ?_, ?_⟩
  · rw [← charges]
    exact ended.solvent
  · rw [← charges, ← arrivals]
    exact ended.arrivals

end Budgets

/-! ### Runs at a fixed rate -/

/-- A step that leaves the configuration alone keeps it. -/
theorem step_config_same {p after : Process} {action : Act} {out : List Obs}
    (other : action.isConfig = false) (stepped : step p action = some (after, out)) :
    after.engine.config = p.engine.config := by
  rw [step_configures stepped]
  cases action with
  | fire env id => rfl
  | request env request => cases request <;> first | rfl | contradiction

/-- The clock does not go back, and the configuration is left alone. -/
def Unconfigured (p : Process) (action : Act) : Prop :=
  Onward p action ∧ action.isConfig = false

instance (p : Process) (action : Act) : Decidable (Unconfigured p action) :=
  inferInstanceAs (Decidable (Onward p action ∧ action.isConfig = false))

/-- At a fixed rate every refill is fair. -/
theorem fair_fixed (c : Core) (rps burst : ℚ) (clock : Int) :
    c.Fair rps burst (rps * ·) clock := by
  apply Or.inl
  rw [mul_sub]

/-- At a fixed rate the bucket stays settled over every run. -/
theorem run_settled {rps burst start stop : ℚ} (nonneg : 0 ≤ rps) (positive : 0 ≤ burst)
    (window : start ≤ stop) {init p : Process} {seen : List Obs}
    (initially : Settled rps burst start stop (rps * ·) 0 init.loop.time [] init.core)
    (run : system.Run Unconfigured init seen p) :
    Settled rps burst start stop (rps * ·) 0 p.loop.time seen p.core := by
  apply run.invariant
    (fun seen p => Settled rps burst start stop (rps * ·) 0 p.loop.time seen p.core) initially
  intro seen p action after out settled permitted stepped
  obtain ⟨onward, other⟩ := permitted
  apply settled.joined
  apply step_settles (monotone_id.const_mul nonneg) nonneg positive window settled.opened onward
    other _ stepped
  intro changes _ _
  exact fair_fixed p.core rps burst action.clock

/-- A bucket that holds a level within the burst is settled. -/
theorem settled_full {rps burst level start stop : ℚ} {earns : ℚ → ℚ} {c : Core} {clock : Int}
    (mono : Monotone earns) (positive : 0 ≤ burst) (window : start ≤ stop)
    (rate : c.rateLimitRps.toNumber = .ok (.fin rps))
    (limit : c.rateLimitBurst.toNumber = .ok (.fin burst))
    (tokens : c.availableTokens = .fin level) (within : 0 ≤ level ∧ level ≤ burst)
    (last : c.lastRefillTime ≤ clock) :
    Settled rps burst start stop earns 0 clock [] c where
  rate := rate
  last := last
  solvent := by
    rw [List.flatMap_nil, spentWithin_nil, add_zero]
    exact ⟨limit, level, tokens, within.1, within.2, .full mono within.2 positive window⟩
  arrivals := by rw [List.flatMap_nil, List.flatMap_nil, spentWithin_nil, mul_zero]

/-- The cost that a change pays is a number. -/
def Change.Priced : Change → Prop
  | .spend _ cost => ∃ amount, cost = .fin amount
  | _ => True

/-- The cost that was admitted is a number. -/
def Obs.Priced : Obs → Prop
  | .limited _ cost true => ∃ amount, cost = .fin amount
  | _ => True

/-- A change admits no other cost than the one that it pays. -/
theorem change_priced {change : Change} (priced : change.Priced) {c after : Core} {out : List Obs}
    (stepped : c.step change = some (after, out)) : ∀ obs ∈ out, obs.Priced := by
  intro obs member
  have shows := change_shows stepped obs member
  cases change with
  | touch | refill | refuseBatch | drop | setRps | setBurst | capTokens => exact shows.elim
  | spend =>
    obtain rfl := shows
    exact priced
  | refuse | push =>
    obtain rfl := shows
    trivial
  | move | drain =>
    obtain ⟨events, rfl⟩ := shows
    trivial
  | flush =>
    obtain ⟨batchId, events, failed, rfl⟩ := shows
    trivial
  | finish shown =>
    obtain ⟨rfl, ends⟩ := shows
    cases obs with
    | limited => contradiction
    | pushed | moved | drained | flushed | logged | latency | single | batch | metrics
    | shutdown | threw | crashed => trivial

/-- What a step draws is priced. -/
theorem Draws.priced {clock : Int} {changes : List Change} (draws : Draws clock changes) :
    ∀ change ∈ changes, change.Priced := by
  have calm {rest : List Change} (quiet : ∀ change ∈ rest, change.Quiet clock) :
      ∀ change ∈ rest, change.Priced := by
    intro change member
    have own := quiet change member
    cases change with
    | spend => exact absurd own id
    | touch | refill | setRps | setBurst | capTokens | refuse | refuseBatch | push | drop | move
    | drain | flush | finish => trivial
  cases draws with
  | dry quiet none => exact calm quiet
  | touched quiet none | looked quiet none => exact List.forall_mem_cons.mpr ⟨trivial, calm quiet⟩
  | paid quiet pushed =>
    refine List.forall_mem_cons.mpr ⟨trivial, ?_⟩
    exact List.forall_mem_cons.mpr ⟨⟨_, rfl⟩, calm quiet⟩

/-- Every cost that the limiter admits is a number, so every one is charged. -/
theorem costs_priced {init p : Process} {seen : List Obs}
    (run : system.Run Unconfigured init seen p) : ∀ obs ∈ seen, obs.Priced := by
  have refined := run_core Change.Priced
    (fun _ _ _ permitted makes => (step_draws makes permitted.2).priced) run
  have shown : ∀ obs ∈ seen.flatMap Obs.core, obs.Priced := by
    apply refined.invariant (fun seen _ => ∀ obs ∈ seen, obs.Priced)
    · exact List.forall_mem_nil Obs.Priced
    intro seen c change after out held priced stepped
    exact List.forall_mem_append.mpr ⟨held, change_priced priced stepped⟩
  intro obs member
  cases obs with
  | logged | latency => trivial
  | limited | pushed | moved | drained | flushed | single | batch | metrics | shutdown | threw
  | crashed => exact shown _ (List.mem_flatMap.mpr ⟨_, member, List.mem_cons_self⟩)

/-- At a fixed rate the tokens stay within the burst, and over every window of seconds the
admitted cost is at most the burst and what the window refills, and the accepted events are at
most fifty times as many. Every cost that was admitted is a number, so the sum leaves none out. -/
theorem fixed_rate_envelope {rps burst level : ℚ} {init p : Process} {seen : List Obs}
    (refills : 0 < rps) (holds : 0 < burst)
    (rate : init.engine.rateLimitRps.toNumber = .ok (.fin rps))
    (limit : init.engine.rateLimitBurst.toNumber = .ok (.fin burst))
    (tokens : init.engine.availableTokens = .fin level) (within : 0 ≤ level ∧ level ≤ burst)
    (last : init.engine.lastRefillTime ≤ init.loop.time)
    (run : system.Run Unconfigured init seen p) :
    (∃ left, p.engine.availableTokens = .fin left ∧ 0 ≤ left ∧ left ≤ burst) ∧
      (∀ start stop, start ≤ stop →
        spentWithin start stop (seen.flatMap Obs.charges) ≤ burst + rps * (stop - start) ∧
        spentWithin start stop (seen.flatMap Obs.arrivals) ≤
          50 * (burst + rps * (stop - start))) ∧
      ∀ obs ∈ seen, obs.Priced := by
  have mono : Monotone (rps * ·) := monotone_id.const_mul (le_of_lt refills)
  have settled {start stop : ℚ} (window : start ≤ stop) :
      Settled rps burst start stop (rps * ·) 0 p.loop.time seen p.core :=
    run_settled (le_of_lt refills) (le_of_lt holds) window
      (settled_full mono (le_of_lt holds) window rate limit tokens within last) run
  refine ⟨?_, ?_, costs_priced run⟩
  · obtain ⟨left, tokens, low, high, _⟩ := (settled (le_refl (0 : ℚ))).solvent.budget
    exact ⟨left, tokens, low, high⟩
  · intro start stop window
    obtain ⟨left, _, _, _, budget⟩ := (settled window).solvent.budget
    have total := budget.total mono (le_of_lt holds) window
    have arrivals := (settled window).arrivals
    constructor
    · linarith only [total]
    · linarith only [total, arrivals]

/-- A new process whose limiter is full at a given rate and burst. -/
def Process.withLimiter (env : Env) (rps burst : ℚ) : Process :=
  { Process.start env with engine := { (Process.start env).engine with
    rateLimitRps := .num (.fin rps)
    rateLimitBurst := .num (.fin burst)
    availableTokens := .fin burst } }

/-- With ten tokens a second and a burst of two, a single event and an empty batch pay two tokens,
a batch of 51 events finds too few, and a tenth of a second later another event finds one. So
three tokens are paid, as many as the window allows. -/
theorem fixed_rate_envelope_met :
    ∃ seen p, system.Run Unconfigured (.withLimiter (.calm 0) 10 2) seen p ∧
      spentWithin 0 (1 / 10) (seen.flatMap Obs.charges) = 3 ∧
      spentWithin 0 (1 / 10) (seen.flatMap Obs.arrivals) ≤ 50 * (2 + 10 * (1 / 10 - 0)) := by
  obtain ⟨seen, p, run, passed⟩ := System.exec_witness system Unconfigured
    (.withLimiter (.calm 0) 10 2)
    [.request (.calm 0) (.ingestSingle plainEvent), .request (.calm 0) (.ingestBatch []),
      .request (.calm 50) .getMetrics,
      .request (.calm 50) (.ingestBatch (List.replicate 51 plainEvent)),
      .request (.calm 100) (.ingestSingle plainEvent)]
    (fun outcome => spentWithin 0 (1 / 10) (outcome.2.flatMap Obs.charges) = 3) (by decide +kernel)
  have envelope := (fixed_rate_envelope (by norm_num) (by norm_num) rfl rfl rfl (by norm_num)
    (le_refl (0 : Int)) run).2.1 0 (1 / 10) (by norm_num)
  exact ⟨seen, p, run, of_decide_eq_true passed, envelope.2⟩

end IngestionEngine.Server
