import IngestionEngine.Server.Changes
import IngestionEngine.Server.Stall
import IngestionEngine.Systems.Threads

/-!
# What becomes of the submitted events

Each submitted event should be counted once, as accepted, dropped or limited, or as an error that
`ingestSingle` returned. A batch that the limiter refuses is counted twice: the limiter counts the
call, and `ingestBatch` counts its events. So the count is ahead by the number of these batches.
-/

namespace IngestionEngine.Server

open Systems

/-- An error that `ingestSingle` returned. -/
def Obs.errors : Obs → Nat
  | .single result => if result.status = .error then 1 else 0
  | _ => 0

/-- A call threw, or a callback did. -/
def Obs.throws : Obs → Bool
  | .threw _ | .crashed _ => true
  | _ => false

/-- The events that the counters of the core have counted. -/
def Core.counted (c : Core) : Nat := c.totalAccepted + c.totalDropped + c.rateLimitedRequests

/-- The batch that an action ingests: when, and how many events. -/
def Process.batch (p : Process) : Act → Option (Int × Nat)
  | .request env (.ingestBatch events) => some (env.clock, events.length)
  | .request _ _ => none
  | .fire env id =>
    match p.loop.find id with
    | some ⟨_, .loadTest eventsPerTick, _, _⟩ =>
      if p.engine.loadTestActive then
        (loadTestCount env p.engine eventsPerTick).map fun count => (env.clock, count)
      else none
    | _ => none

/-- The action is a call of `ingestSingle`. -/
def Act.isSingle : Act → Bool
  | .request _ (.ingestSingle _) => true
  | _ => false

/-- The events that an action submits. -/
def Process.submissions (p : Process) (action : Act) : Nat :=
  if action.isSingle then 1
  else
    match p.batch action with
    | some (_, total) => total
    | none => 0

/-- The action ingests a batch for which the limiter has too few tokens. -/
def Process.fallsShort (p : Process) (action : Act) : Bool :=
  match p.batch action with
  | some (clock, total) => !p.core.affords clock (batchCost total)
  | none => false

/-- The process with the events submitted so far, and the batches that fell short. -/
structure Audit where
  /-- The process. -/
  process : Process
  /-- The events submitted. -/
  submitted : Nat
  /-- The batches for which there were too few tokens. -/
  short : Nat

/-- The audited process. -/
def auditedSystem : System Audit Act Obs where
  step audit action :=
    (step audit.process action).map fun (after, out) =>
      ({ process := after
         submitted := audit.submitted + audit.process.submissions action
         short := audit.short + (audit.process.fallsShort action).toNat }, out)

/-- A call of `ingestSingle` or `ingestBatch` returns. -/
def Returns (audit : Audit) (action : Act) : Prop :=
  (action.isSingle = true ∨ (audit.process.batch action).isSome = true) →
    ∀ out ∈ (step audit.process action).map Prod.snd, ∀ obs ∈ out, obs.throws = false

instance (audit : Audit) (action : Act) : Decidable (Returns audit action) :=
  inferInstanceAs (Decidable ((_ = true ∨ _ = true) →
    ∀ out ∈ (step audit.process action).map Prod.snd, ∀ obs ∈ out, obs.throws = false))

/-! ### What a change counts -/

/-- What a change adds to the counters and the errors. -/
def Change.counts : Change → Nat
  | .refuse _ _ | .push _ _ | .drop => 1
  | .refuseBatch total => total
  | .finish shown => shown.errors
  | _ => 0

/-- A change counts what it counts. -/
theorem change_counts {c after : Core} {change : Change} {out : List Obs}
    (stepped : c.step change = some (after, out)) :
    after.counted + total Obs.errors out = c.counted + change.counts := by
  cases core_cases stepped with
  | touch | refill | spend | flush | refuse => rfl
  | refuseBatch | move | drain | setRps | setBurst | capTokens =>
    simp [Core.counted, Change.counts, Obs.errors, Nat.add_assoc]
  | push | drop =>
    simp only [Core.counted, Change.counts, total_cons, total_nil, Obs.errors]
    omega
  | finish ends =>
    rw [total_cons, total_nil]
    rfl

/-- Changes count what they count together. -/
theorem exec_counts {changes : List Change} {c after : Core} {out : List Obs}
    (executed : coreSystem.exec System.unguarded c changes = some (after, out)) :
    after.counted + total Obs.errors out = c.counted + total Change.counts changes := by
  induction changes generalizing c out with
  | nil =>
    simp only [System.exec, Option.some.injEq, Prod.mk.injEq] at executed
    obtain ⟨rfl, rfl⟩ := executed
    rfl
  | cons change rest ih =>
    obtain ⟨_, middle, first, later, stepped, tail, rfl⟩ := System.exec_cons executed
    have own := change_counts stepped
    have others := ih tail
    rw [total_append, total_cons]
    omega

/-- What ends a call or a callback is seen. -/
theorem exec_shows {changes : List Change} {c after : Core} {out : List Obs}
    (executed : coreSystem.exec System.unguarded c changes = some (after, out)) {shown : Obs}
    (member : .finish shown ∈ changes) : shown ∈ out := by
  induction changes generalizing c out with
  | nil => contradiction
  | cons change rest ih =>
    obtain ⟨_, middle, first, later, stepped, tail, rfl⟩ := System.exec_cons executed
    rcases List.mem_cons.mp member with rfl | later
    · have ends : (if shown.ends then some (c, [shown]) else none) = some (middle, first) := stepped
      split at ends
      · obtain ⟨_, rfl⟩ := Prod.mk.inj (Option.some.inj ends)
        exact List.mem_append_left _ List.mem_cons_self
      · contradiction
    · exact List.mem_append_right _ (ih tail later)

/-- An observation other than the log and the latencies was seen. -/
theorem core_seen {out : List Obs} {shown : Obs} (member : shown ∈ out.flatMap Obs.core) :
    shown ∈ out := by
  obtain ⟨obs, seen, read⟩ := List.mem_flatMap.mp member
  have same : shown = obs := by
    cases obs with
    | logged | latency => simp [Obs.core] at read
    | limited | pushed | moved | drained | flushed | single | batch | metrics | shutdown | threw
    | crashed => exact List.mem_singleton.mp read
  rw [same]
  exact seen

/-! ### What a step counts -/

/-- The limiter counts a call that it refuses. -/
theorem Limits.counts {c : Core} {clock : Int} {cost : JsNum} {changes : List Change}
    {allowed : Bool} (limits : Limits c clock cost changes (.ok allowed)) :
    total Change.counts changes = (!allowed).toNat := by
  cases limits <;> rfl

/-- `ingestSingle` counts its event when it returns. -/
theorem SingleMakes.counts {c : Core} {env : Env} {event : JsValue} {changes : List Change}
    {result : SingleResult} (makes : SingleMakes c env event changes (.ok result)) :
    total Change.counts changes + (Obs.single result).errors = 1 := by
  cases makes with
  | refused limits | rejected limits => rw [limits.counts]; rfl
  | dropped limits | accepted limits => rw [total_append, limits.counts]; rfl

/-- Each change of the loop of `ingestBatch` counts one event. -/
theorem counts_batchChanges (env : Env) (capacity : JsNum) (events : List JsValue)
    (index length : Nat) : total Change.counts (batchChanges env capacity events index length) =
      (batchChanges env capacity events index length).length := by
  induction events generalizing index length with
  | nil => rfl
  | cons event rest ih =>
    rw [batchChanges]
    split
    · rfl
    · split
      · rw [total_cons, ih, List.length_cons, Change.counts, add_comm]
      · rw [total_cons, ih, List.length_cons, Change.counts, add_comm]

/-- `ingestBatch` counts its events when it returns, and one more when it has too few tokens. -/
theorem BatchMakes.counts {c : Core} {env : Env} {capacity : JsNum} {events : List JsValue}
    {changes : List Change} {result : BatchResult}
    (makes : BatchMakes c env capacity events changes (.ok result)) :
    total Change.counts changes =
      events.length + (!c.affords env.clock (batchCost events.length)).toNat := by
  cases makes with
  | refused limits =>
    have short : c.affords env.clock (batchCost events.length) = false := by
      refine Bool.eq_false_of_not_eq_true fun affords => ?_
      cases limits.affords.mpr affords
    rw [total_append, limits.counts, short]
    exact Nat.add_comm _ _
  | admitted limits whole =>
    rw [total_append, limits.counts, limits.affords.mp rfl, counts_batchChanges, whole]
    exact Nat.add_comm _ _

/-- A request that returns counts what it submits, and a batch that falls short once more. -/
theorem request_counts {p : Process} {env : Env} {request : Request} {changes : List Change}
    {result : Except JsError Unit} (makes : RequestMakes p.engine env request changes result)
    (returned : (Act.request env request).isSingle = true ∨
      (p.batch (.request env request)).isSome = true → result = .ok ()) :
    total Change.counts (changes ++ ending .threw result) =
      p.submissions (.request env request) + (p.fallsShort (.request env request)).toNat := by
  cases makes with
  | single makes =>
    rw [total_append, total_append]
    exact makes.counts
  | singleThrows makes => cases returned (.inl rfl)
  | batch makes =>
    rw [total_append, total_append]
    exact makes.counts
  | batchThrows makes => cases returned (.inr rfl)
  | metrics makes | metricsThrows makes => rcases makes with rfl | rfl <;> rfl
  | startLoadTest | stopLoadTest | shutdownThrows => rfl
  | updateConfig configures =>
    have own : total Change.counts changes = 0 := by
      refine total_eq_zero fun change member => ?_
      cases configures change member <;> rfl
    rw [total_append, own]
    cases result <;> rfl
  | shutdown flushing => rcases flushing with rfl | rfl <;> rfl

/-- So does a callback of a timer. -/
theorem task_counts {p : Process} {env : Env} {timer : Timer Task} {changes : List Change}
    {result : Except JsError Unit} (live : timer ∈ p.loop.timers)
    (makes : TaskMakes p.engine env timer.task changes result)
    (returned : (p.batch (.fire env timer.id)).isSome = true → result = .ok ()) :
    total Change.counts (changes ++ ending .crashed result) =
      p.submissions (.fire env timer.id) + (p.fallsShort (.fire env timer.id)).toNat := by
  obtain ⟨id, task, due, period⟩ := timer
  have found := EventLoop.find_id live
  have single : (Act.fire env id).isSingle = false := rfl
  unfold Process.batch at returned
  unfold Process.submissions Process.fallsShort Process.batch
  simp only [found, single, Bool.false_eq_true, if_false] at returned ⊢
  cases makes with
  | idle quiet =>
    cases task with
    | loadTest eventsPerTick => simp [quiet eventsPerTick rfl, ending]
    | workers | release | flush | metrics | reset => rfl
  | moved flushing => rcases flushing with rfl | rfl <;> rfl
  | flushed => rfl
  | @loadTest eventsPerTick count changes result active ticks makes =>
    simp only [active, if_true, ticks, Option.map_some, Option.isSome_some, forall_const]
      at returned ⊢
    cases result with
    | error thrown => cases returned
    | ok value =>
      have counts := makes.counts
      rw [List.length_map, List.length_range] at counts
      rw [total_append, counts]
      rfl
  | overflows active ticks =>
    simp only [active, if_true, ticks, Option.map_none]
    rfl

/-- The log and the latencies have no errors. -/
theorem total_core (out : List Obs) :
    total Obs.errors (out.flatMap Obs.core) = total Obs.errors out := by
  induction out with
  | nil => rfl
  | cons first rest ih =>
    rw [List.flatMap_cons, total_append, total_cons, ih]
    cases first with
    | logged | latency => rfl
    | limited | pushed | moved | drained | flushed | single | batch | metrics | shutdown | threw
    | crashed => simp [Obs.core]

/-- A call whose exception is not seen has returned. -/
theorem returned_of_quiet {c after : Core} {changes : List Change} {out : List Obs}
    {shown : JsError → Obs} {result : Except JsError Unit}
    (executed : coreSystem.exec System.unguarded c (changes ++ ending shown result) =
      some (after, out.flatMap Obs.core)) (throws : ∀ thrown, (shown thrown).throws = true)
    (quiet : ∀ obs ∈ out, obs.throws = false) : result = .ok () := by
  cases result with
  | ok value => rfl
  | error thrown =>
    have seen := core_seen (exec_shows executed (List.mem_append_right _ List.mem_cons_self))
    have missing := quiet _ seen
    rw [throws] at missing
    contradiction

/-- A step counts what it submits, and a batch that falls short once more. -/
theorem step_counts {p after : Process} {action : Act} {out : List Obs}
    (returned : (action.isSingle = true ∨ (p.batch action).isSome = true) →
      ∀ obs ∈ out, obs.throws = false)
    (stepped : step p action = some (after, out)) :
    after.core.counted + total Obs.errors out =
      p.core.counted + p.submissions action + (p.fallsShort action).toNat := by
  obtain ⟨changes, executed, makes⟩ := step_makes stepped
  have counts := exec_counts executed
  rw [total_core] at counts
  cases makes with
  | request makes =>
    have own := request_counts makes fun ingests =>
      returned_of_quiet executed (fun _ => rfl) (returned ingests)
    omega
  | fire live makes =>
    have own := task_counts live makes fun ingests =>
      returned_of_quiet executed (fun _ => rfl) (returned (.inr ingests))
    omega

/-! ### The law over a run -/

/-- Every submitted event is counted once. -/
def Audit.Balanced (audit : Audit) (seen : List Obs) : Prop :=
  audit.submitted = audit.process.engine.totalAccepted + audit.process.engine.totalDropped +
    audit.process.engine.rateLimitedRequests + total Obs.errors seen

/-- The audit of a new process. -/
def Audit.start (env : Env) : Audit := { process := .start env, submitted := 0, short := 0 }

/-- The count is ahead by the batches that fell short. -/
theorem run_counts {env : Env} {seen : List Obs} {audit : Audit}
    (run : auditedSystem.Run Returns (.start env) seen audit) :
    audit.process.core.counted + total Obs.errors seen = audit.submitted + audit.short := by
  refine run.invariant (fun seen audit =>
    audit.process.core.counted + total Obs.errors seen = audit.submitted + audit.short) rfl ?_
  intro seen audit action after out counted returned stepped
  obtain ⟨⟨process, shown⟩, moved, same⟩ := Option.map_eq_some_iff.mp stepped
  simp only [Prod.mk.injEq] at same
  obtain ⟨rfl, rfl⟩ := same
  have shows : (step audit.process action).map Prod.snd = some shown := by rw [moved]; rfl
  have own := step_counts (fun ingests => returned ingests shown shows) moved
  rw [total_append]
  dsimp only
  omega

/-- In a run whose calls of `ingestSingle` and `ingestBatch` return, every submitted event is
counted once exactly when no batch fell short of tokens. -/
theorem submissions_counted {env : Env} {seen : List Obs} {audit : Audit}
    (run : auditedSystem.Run Returns (.start env) seen audit) :
    audit.Balanced seen ↔ audit.short = 0 := by
  have counted := run_counts run
  unfold Core.counted at counted
  unfold Audit.Balanced
  constructor
  · intro balanced
    rw [balanced] at counted
    exact (Nat.add_eq_left.mp counted.symm)
  · intro none
    rw [none, Nat.add_zero] at counted
    exact counted.symm

/-- One event is accepted, one has no message, a batch of two is accepted, and one event finds no
token. A poll submits nothing. -/
theorem submissions_counted_mixed :
    ∃ seen audit, auditedSystem.Run Returns (.start (.calm 0)) seen audit ∧
      audit.submitted = 5 ∧ audit.process.engine.rateLimitedRequests = 1 ∧
      audit.Balanced seen := by
  obtain ⟨seen, audit, run, passed⟩ := System.exec_witness auditedSystem Returns
    (.start (.calm 0))
    [.request (.calm 0)
        (.updateConfig (.obj [("rateLimitBurst", .num 3), ("rateLimitRps", .num 1)])),
      .request (.calm 1) (.ingestSingle plainEvent),
      .request (.calm 1) (.ingestSingle (.obj [("service", .str "auth-svc")])),
      .request (.calm 1) .getMetrics, .request (.calm 1) (.ingestBatch [plainEvent, .obj []]),
      .request (.calm 1) (.ingestSingle plainEvent)]
    (fun (audit, _) => audit.submitted = 5 && audit.short = 0 &&
      audit.process.engine.rateLimitedRequests = 1) (by decide +kernel)
  simp only [Bool.and_eq_true, decide_eq_true_eq] at passed
  obtain ⟨⟨submitted, short⟩, limited⟩ := passed
  exact ⟨seen, audit, run, submitted, limited, (submissions_counted run).mpr short⟩

/-- A batch of 51 events for which there is one token of two is counted as 52. -/
theorem submissions_counted_twice :
    ∃ seen audit, auditedSystem.Run Returns (.start (.calm 0)) seen audit ∧
      audit.submitted = 51 ∧ audit.process.engine.rateLimitedRequests = 52 ∧
      ¬ audit.Balanced seen := by
  obtain ⟨seen, audit, run, passed⟩ := System.exec_witness auditedSystem Returns
    (.start (.calm 0))
    [.request (.calm 0) (.updateConfig (.obj [("rateLimitBurst", .num 1)])),
      .request (.calm 0) (.ingestBatch (List.replicate 51 plainEvent))]
    (fun (audit, _) => audit.submitted = 51 &&
      audit.process.engine.rateLimitedRequests = 52) (by decide +kernel)
  simp only [Bool.and_eq_true, decide_eq_true_eq] at passed
  obtain ⟨submitted, limited⟩ := passed
  refine ⟨seen, audit, run, submitted, limited, fun balanced => ?_⟩
  rw [Audit.Balanced, submitted, limited] at balanced
  omega

end IngestionEngine.Server
