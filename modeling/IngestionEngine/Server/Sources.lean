import IngestionEngine.Server.Changes

/-!
# What makes each change

A step of the process makes several changes of the core. Each of them has its own source: the
request that was called or the timer that fired, and what that method found before it.
-/

namespace IngestionEngine.Server

open Systems

/-- The surroundings of a step. -/
def Act.env : Act → Env
  | .request env _ => env
  | .fire env _ => env

/-- The action makes the change in a state of the process. -/
inductive Change.Made (p : Process) : Act → Change → Prop where
  /-- A change that moves no event and does not end a shutdown. -/
  | still {action : Act} {change : Change} (quiet : change.still = true)
      (other : ∀ clock report, change ≠ .finish (.shutdown clock report)) :
      Made p action change
  /-- `ingestSingle` accepts its event. -/
  | single {env : Env} {event : JsValue} {ev : TelemetryEvent}
      (affords : p.core.affords env.clock 1 = true) (read : event.asObject = .ok ev)
      (service : (ev.get "service").truthy = true) (message : (ev.get "message").truthy = true) :
      Made p (.request env (.ingestSingle event)) (.push env.clock (singleEvent env ev))
  /-- `ingestBatch` accepts or drops one of its events. -/
  | batch {env : Env} {events : List JsValue} {change : Change}
      (affords : p.core.affords env.clock (batchCost events.length) = true)
      (member : change ∈ batchChanges env p.engine.channelCapacity events 0 p.engine.queue.length) :
      Made p (.request env (.ingestBatch events)) change
  /-- A tick of the load test ingests a batch. -/
  | loadTest {env : Env} {timer : Timer Task} {eventsPerTick : JsNum} {count : Nat}
      {change : Change} (live : timer ∈ p.loop.timers) (task : timer.task = .loadTest eventsPerTick)
      (active : p.engine.loadTestActive = true)
      (affords : p.core.affords env.clock (batchCost count) = true)
      (member : change ∈ batchChanges env p.engine.channelCapacity
        ((List.range count).map (mockEvent env)) 0 p.engine.queue.length) :
      Made p (.fire env timer.id) change
  /-- The workers move events. -/
  | move {env : Env} {timer : Timer Task} {count : Nat} (live : timer ∈ p.loop.timers)
      (task : timer.task = .workers) : Made p (.fire env timer.id) (.move env.clock count)
  /-- The workers have filled the buffer. -/
  | threshold {env : Env} {timer : Timer Task} (live : timer ∈ p.loop.timers)
      (task : timer.task = .workers) : Made p (.fire env timer.id) (.flush env .countThreshold)
  /-- The ticker finds that the window has passed. -/
  | window {env : Env} {timer : Timer Task} (live : timer ∈ p.loop.timers)
      (task : timer.task = .flush) : Made p (.fire env timer.id) (.flush env .windowTimeout)
  /-- A shutdown takes the queue. -/
  | drain {env : Env} : Made p (.request env .simulateGracefulShutdown) (.drain env.clock)
  /-- A shutdown flushes the buffer. -/
  | last {env : Env} :
      Made p (.request env .simulateGracefulShutdown) (.flush env .gracefulShutdown)
  /-- A shutdown returns. -/
  | returned {env : Env} {report : ShutdownReport} :
      Made p (.request env .simulateGracefulShutdown) (.finish (.shutdown env.clock report))

section Sources

variable {p : Process} {action : Act} {env : Env} {changes : List Change}

/-- The end of a call or a callback that is not a shutdown. -/
theorem made_finish {shown : Obs} (other : ∀ clock report, shown ≠ .shutdown clock report) :
    (Change.finish shown).Made p action :=
  .still rfl fun clock report same => other clock report (Change.finish.inj same)

/-- The changes of the limiter. -/
theorem Limits.made {c : Core} {clock : Int} {cost : JsNum} {result : Except JsError Bool}
    (limits : Limits c clock cost changes result) : ∀ change ∈ changes, change.Made p action := by
  cases limits with
  | throws | admitted | refused =>
    simp only [List.forall_mem_cons]
    repeat' apply And.intro
    all_goals first
      | exact .still rfl (by simp)
      | exact List.forall_mem_nil _

/-- The changes of `ingestSingle`. -/
theorem SingleMakes.made {event : JsValue} {result : Except JsError SingleResult}
    (makes : SingleMakes p.engine.core env event changes result) :
    ∀ change ∈ changes, change.Made p (.request env (.ingestSingle event)) := by
  cases makes with
  | throws limits | refused limits | unreadable limits | rejected limits => exact limits.made
  | dropped limits =>
    refine List.forall_mem_append.mpr ⟨limits.made, List.forall_mem_singleton.mpr ?_⟩
    exact .still rfl (by simp)
  | accepted limits read service message =>
    refine List.forall_mem_append.mpr ⟨limits.made, List.forall_mem_singleton.mpr ?_⟩
    exact .single (limits.affords.mp rfl) read service message

/-- The changes of `ingestBatch`, when those of its loop are made. -/
theorem BatchMakes.made {c : Core} {capacity : JsNum} {events : List JsValue}
    {result : Except JsError BatchResult} (makes : BatchMakes c env capacity events changes result)
    (loop : c.affords env.clock (batchCost events.length) = true →
      ∀ change ∈ batchChanges env capacity events 0 c.queue.length, change.Made p action) :
    ∀ change ∈ changes, change.Made p action := by
  cases makes with
  | throws limits => exact limits.made
  | refused limits =>
    refine List.forall_mem_append.mpr ⟨limits.made, List.forall_mem_singleton.mpr ?_⟩
    exact .still rfl (by simp)
  | broken limits | admitted limits =>
    exact List.forall_mem_append.mpr ⟨limits.made, loop (limits.affords.mp rfl)⟩

/-- The changes of a request. -/
theorem RequestMakes.made {request : Request} {result : Except JsError Unit}
    (makes : RequestMakes p.engine env request changes result) :
    ∀ change ∈ changes, change.Made p (.request env request) := by
  have ends {made : List Change} (own : ∀ change ∈ made, change.Made p (.request env request))
      {shown : Obs} (last : (Change.finish shown).Made p (.request env request)) :
      ∀ change ∈ made ++ [.finish shown], change.Made p (.request env request) :=
    List.forall_mem_append.mpr ⟨own, List.forall_mem_singleton.mpr last⟩
  cases makes with
  | single makes => exact ends makes.made (made_finish (by simp))
  | singleThrows makes => exact makes.made
  | batch makes =>
    exact ends (makes.made fun affords _ member => .batch affords member) (made_finish (by simp))
  | batchThrows makes => exact makes.made fun affords _ member => .batch affords member
  | metrics makes =>
    rcases makes with rfl | rfl
    all_goals
      refine ends (List.forall_mem_singleton.mpr ?_) (made_finish (by simp))
      exact .still rfl (by simp)
  | metricsThrows makes =>
    rcases makes with rfl | rfl
    all_goals exact List.forall_mem_singleton.mpr (.still rfl (by simp))
  | startLoadTest | stopLoadTest | shutdownThrows => exact List.forall_mem_nil _
  | updateConfig configures =>
    intro change member
    cases configures change member <;> exact .still rfl (by simp)
  | shutdown flushing =>
    refine ends (List.forall_mem_cons.mpr ⟨.drain, ?_⟩) .returned
    rcases flushing with rfl | rfl
    · exact List.forall_mem_nil _
    · exact List.forall_mem_singleton.mpr .last

/-- The changes of a timer's callback. -/
theorem TaskMakes.made {timer : Timer Task} {task : Task} {result : Except JsError Unit}
    (makes : TaskMakes p.engine env task changes result) (live : timer ∈ p.loop.timers)
    (named : timer.task = task) : ∀ change ∈ changes, change.Made p (.fire env timer.id) := by
  cases makes with
  | idle | overflows => exact List.forall_mem_nil _
  | moved flushing =>
    refine List.forall_mem_cons.mpr ⟨.move live named, ?_⟩
    rcases flushing with rfl | rfl
    · exact List.forall_mem_nil _
    · exact List.forall_mem_singleton.mpr (.threshold live named)
  | flushed => exact List.forall_mem_singleton.mpr (.window live named)
  | loadTest active ticks makes =>
    apply makes.made
    simp only [List.length_map, List.length_range]
    exact fun affords _ member => .loadTest live named active affords member

/-- A step makes each of its changes. -/
theorem StepMakes.made (makes : StepMakes p action changes) :
    ∀ change ∈ changes, change.Made p action := by
  have ending (shown : JsError → Obs) (other : ∀ thrown clock report,
      shown thrown ≠ .shutdown clock report) (result : Except JsError Unit) :
      ∀ change ∈ ending shown result, change.Made p action := by
    cases result with
    | ok value => exact List.forall_mem_nil _
    | error thrown => exact List.forall_mem_singleton.mpr (made_finish (other thrown))
  cases makes with
  | request makes =>
    exact List.forall_mem_append.mpr ⟨makes.made, ending .threw (by simp) _⟩
  | fire live makes =>
    exact List.forall_mem_append.mpr ⟨makes.made live rfl, ending .crashed (by simp) _⟩

/-- What a step shows is shown by a change that it makes. -/
theorem step_made {after : Process} {out : List Obs} (stepped : step p action = some (after, out))
    {obs : Obs} (member : obs ∈ out.flatMap Obs.core) :
    ∃ change : Change, change.Made p action ∧ change.Shows obs := by
  obtain ⟨changes, executed, makes⟩ := step_makes stepped
  obtain ⟨change, inside, before, next, shown, moved, seen⟩ := System.exec_shown executed member
  exact ⟨change, makes.made change inside, change_shows moved obs seen⟩

end Sources

end IngestionEngine.Server
