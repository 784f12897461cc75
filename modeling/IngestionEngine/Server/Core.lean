import IngestionEngine.Server.Numeric
import IngestionEngine.Systems.Refinement

/-!
# The events and the tokens of the server

What the engine does with events and tokens, apart from its timers, its workers, its log and
its metrics: a small system of changes. Each step of the process makes a few of them, in an
order that its request or its timer fixes.
-/

namespace IngestionEngine.Server

open Systems Program

/-- The events, the token bucket and the counters of the engine. -/
structure Core where
  /-- `rateLimitRps` -/
  rateLimitRps : JsValue
  /-- `rateLimitBurst` -/
  rateLimitBurst : JsValue
  /-- `availableTokens` -/
  availableTokens : JsNum
  /-- `lastRefillTime` -/
  lastRefillTime : Int
  /-- `rateLimitedRequests` -/
  rateLimitedRequests : Nat
  /-- `queue` -/
  queue : List TelemetryEvent
  /-- `batchBuffer` -/
  batchBuffer : List TelemetryEvent
  /-- `totalBatchesFlushed` -/
  totalBatchesFlushed : Nat
  /-- `totalEventsFlushed` -/
  totalEventsFlushed : Nat
  /-- `totalAccepted` -/
  totalAccepted : Nat
  /-- `totalDropped` -/
  totalDropped : Nat
  /-- `persistedTimeSeries` -/
  persistedTimeSeries : List PersistedRecord

/-- The core of an engine. -/
def Engine.core (e : Engine) : Core where
  rateLimitRps := e.rateLimitRps
  rateLimitBurst := e.rateLimitBurst
  availableTokens := e.availableTokens
  lastRefillTime := e.lastRefillTime
  rateLimitedRequests := e.rateLimitedRequests
  queue := e.queue
  batchBuffer := e.batchBuffer
  totalBatchesFlushed := e.totalBatchesFlushed
  totalEventsFlushed := e.totalEventsFlushed
  totalAccepted := e.totalAccepted
  totalDropped := e.totalDropped
  persistedTimeSeries := e.persistedTimeSeries

/-- The core of a process. -/
def Process.core (p : Process) : Core := p.engine.core

/-- A call or a callback has ended. -/
def Obs.ends : Obs → Bool
  | .single _ | .batch _ | .metrics _ | .shutdown _ _ | .threw _ | .crashed _ => true
  | .limited _ _ _ | .pushed _ _ | .moved _ _ | .drained _ _ | .flushed _ _ _ _ _ | .logged _
  | .latency _ => false

/-- The observations apart from the log and the latencies. -/
def Obs.core : Obs → List Obs
  | .logged _ | .latency _ => []
  | seen => [seen]

/-- A change of the core. -/
inductive Change where
  /-- A refill throws after it has set its time. -/
  | touch (clock : Int)
  /-- The bucket is refilled. -/
  | refill (clock : Int)
  /-- The limiter takes the tokens of a call. -/
  | spend (clock : Int) (cost : JsNum)
  /-- The limiter has too few tokens for a call, which it counts. -/
  | refuse (clock : Int) (cost : JsNum)
  /-- The events of a batch without tokens are counted. -/
  | refuseBatch (total : Nat)
  /-- An event is accepted into the queue. -/
  | push (clock : Int) (event : TelemetryEvent)
  /-- An event is dropped. -/
  | drop
  /-- Events go from the front of the queue into the buffer. -/
  | move (clock : Int) (count : Nat)
  /-- The whole queue goes into the buffer. -/
  | drain (clock : Int)
  /-- The buffer is flushed. -/
  | flush (env : Env) (reason : FlushReason)
  /-- `rateLimitRps` is configured. -/
  | setRps (given : JsValue)
  /-- `rateLimitBurst` is configured. -/
  | setBurst (given : JsValue)
  /-- The tokens above the configured burst are lost. -/
  | capTokens (burst : JsNum)
  /-- A call or a callback ends. -/
  | finish (shown : Obs)

namespace Core

/-- The tokens that a refill leaves. -/
def tokensAt (c : Core) (clock : Int) : Except JsError JsNum := do
  let elapsedSec : JsNum := .fin ((clock - c.lastRefillTime : Int) / 1000)
  let rps ← c.rateLimitRps.toNumber
  let burst ← c.rateLimitBurst.toNumber
  return burst.min (c.availableTokens.add (elapsedSec.mul rps))

/-- The records of a flush. -/
def records (c : Core) (env : Env) : List PersistedRecord :=
  (c.batchBuffer.take 50).zipIdx.map fun (ev, i) =>
    persistedRecord env (c.totalBatchesFlushed + 1) ev i

/-- What a change does, if it can happen. -/
def step (c : Core) : Change → Option (Core × List Obs)
  | .touch clock =>
    match c.tokensAt clock with
    | .ok _ => none
    | .error _ => some ({ c with lastRefillTime := clock }, [])
  | .refill clock =>
    match c.tokensAt clock with
    | .ok tokens => some ({ c with lastRefillTime := clock, availableTokens := tokens }, [])
    | .error _ => none
  | .spend clock cost =>
    if cost.le c.availableTokens then
      some ({ c with availableTokens := c.availableTokens.sub cost }, [.limited clock cost true])
    else none
  | .refuse clock cost =>
    if cost.le c.availableTokens then none
    else some ({ c with rateLimitedRequests := c.rateLimitedRequests + 1 },
      [.limited clock cost false])
  | .refuseBatch total =>
    some ({ c with rateLimitedRequests := c.rateLimitedRequests + total }, [])
  | .push clock event =>
    some ({ c with queue := c.queue ++ [event], totalAccepted := c.totalAccepted + 1 },
      [.pushed clock event])
  | .drop => some ({ c with totalDropped := c.totalDropped + 1 }, [])
  | .move clock count =>
    some ({ c with
        queue := c.queue.drop count, batchBuffer := c.batchBuffer ++ c.queue.take count },
      [.moved clock (c.queue.take count)])
  | .drain clock =>
    some ({ c with queue := [], batchBuffer := c.batchBuffer ++ c.queue }, [.drained clock c.queue])
  | .flush env reason =>
    if c.batchBuffer.length = 0 then none
    else some ({ c with
        batchBuffer := []
        totalBatchesFlushed := c.totalBatchesFlushed + 1
        totalEventsFlushed := c.totalEventsFlushed + c.batchBuffer.length
        persistedTimeSeries := ((c.records env).reverse ++ c.persistedTimeSeries).take 300 },
      [.flushed env.clock reason (c.totalBatchesFlushed + 1) c.batchBuffer
        (env.failure.val < 1 / 10000)])
  | .setRps given => some ({ c with rateLimitRps := given }, [])
  | .setBurst given => some ({ c with rateLimitBurst := given }, [])
  | .capTokens burst => some ({ c with availableTokens := c.availableTokens.min burst }, [])
  | .finish shown => if shown.ends then some (c, [shown]) else none

end Core

/-- The core as a system. -/
def coreSystem : System Core Change Obs := ⟨Core.step⟩

/-- Everything one change can do. -/
inductive CoreStep (c : Core) : Change → Core → List Obs → Prop where
  /-- The rates cannot be read, and the time of the refill is set. -/
  | touch {clock : Int} {thrown : JsError} (failed : c.tokensAt clock = .error thrown) :
      CoreStep c (.touch clock) { c with lastRefillTime := clock } []
  /-- The bucket is refilled. -/
  | refill {clock : Int} {tokens : JsNum} (looked : c.tokensAt clock = .ok tokens) :
      CoreStep c (.refill clock) { c with lastRefillTime := clock, availableTokens := tokens } []
  /-- The tokens of a call are taken. -/
  | spend {clock : Int} {cost : JsNum} (fits : cost.le c.availableTokens = true) :
      CoreStep c (.spend clock cost) { c with availableTokens := c.availableTokens.sub cost }
        [.limited clock cost true]
  /-- There are too few. -/
  | refuse {clock : Int} {cost : JsNum} (short : ¬ cost.le c.availableTokens = true) :
      CoreStep c (.refuse clock cost) { c with rateLimitedRequests := c.rateLimitedRequests + 1 }
        [.limited clock cost false]
  /-- The events of a batch without tokens are counted. -/
  | refuseBatch {total : Nat} : CoreStep c (.refuseBatch total)
      { c with rateLimitedRequests := c.rateLimitedRequests + total } []
  /-- An event is accepted. -/
  | push {clock : Int} {event : TelemetryEvent} : CoreStep c (.push clock event)
      { c with queue := c.queue ++ [event], totalAccepted := c.totalAccepted + 1 }
      [.pushed clock event]
  /-- An event is dropped. -/
  | drop : CoreStep c .drop { c with totalDropped := c.totalDropped + 1 } []
  /-- Events go into the buffer. -/
  | move {clock : Int} {count : Nat} : CoreStep c (.move clock count)
      { c with
        queue := c.queue.drop count, batchBuffer := c.batchBuffer ++ c.queue.take count }
      [.moved clock (c.queue.take count)]
  /-- The queue goes into the buffer. -/
  | drain {clock : Int} : CoreStep c (.drain clock)
      { c with queue := [], batchBuffer := c.batchBuffer ++ c.queue } [.drained clock c.queue]
  /-- A buffer that is not empty is flushed. -/
  | flush {env : Env} {reason : FlushReason} (filled : ¬ c.batchBuffer.length = 0) :
      CoreStep c (.flush env reason)
        { c with
          batchBuffer := []
          totalBatchesFlushed := c.totalBatchesFlushed + 1
          totalEventsFlushed := c.totalEventsFlushed + c.batchBuffer.length
          persistedTimeSeries := ((c.records env).reverse ++ c.persistedTimeSeries).take 300 }
        [.flushed env.clock reason (c.totalBatchesFlushed + 1) c.batchBuffer
          (env.failure.val < 1 / 10000)]
  /-- `rateLimitRps` is configured. -/
  | setRps {given : JsValue} : CoreStep c (.setRps given) { c with rateLimitRps := given } []
  /-- `rateLimitBurst` is configured. -/
  | setBurst {given : JsValue} : CoreStep c (.setBurst given) { c with rateLimitBurst := given } []
  /-- The tokens above the configured burst are lost. -/
  | capTokens {burst : JsNum} : CoreStep c (.capTokens burst)
      { c with availableTokens := c.availableTokens.min burst } []
  /-- A call or a callback ends. -/
  | finish {shown : Obs} (ends : shown.ends = true) : CoreStep c (.finish shown) c [shown]

/-- A change does nothing else. -/
theorem core_cases {c after : Core} {change : Change} {out : List Obs}
    (stepped : c.step change = some (after, out)) : CoreStep c change after out := by
  cases change with
  | refuseBatch | push | drop | move | drain | setRps | setBurst | capTokens =>
    obtain ⟨rfl, rfl⟩ := Prod.mk.inj (Option.some.inj stepped)
    constructor
  | touch | refill | spend | refuse | flush | finish =>
    rw [Core.step] at stepped
    split at stepped
    all_goals first
      | contradiction
      | obtain ⟨rfl, rfl⟩ := Prod.mk.inj (Option.some.inj stepped)
        constructor
        assumption

/-! ### What a change shows -/

/-- A change shows what it does. -/
def Change.Shows : Change → Obs → Prop
  | .spend clock cost, obs => obs = .limited clock cost true
  | .refuse clock cost, obs => obs = .limited clock cost false
  | .push clock event, obs => obs = .pushed clock event
  | .move clock _, obs => ∃ events, obs = .moved clock events
  | .drain clock, obs => ∃ events, obs = .drained clock events
  | .flush env reason, obs =>
    ∃ batchId events failed, obs = .flushed env.clock reason batchId events failed
  | .finish shown, obs => obs = shown ∧ shown.ends = true
  | .touch _, _ | .refill _, _ | .refuseBatch _, _ | .drop, _ | .setRps _, _ | .setBurst _, _
  | .capTokens _, _ => False

/-- A change shows nothing else. -/
theorem change_shows {change : Change} {c after : Core} {out : List Obs}
    (stepped : c.step change = some (after, out)) : ∀ obs ∈ out, change.Shows obs := by
  cases core_cases stepped with
  | touch | refill | refuseBatch | drop | setRps | setBurst | capTokens =>
    exact List.forall_mem_nil _
  | spend | refuse | push => exact List.forall_mem_singleton.mpr rfl
  | move | drain => exact List.forall_mem_singleton.mpr ⟨_, rfl⟩
  | flush => exact List.forall_mem_singleton.mpr ⟨_, _, _, rfl⟩
  | finish ends => exact List.forall_mem_singleton.mpr ⟨rfl, ends⟩

/-- Only the end of a call or a callback shows what ends one. -/
theorem shows_ends {change : Change} {obs : Obs} (ends : obs.ends = true)
    (shows : change.Shows obs) : change = .finish obs := by
  cases change with
  | touch | refill | refuseBatch | drop | setRps | setBurst | capTokens => exact shows.elim
  | spend | refuse | push =>
    obtain rfl := shows
    contradiction
  | move | drain =>
    obtain ⟨_, rfl⟩ := shows
    contradiction
  | flush =>
    obtain ⟨_, _, _, rfl⟩ := shows
    contradiction
  | finish shown => rw [shows.1]

/-! ### Changes that move no event -/

/-- The events and the records of the core, and their counters. -/
def Core.holdings (c : Core) :
    List TelemetryEvent × List TelemetryEvent × List PersistedRecord × Nat × Nat × Nat :=
  (c.batchBuffer, c.queue, c.persistedTimeSeries, c.totalAccepted, c.totalEventsFlushed,
    c.totalBatchesFlushed)

/-- The observation is neither of a push nor of a flush. -/
def Obs.still : Obs → Bool
  | .pushed _ _ | .flushed _ _ _ _ _ => false
  | _ => true

/-- The change moves no event. -/
def Change.still : Change → Bool
  | .push _ _ | .move _ _ | .drain _ | .flush _ _ => false
  | _ => true

/-- Such a change leaves the holdings alone. -/
theorem change_holds {change : Change} {c after : Core} {out : List Obs}
    (still : change.still = true) (stepped : c.step change = some (after, out)) :
    after.holdings = c.holdings ∧ ∀ obs ∈ out, obs.still = true := by
  cases core_cases stepped with
  | push | move | drain | flush => contradiction
  | touch | refill | refuseBatch | drop | setRps | setBurst | capTokens =>
    exact ⟨rfl, List.forall_mem_nil _⟩
  | spend | refuse => exact ⟨rfl, List.forall_mem_singleton.mpr rfl⟩
  | @finish shown ends =>
    refine ⟨rfl, List.forall_mem_singleton.mpr ?_⟩
    cases shown with
    | pushed | flushed => contradiction
    | limited | moved | drained | logged | latency | single | batch | metrics | shutdown
    | threw | crashed => rfl

/-! ### What each method makes -/

/-- A program of the engine makes the given changes and ends as given. -/
abbrev Makes {α : Type} (program : Js α) (p : Process) (changes : List Change)
    (result : Except JsError α) : Prop :=
  Performs coreSystem Process.core Obs.core program p changes result

/-- What the limiter makes for a call. -/
inductive Limits (c : Core) (clock : Int) (cost : JsNum) :
    List Change → Except JsError Bool → Prop where
  /-- The configured rates are not numbers. -/
  | throws {thrown : JsError} (failed : c.tokensAt clock = .error thrown) :
      Limits c clock cost [.touch clock] (.error thrown)
  /-- There are enough tokens. -/
  | admitted {tokens : JsNum} (looked : c.tokensAt clock = .ok tokens)
      (fits : cost.le tokens = true) :
      Limits c clock cost [.refill clock, .spend clock cost] (.ok true)
  /-- There are too few. -/
  | refused {tokens : JsNum} (looked : c.tokensAt clock = .ok tokens)
      (short : cost.le tokens = false) :
      Limits c clock cost [.refill clock, .refuse clock cost] (.ok false)

/-- The limiter has the tokens of a call. -/
def Core.affords (c : Core) (clock : Int) (cost : JsNum) : Bool :=
  match c.tokensAt clock with
  | .ok tokens => cost.le tokens
  | .error _ => false

/-- The limiter admits a call exactly when it has the tokens. -/
theorem Limits.affords {c : Core} {clock : Int} {cost : JsNum} {changes : List Change}
    {result : Except JsError Bool} (limits : Limits c clock cost changes result) :
    result = .ok true ↔ c.affords clock cost = true := by
  unfold Core.affords
  cases limits with
  | throws failed => simp [failed]
  | admitted looked fits => simp [looked, fits]
  | refused looked short => simp [looked, short]

/-- The limiter moves no event. -/
theorem Limits.still {c : Core} {clock : Int} {cost : JsNum} {changes : List Change}
    {result : Except JsError Bool} (limits : Limits c clock cost changes result) :
    ∀ change ∈ changes, change.still = true := by
  cases limits <;> simp [Change.still]

/-- The event that `ingestSingle` pushes. -/
def singleEvent (env : Env) (ev : TelemetryEvent) : TelemetryEvent :=
  orElse (orElse (orElse ev "timestamp" (toISOString env.clock)) "level" "INFO")
    "trace_id" ("tr-" ++ env.suffix 0)

/-- The event that `ingestBatch` pushes for the one at an index. -/
def batchEvent (env : Env) (index : Nat) (ev : TelemetryEvent) : TelemetryEvent :=
  orElse (orElse (orElse ev "timestamp" (toISOString env.clock))
    "trace_id" ("tr-" ++ env.suffix index)) "level" "INFO"

/-- What `ingestSingle` makes. -/
inductive SingleMakes (c : Core) (env : Env) (event : JsValue) :
    List Change → Except JsError SingleResult → Prop where
  /-- The limiter throws. -/
  | throws {changes : List Change} {thrown : JsError}
      (limits : Limits c env.clock 1 changes (.error thrown)) :
      SingleMakes c env event changes (.error thrown)
  /-- The limiter has no token. -/
  | refused {changes : List Change} (limits : Limits c env.clock 1 changes (.ok false)) :
      SingleMakes c env event changes (.ok ⟨.rateLimited, none, some rateLimitedError⟩)
  /-- The event has no properties to read or to assign. -/
  | unreadable {changes : List Change} {thrown : JsError}
      (limits : Limits c env.clock 1 changes (.ok true)) :
      SingleMakes c env event changes (.error thrown)
  /-- The event has no service or no message. -/
  | rejected {changes : List Change} (limits : Limits c env.clock 1 changes (.ok true)) :
      SingleMakes c env event changes (.ok ⟨.error, none, some validationError⟩)
  /-- The queue is full. -/
  | dropped {changes : List Change} (limits : Limits c env.clock 1 changes (.ok true)) :
      SingleMakes c env event (changes ++ [.drop])
        (.ok ⟨.queueSaturated, none, some saturatedError⟩)
  /-- The event is accepted. -/
  | accepted {changes : List Change} {ev : TelemetryEvent}
      (limits : Limits c env.clock 1 changes (.ok true)) (read : event.asObject = .ok ev)
      (service : (ev.get "service").truthy = true) (message : (ev.get "message").truthy = true) :
      SingleMakes c env event (changes ++ [.push env.clock (singleEvent env ev)])
        (.ok ⟨.accepted, some ((singleEvent env ev).get "trace_id"), none⟩)

/-- What the loop of `ingestBatch` makes from an index on, with the length of the queue. -/
def batchChanges (env : Env) (capacity : JsNum) : List JsValue → Nat → Nat → List Change
  | [], _, _ => []
  | event :: rest, index, length =>
    match event.asObject with
    | .error _ => []
    | .ok ev =>
      if (JsNum.ofNat length).lt capacity then
        .push env.clock (batchEvent env index ev) ::
          batchChanges env capacity rest (index + 1) (length + 1)
      else .drop :: batchChanges env capacity rest (index + 1) length

/-- The tokens that a batch costs. -/
def batchCost (total : Nat) : JsNum := JsNum.max 1 ((JsNum.ofNat total).div 50).ceil

/-- What `ingestBatch` makes. -/
inductive BatchMakes (c : Core) (env : Env) (capacity : JsNum) (events : List JsValue) :
    List Change → Except JsError BatchResult → Prop where
  /-- The limiter throws. -/
  | throws {changes : List Change} {thrown : JsError}
      (limits : Limits c env.clock (batchCost events.length) changes (.error thrown)) :
      BatchMakes c env capacity events changes (.error thrown)
  /-- The limiter has too few tokens. -/
  | refused {changes : List Change}
      (limits : Limits c env.clock (batchCost events.length) changes (.ok false)) :
      BatchMakes c env capacity events (changes ++ [.refuseBatch events.length])
        (.ok ⟨events.length, 0, events.length, true⟩)
  /-- An event is not an object. -/
  | broken {changes : List Change} {thrown : JsError}
      (limits : Limits c env.clock (batchCost events.length) changes (.ok true)) :
      BatchMakes c env capacity events
        (changes ++ batchChanges env capacity events 0 c.queue.length) (.error thrown)
  /-- Every event is accepted or dropped. -/
  | admitted {changes : List Change} {accepted dropped : Nat}
      (limits : Limits c env.clock (batchCost events.length) changes (.ok true))
      (whole : (batchChanges env capacity events 0 c.queue.length).length = events.length) :
      BatchMakes c env capacity events
        (changes ++ batchChanges env capacity events 0 c.queue.length)
        (.ok ⟨events.length, accepted, dropped, false⟩)

/-- The changes of a call of `updateConfig`. -/
inductive Configures (cfg : JsValue) : Change → Prop where
  /-- A rate is given. -/
  | rps {given : JsValue} (found : cfg.get "rateLimitRps" = .ok given)
      (set : given.truthy = true) : Configures cfg (.setRps given)
  /-- A burst is given. -/
  | burst {given : JsValue} (found : cfg.get "rateLimitBurst" = .ok given)
      (set : given.truthy = true) : Configures cfg (.setBurst given)
  /-- The given burst is a number. -/
  | cap {given : JsValue} {value : JsNum} (found : cfg.get "rateLimitBurst" = .ok given)
      (set : given.truthy = true) (number : given.toNumber = .ok value) :
      Configures cfg (.capTokens value)

/-- What a request makes. -/
inductive RequestMakes (e : Engine) (env : Env) :
    Request → List Change → Except JsError Unit → Prop where
  /-- `ingestSingle` returns. -/
  | single {event : JsValue} {changes : List Change} {result : SingleResult}
      (makes : SingleMakes e.core env event changes (.ok result)) :
      RequestMakes e env (.ingestSingle event) (changes ++ [.finish (.single result)]) (.ok ())
  /-- `ingestSingle` throws. -/
  | singleThrows {event : JsValue} {changes : List Change} {thrown : JsError}
      (makes : SingleMakes e.core env event changes (.error thrown)) :
      RequestMakes e env (.ingestSingle event) changes (.error thrown)
  /-- `ingestBatch` returns. -/
  | batch {events : List JsValue} {changes : List Change} {result : BatchResult}
      (makes : BatchMakes e.core env e.channelCapacity events changes (.ok result)) :
      RequestMakes e env (.ingestBatch events) (changes ++ [.finish (.batch result)]) (.ok ())
  /-- `ingestBatch` throws. -/
  | batchThrows {events : List JsValue} {changes : List Change} {thrown : JsError}
      (makes : BatchMakes e.core env e.channelCapacity events changes (.error thrown)) :
      RequestMakes e env (.ingestBatch events) changes (.error thrown)
  /-- `getMetrics` returns. -/
  | metrics {changes : List Change} {result : EngineMetrics}
      (makes : changes = [.touch env.clock] ∨ changes = [.refill env.clock]) :
      RequestMakes e env .getMetrics (changes ++ [.finish (.metrics result)]) (.ok ())
  /-- `getMetrics` throws. -/
  | metricsThrows {changes : List Change} {thrown : JsError}
      (makes : changes = [.touch env.clock] ∨ changes = [.refill env.clock]) :
      RequestMakes e env .getMetrics changes (.error thrown)
  /-- `startLoadTest` -/
  | startLoadTest {targetRps : JsNum} {scenario : String} :
      RequestMakes e env (.startLoadTest targetRps scenario) [] (.ok ())
  /-- `stopLoadTest` -/
  | stopLoadTest : RequestMakes e env .stopLoadTest [] (.ok ())
  /-- `updateConfig` -/
  | updateConfig {cfg : JsValue} {changes : List Change} {result : Except JsError Unit}
      (configures : ∀ change ∈ changes, Configures cfg change) :
      RequestMakes e env (.updateConfig cfg) changes result
  /-- `simulateGracefulShutdown` returns. -/
  | shutdown {flushes : List Change} {report : ShutdownReport}
      (flushing : flushes = [] ∨ flushes = [.flush env .gracefulShutdown]) :
      RequestMakes e env .simulateGracefulShutdown
        (.drain env.clock :: flushes ++ [.finish (.shutdown env.clock report)]) (.ok ())
  /-- `simulateGracefulShutdown` cannot spread the queue. -/
  | shutdownThrows : RequestMakes e env .simulateGracefulShutdown [] (.error .rangeError)

/-- What the callback of a timer makes. -/
inductive TaskMakes (e : Engine) (env : Env) :
    Task → List Change → Except JsError Unit → Prop where
  /-- The callback leaves the core alone. -/
  | idle {task : Task} (quiet : ∀ eventsPerTick, task = .loadTest eventsPerTick →
      e.loadTestActive = false) : TaskMakes e env task [] (.ok ())
  /-- The workers move events. -/
  | moved {count : Nat} {flushes : List Change}
      (flushing : flushes = [] ∨ flushes = [.flush env .countThreshold]) :
      TaskMakes e env .workers (.move env.clock count :: flushes) (.ok ())
  /-- The ticker flushes. -/
  | flushed : TaskMakes e env .flush [.flush env .windowTimeout] (.ok ())
  /-- The load test ingests a batch. -/
  | loadTest {eventsPerTick : JsNum} {count : Nat} {changes : List Change}
      {result : Except JsError BatchResult} (active : e.loadTestActive = true)
      (ticks : loadTestCount env e eventsPerTick = some count)
      (makes : BatchMakes e.core env e.channelCapacity ((List.range count).map (mockEvent env))
        changes result) :
      TaskMakes e env (.loadTest eventsPerTick) changes (result.map fun _ => ())
  /-- No array can hold the batch of the load test. -/
  | overflows {eventsPerTick : JsNum} (active : e.loadTestActive = true)
      (ticks : loadTestCount env e eventsPerTick = none) :
      TaskMakes e env (.loadTest eventsPerTick) [] (.error .rangeError)

/-- What a call or a callback shows at its end. -/
def ending (shown : JsError → Obs) : Except JsError Unit → List Change
  | .ok _ => []
  | .error thrown => [.finish (shown thrown)]

/-- What a step of the process makes. -/
inductive StepMakes (p : Process) : Act → List Change → Prop where
  /-- A request. -/
  | request {env : Env} {request : Request} {changes : List Change} {result : Except JsError Unit}
      (makes : RequestMakes p.engine env request changes result) :
      StepMakes p (.request env request) (changes ++ ending .threw result)
  /-- A timer. -/
  | fire {env : Env} {timer : Timer Task} {changes : List Change} {result : Except JsError Unit}
      (live : timer ∈ p.loop.timers) (makes : TaskMakes p.engine env timer.task changes result) :
      StepMakes p (.fire env timer.id) (changes ++ ending .crashed result)

end IngestionEngine.Server
