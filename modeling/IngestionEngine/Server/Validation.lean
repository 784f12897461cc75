import IngestionEngine.Server.Sources
import IngestionEngine.Server.Stall

/-!
# Which events reach the queue

Both ways of ingestion fill in a missing timestamp, level and trace. Only `ingestSingle` asks for
a service and a message, so what a batch holds decides whether the queue, the buffer and the
records have them.
-/

namespace IngestionEngine.Server

open Systems

/-! ### Properties that are assigned -/

namespace JsObject

/-- Replacing the values of one property leaves those of another. -/
theorem lookup_replace {name other : String} (different : other ≠ name) (value : JsValue)
    (members : List (String × JsValue)) :
    (members.map fun entry => if entry.1 = name then (name, value) else entry).lookup other =
      members.lookup other := by
  induction members with
  | nil => rfl
  | cons entry rest ih =>
    obtain ⟨key, old⟩ := entry
    have missed : (other == name) = false := beq_eq_false_iff_ne.mpr different
    by_cases here : key = name
    · subst here
      simp only [List.map_cons, if_true, List.lookup_cons, missed, ih]
    · simp only [List.map_cons, if_neg here, List.lookup_cons, ih]

/-- Replacing the values of a property that is there gives it the value. -/
theorem lookup_replaced {name : String} (value : JsValue) {members : List (String × JsValue)}
    (there : members.any (·.1 = name) = true) :
    (members.map fun entry => if entry.1 = name then (name, value) else entry).lookup name =
      some value := by
  induction members with
  | nil => contradiction
  | cons entry rest ih =>
    obtain ⟨key, old⟩ := entry
    by_cases here : key = name
    · subst here
      simp only [List.map_cons, if_true, List.lookup_cons, BEq.rfl]
    · have missed : (name == key) = false := beq_eq_false_iff_ne.mpr (Ne.symm here)
      have later : rest.any (·.1 = name) = true := by simpa [here] using there
      simp only [List.map_cons, if_neg here, List.lookup_cons, missed, ih later]

/-- A property that is not there has no value. -/
theorem lookup_missing {name : String} {members : List (String × JsValue)}
    (missing : ¬ members.any (·.1 = name) = true) : members.lookup name = none := by
  refine List.lookup_eq_none_iff.mpr fun entry member => ?_
  have different : ¬ entry.1 = name := fun same =>
    missing (List.any_eq_true.mpr ⟨entry, member, decide_eq_true same⟩)
  exact bne_iff_ne.mpr (Ne.symm different)

/-- Assigning one property leaves another. -/
theorem get_set_other {name other : String} (different : other ≠ name) (object : JsObject)
    (value : JsValue) : (object.set name value).get other = object.get other := by
  unfold set
  split
  · rw [get, lookup_replace different]
    rfl
  · have missed : (other == name) = false := beq_eq_false_iff_ne.mpr different
    rw [get, List.lookup_append, List.lookup_cons, missed]
    cases found : object.members.lookup other <;> simp [get, found]

/-- An assigned property has its value. -/
theorem get_set_self (object : JsObject) (name : String) (value : JsValue) :
    (object.set name value).get name = value := by
  unfold set
  split
  · rename_i there
    rw [get, lookup_replaced value there]
    rfl
  · rename_i missing
    rw [get, List.lookup_append, lookup_missing missing]
    simp

end JsObject

/-- Filling in a property leaves another. -/
theorem orElse_other {name other : String} (different : other ≠ name) (ev : TelemetryEvent)
    (value : String) : (orElse ev name value).get other = ev.get other := by
  unfold orElse
  split
  · rfl
  · exact JsObject.get_set_other different ev _

/-- A property that was filled in with a text is not empty. -/
theorem orElse_self (ev : TelemetryEvent) (name : String) {value : String} (text : value ≠ "") :
    ((orElse ev name value).get name).truthy = true := by
  unfold orElse
  split
  · assumption
  · rw [JsObject.get_set_self]
    exact decide_eq_true text

/-- A property stays filled in. -/
theorem orElse_keeps {ev : TelemetryEvent} {kept : String}
    (filled : (ev.get kept).truthy = true) (name : String) {value : String} (text : value ≠ "") :
    ((orElse ev name value).get kept).truthy = true := by
  by_cases same : kept = name
  · rw [same]
    exact orElse_self ev name text
  · rw [orElse_other same]
    exact filled

/-- A time is a text. -/
theorem toISOString_text (clock : Int) : toISOString clock ≠ "" := by
  intro empty
  exact absurd (String.append_eq_empty_iff.mp empty).2 (by decide)

/-- The trace of an event that had none is a text. -/
theorem trace_text (suffix : String) : "tr-" ++ suffix ≠ "" := by
  intro empty
  exact absurd (String.append_eq_empty_iff.mp empty).1 (by decide)

/-! ### Complete events -/

/-- The event has a service and a message. -/
def JsObject.Served (ev : JsObject) : Prop :=
  (ev.get "service").truthy = true ∧ (ev.get "message").truthy = true

/-- The event has everything that a queued event should have. -/
structure JsObject.Complete (ev : JsObject) : Prop where
  /-- `service` and `message` -/
  served : ev.Served
  /-- `level` -/
  level : (ev.get "level").truthy = true
  /-- `timestamp` -/
  timestamp : (ev.get "timestamp").truthy = true
  /-- `trace_id` -/
  trace : (ev.get "trace_id").truthy = true

instance (ev : JsObject) : Decidable ev.Served := inferInstanceAs (Decidable (_ ∧ _))

/-- `ingestSingle` completes an event with a service and a message. -/
theorem singleEvent_complete (env : Env) {ev : TelemetryEvent} (served : ev.Served) :
    (singleEvent env ev).Complete := by
  have time := toISOString_text env.clock
  have trace := trace_text (env.suffix 0)
  have level : "INFO" ≠ "" := by decide
  unfold singleEvent
  refine ⟨⟨?_, ?_⟩, ?_, ?_, orElse_self _ _ trace⟩
  · exact orElse_keeps (orElse_keeps (orElse_keeps served.1 _ time) _ level) _ trace
  · exact orElse_keeps (orElse_keeps (orElse_keeps served.2 _ time) _ level) _ trace
  · exact orElse_keeps (orElse_self _ _ level) _ trace
  · exact orElse_keeps (orElse_keeps (orElse_self _ _ time) _ level) _ trace

/-- `ingestBatch` completes exactly the events with a service and a message. -/
theorem batchEvent_complete (env : Env) (index : Nat) (ev : TelemetryEvent) :
    (batchEvent env index ev).Complete ↔ ev.Served := by
  have time := toISOString_text env.clock
  have trace := trace_text (env.suffix index)
  have level : "INFO" ≠ "" := by decide
  unfold batchEvent
  constructor
  · rintro ⟨⟨service, message⟩, _, _, _⟩
    rw [orElse_other (by decide), orElse_other (by decide), orElse_other (by decide)]
      at service message
    exact ⟨service, message⟩
  · intro served
    refine ⟨⟨?_, ?_⟩, orElse_self _ _ level, ?_, ?_⟩
    · exact orElse_keeps (orElse_keeps (orElse_keeps served.1 _ time) _ trace) _ level
    · exact orElse_keeps (orElse_keeps (orElse_keeps served.2 _ time) _ trace) _ level
    · exact orElse_keeps (orElse_keeps (orElse_self _ _ time) _ trace) _ level
    · exact orElse_keeps (orElse_self _ _ trace) _ level

/-- Every event in the queue and the buffer is complete, and every record has a service. -/
structure Core.Valid (c : Core) : Prop where
  /-- The queue. -/
  queue : ∀ ev ∈ c.queue, ev.Complete
  /-- The buffer. -/
  buffer : ∀ ev ∈ c.batchBuffer, ev.Complete
  /-- The records. -/
  persisted : ∀ record ∈ c.persistedTimeSeries, record.service.truthy = true

/-- An event that the change pushes is complete. -/
def Change.Complete : Change → Prop
  | .push _ event => event.Complete
  | _ => True

/-- The records of complete events have a service. -/
theorem records_served {c : Core} (env : Env) (buffer : ∀ ev ∈ c.batchBuffer, ev.Complete)
    {record : PersistedRecord} (member : record ∈ c.records env) :
    record.service.truthy = true := by
  obtain ⟨⟨ev, index⟩, taken, rfl⟩ := List.mem_map.mp member
  have inside : ev ∈ c.batchBuffer := List.mem_of_mem_take (List.fst_mem_of_mem_zipIdx taken)
  exact (buffer ev inside).served.1

/-- A change that pushes only complete events leaves the core valid. -/
theorem change_valid {c after : Core} {change : Change} {out : List Obs} (valid : c.Valid)
    (complete : change.Complete) (stepped : c.step change = some (after, out)) : after.Valid := by
  cases core_cases stepped with
  | push =>
    refine ⟨fun ev member => ?_, valid.buffer, valid.persisted⟩
    rcases List.mem_append.mp member with old | new
    · exact valid.queue ev old
    · rw [List.mem_singleton.mp new]
      exact complete
  | move =>
    refine ⟨fun ev member => valid.queue ev (List.mem_of_mem_drop member), fun ev member => ?_,
      valid.persisted⟩
    rcases List.mem_append.mp member with old | new
    · exact valid.buffer ev old
    · exact valid.queue ev (List.mem_of_mem_take new)
  | drain =>
    refine ⟨by simp, fun ev member => ?_, valid.persisted⟩
    exact (List.mem_append.mp member).elim (valid.buffer ev) (valid.queue ev)
  | @flush env reason filled =>
    refine ⟨valid.queue, by simp, fun record member => ?_⟩
    rcases List.mem_append.mp (List.mem_of_mem_take member) with new | old
    · exact records_served env valid.buffer (List.mem_reverse.mp new)
    · exact valid.persisted record old
  | touch | refill | spend | refuse | refuseBatch | drop | setRps | setBurst | capTokens
  | finish => exact ⟨valid.queue, valid.buffer, valid.persisted⟩

/-! ### The condition on the batches -/

/-- The events of a batch that find room in a queue of the given length, up to the first that
is not an object. -/
def fitting (capacity : JsNum) : List JsValue → Nat → List TelemetryEvent
  | [], _ => []
  | event :: rest, length =>
    match event.asObject with
    | .error _ => []
    | .ok ev =>
      if (JsNum.ofNat length).lt capacity then ev :: fitting capacity rest (length + 1)
      else fitting capacity rest length

/-- Every event of a batch that the limiter admits and that finds room has a service and a
message. -/
def ServedBatches (p : Process) : Act → Prop
  | .request env (.ingestBatch events) =>
    p.core.affords env.clock (batchCost events.length) = true →
      ∀ ev ∈ fitting p.engine.channelCapacity events p.engine.queue.length, ev.Served
  | .request _ _ | .fire _ _ => True

/-- The loop of `ingestBatch` pushes the events that find room. -/
theorem push_batchChanges {env : Env} {capacity : JsNum} {events : List JsValue}
    {index length : Nat} {change : Change}
    (member : change ∈ batchChanges env capacity events index length) :
    change = .drop ∨ ∃ position, ∃ ev ∈ fitting capacity events length,
      change = .push env.clock (batchEvent env position ev) := by
  induction events generalizing index length with
  | nil => contradiction
  | cons event rest ih =>
    rw [batchChanges] at member
    rw [fitting]
    cases read : event.asObject with
    | error thrown => simp [read] at member
    | ok ev =>
      simp only [read] at member ⊢
      by_cases room : (JsNum.ofNat length).lt capacity = true
      · rw [if_pos room] at member ⊢
        rcases List.mem_cons.mp member with rfl | later
        · exact .inr ⟨index, ev, List.mem_cons_self, rfl⟩
        · rcases ih later with dropped | ⟨position, other, fits, pushed⟩
          · exact .inl dropped
          · exact .inr ⟨position, other, List.mem_cons_of_mem _ fits, pushed⟩
      · rw [if_neg room] at member ⊢
        rcases List.mem_cons.mp member with rfl | later
        · exact .inl rfl
        · exact ih later

/-- It pushes each of them. -/
theorem fitting_pushed (env : Env) {capacity : JsNum} {events : List JsValue}
    {length : Nat} (index : Nat) {ev : TelemetryEvent}
    (fits : ev ∈ fitting capacity events length) :
    ∃ position, .push env.clock (batchEvent env position ev) ∈
      batchChanges env capacity events index length := by
  induction events generalizing index length with
  | nil => contradiction
  | cons event rest ih =>
    rw [fitting] at fits
    rw [batchChanges]
    cases read : event.asObject with
    | error thrown => simp [read] at fits
    | ok object =>
      simp only [read] at fits ⊢
      by_cases room : (JsNum.ofNat length).lt capacity = true
      · rw [if_pos room] at fits ⊢
        rcases List.mem_cons.mp fits with rfl | later
        · exact ⟨index, List.mem_cons_self⟩
        · obtain ⟨position, pushed⟩ := ih (index + 1) later
          exact ⟨position, List.mem_cons_of_mem _ pushed⟩
      · rw [if_neg room] at fits ⊢
        obtain ⟨position, pushed⟩ := ih (index + 1) fits
        exact ⟨position, List.mem_cons_of_mem _ pushed⟩

/-- What fits was in the batch. -/
theorem fitting_mem {capacity : JsNum} {events : List JsValue} {length : Nat} {ev : TelemetryEvent}
    (fits : ev ∈ fitting capacity events length) : ∃ event ∈ events, event.asObject = .ok ev := by
  induction events generalizing length with
  | nil => contradiction
  | cons event rest ih =>
    rw [fitting] at fits
    cases read : event.asObject with
    | error thrown => simp [read] at fits
    | ok object =>
      simp only [read] at fits
      by_cases room : (JsNum.ofNat length).lt capacity = true
      · rw [if_pos room] at fits
        rcases List.mem_cons.mp fits with rfl | later
        · exact ⟨event, List.mem_cons_self, read⟩
        · obtain ⟨other, member, reads⟩ := ih later
          exact ⟨other, List.mem_cons_of_mem _ member, reads⟩
      · rw [if_neg room] at fits
        obtain ⟨other, member, reads⟩ := ih fits
        exact ⟨other, List.mem_cons_of_mem _ member, reads⟩

/-- The events of the load test have a service and a message. -/
theorem mockEvent_served (env : Env) {capacity : JsNum} {count length : Nat} {ev : TelemetryEvent}
    (fits : ev ∈ fitting capacity ((List.range count).map (mockEvent env)) length) :
    ev.Served := by
  obtain ⟨event, member, read⟩ := fitting_mem fits
  obtain ⟨index, _, rfl⟩ := List.mem_map.mp member
  obtain rfl := Except.ok.inj read
  have named : ∀ index : Fin 5, services.getD index "" ≠ "" := by decide
  exact ⟨decide_eq_true (named (env.mock index).service), rfl⟩

/-! ### What a step pushes -/

/-- A change that moves no event pushes none. -/
theorem complete_of_still {change : Change} (still : change.still = true) : change.Complete := by
  cases change with
  | push => contradiction
  | touch | refill | spend | refuse | refuseBatch | drop | move | drain | flush | setRps | setBurst
  | capTokens | finish => trivial

/-- A change of the loop of `ingestBatch` pushes a complete event when those that fit are served. -/
theorem complete_of_batch {env : Env} {capacity : JsNum} {events : List JsValue} {length : Nat}
    (served : ∀ ev ∈ fitting capacity events length, ev.Served) {change : Change}
    (member : change ∈ batchChanges env capacity events 0 length) : change.Complete := by
  rcases push_batchChanges member with rfl | ⟨position, ev, fits, rfl⟩
  · trivial
  · exact (batchEvent_complete env position ev).mpr (served ev fits)

/-- Every change that a step makes pushes complete events when the batches are served. -/
theorem Change.Made.complete {p : Process} {action : Act} {change : Change}
    (made : change.Made p action) (served : ServedBatches p action) : change.Complete := by
  cases made with
  | still quiet => exact complete_of_still quiet
  | single affords read service message => exact singleEvent_complete _ ⟨service, message⟩
  | batch affords member => exact complete_of_batch (served affords) member
  | loadTest live task active affords member =>
    exact complete_of_batch (fun ev fits => mockEvent_served _ fits) member
  | move | threshold | window | drain | last | returned => trivial

/-- In a run whose batches are served the core is valid. -/
theorem run_valid {env : Env} {seen : List Obs} {p : Process}
    (run : system.Run ServedBatches (.start env) seen p) : p.core.Valid := by
  have refined := run_core Change.Complete
    (fun _ _ _ served makes change member => (makes.made change member).complete served) run
  refine refined.state_invariant Core.Valid ?_ fun _ _ _ _ => change_valid
  have queue : (Process.start env).core.queue = [] := rfl
  have buffer : (Process.start env).core.batchBuffer = [] := rfl
  have persisted : (Process.start env).core.persistedTimeSeries = [] := rfl
  exact ⟨by simp [queue], by simp [buffer], by simp [persisted]⟩

/-! ### Batches that are not served -/

/-- The change leaves every queued event in the queue. -/
def Change.queues : Change → Bool
  | .move _ _ | .drain _ => false
  | _ => true

/-- An event stays in the queue. -/
theorem change_queues {c after : Core} {change : Change} {out : List Obs}
    (queues : change.queues = true) (stepped : c.step change = some (after, out)) :
    ∀ ev ∈ c.queue, ev ∈ after.queue := by
  cases core_cases stepped with
  | move | drain => contradiction
  | push => exact fun ev member => List.mem_append_left _ member
  | touch | refill | spend | refuse | refuseBatch | drop | flush | setRps | setBurst | capTokens
  | finish => exact fun ev member => member

/-- An event that was queued, or that one of the changes pushes, is in the queue after them. -/
theorem exec_queues {changes : List Change} {c after : Core} {out : List Obs}
    (queues : ∀ change ∈ changes, change.queues = true)
    (executed : coreSystem.exec System.unguarded c changes = some (after, out))
    {ev : TelemetryEvent}
    (queued : ev ∈ c.queue ∨ ∃ clock, .push clock ev ∈ changes) : ev ∈ after.queue := by
  induction changes generalizing c out with
  | nil =>
    simp only [System.exec, Option.some.injEq, Prod.mk.injEq] at executed
    obtain ⟨rfl, rfl⟩ := executed
    simpa using queued
  | cons change rest ih =>
    obtain ⟨own, others⟩ := List.forall_mem_cons.mp queues
    obtain ⟨_, middle, first, later, stepped, tail, rfl⟩ := System.exec_cons executed
    refine ih others tail ?_
    rcases queued with member | ⟨clock, pushed⟩
    · exact .inl (change_queues own stepped ev member)
    · rcases List.mem_cons.mp pushed with rfl | pushed
      · obtain ⟨rfl, rfl⟩ := Prod.mk.inj (Option.some.inj stepped)
        exact .inl (List.mem_append_right _ List.mem_cons_self)
      · exact .inr ⟨clock, pushed⟩

/-- A batch that the limiter admits pushes every event that fits, and takes none out. -/
theorem BatchMakes.pushes {c : Core} {env : Env} {capacity : JsNum} {events : List JsValue}
    {changes : List Change} {result : Except JsError BatchResult}
    (makes : BatchMakes c env capacity events changes result)
    (affords : c.affords env.clock (batchCost events.length) = true) {ev : TelemetryEvent}
    (fits : ev ∈ fitting capacity events c.queue.length) :
    (∀ change ∈ changes, change.queues = true) ∧
      ∃ position, .push env.clock (batchEvent env position ev) ∈ changes := by
  have limited {changes : List Change}
      (limits : Limits c env.clock (batchCost events.length) changes (.ok true)) :
      ∀ change ∈ changes, change.queues = true := by
    cases limits
    simp [Change.queues]
  have loop : ∀ change ∈ batchChanges env capacity events 0 c.queue.length,
      change.queues = true :=
    batchChanges_each (fun change => change.queues = true) rfl (fun _ => rfl) _ _ _ _
  obtain ⟨position, pushed⟩ := fitting_pushed env 0 fits
  cases makes with
  | throws limits => cases limits.affords.mpr affords
  | refused limits => cases limits.affords.mpr affords
  | broken limits | admitted limits =>
    exact ⟨List.forall_mem_append.mpr ⟨limited limits, loop⟩, position,
      List.mem_append_right _ pushed⟩

/-- An event of a batch that finds room and is not served stays in the queue. -/
theorem BatchMakes.unserved {c after : Core} {env : Env} {capacity : JsNum} {events : List JsValue}
    {changes rest : List Change} {result : Except JsError BatchResult} {out : List Obs}
    (makes : BatchMakes c env capacity events changes result)
    (queues : ∀ change ∈ rest, change.queues = true)
    (executed : coreSystem.exec System.unguarded c (changes ++ rest) = some (after, out))
    (unserved : ¬ (c.affords env.clock (batchCost events.length) = true →
      ∀ ev ∈ fitting capacity events c.queue.length, ev.Served)) : ¬ after.Valid := by
  push Not at unserved
  obtain ⟨affords, ev, fits, lacks⟩ := unserved
  obtain ⟨own, position, pushed⟩ := makes.pushes affords fits
  intro valid
  have queued := exec_queues (List.forall_mem_append.mpr ⟨own, queues⟩) executed
    (.inr ⟨env.clock, List.mem_append_left _ pushed⟩)
  exact lacks ((batchEvent_complete env position ev).mp (valid.queue _ queued))

/-- A batch that the limiter admits, with an event that finds room and has no service or no
message, leaves that event in the queue. -/
theorem step_unserved {p after : Process} {action : Act} {out : List Obs}
    (unserved : ¬ ServedBatches p action) (stepped : step p action = some (after, out)) :
    ¬ after.core.Valid := by
  obtain ⟨changes, executed, makes⟩ := step_makes stepped
  cases makes with
  | fire => exact absurd trivial unserved
  | request makes =>
    cases makes with
    | single | singleThrows | metrics | metricsThrows | startLoadTest | stopLoadTest
    | updateConfig | shutdown | shutdownThrows => exact absurd trivial unserved
    | batch makes =>
      rw [List.append_assoc] at executed
      exact makes.unserved (by simp [ending, Change.queues]) executed unserved
    | batchThrows makes =>
      exact makes.unserved (by simp [ending, Change.queues]) executed unserved

instance (p : Process) (action : Act) : Decidable (ServedBatches p action) :=
  match action with
  | .request env (.ingestBatch events) =>
    inferInstanceAs (Decidable (p.core.affords env.clock (batchCost events.length) = true →
      ∀ ev ∈ fitting p.engine.channelCapacity events p.engine.queue.length, ev.Served))
  | .request _ (.ingestSingle _) | .request _ .getMetrics | .request _ (.startLoadTest _ _)
  | .request _ .stopLoadTest | .request _ (.updateConfig _)
  | .request _ .simulateGracefulShutdown | .fire _ _ => inferInstanceAs (Decidable True)

/-- As long as every event of an admitted batch that finds room has a service and a message, the
events in the queue and the buffer are complete and the records have a service. After a batch
that breaks this they are not. -/
theorem stored_events_valid (env : Env) :
    (∀ (seen : List Obs) (p : Process), system.Run ServedBatches (.start env) seen p →
        p.core.Valid) ∧
      ∀ (p after : Process) (action : Act) (out : List Obs), ¬ ServedBatches p action →
        step p action = some (after, out) → ¬ after.core.Valid :=
  ⟨fun _ _ run => run_valid run, fun _ _ _ _ => step_unserved⟩

/-- A served batch, a single event without a message, which is refused, and a flush. -/
theorem stored_events_valid_flush :
    ∃ seen p, system.Run ServedBatches (.start (.calm 0)) seen p ∧
      p.engine.persistedTimeSeries.length = 1 ∧ p.engine.queue.length = 1 ∧ p.core.Valid := by
  obtain ⟨seen, p, run, passed⟩ := System.exec_witness system ServedBatches (.start (.calm 0))
    [.request (.calm 1) (.ingestBatch [plainEvent]),
      .request (.calm 2) (.ingestSingle (.obj [("service", .str "auth-svc")])),
      .request (.calm 3) .simulateGracefulShutdown,
      .request (.calm 4) (.ingestSingle plainEvent)]
    (fun (p, _) => p.engine.persistedTimeSeries.length = 1 && p.engine.queue.length = 1)
    (by decide +kernel)
  simp only [Bool.and_eq_true, decide_eq_true_eq] at passed
  exact ⟨seen, p, run, passed.1, passed.2, (stored_events_valid (.calm 0)).1 seen p run⟩

/-- A batch with one empty object puts an event without a service and a message into the queue. -/
theorem stored_events_invalid :
    ∃ seen p, system.AnyRun (.start (.calm 0)) seen p ∧ ¬ p.core.Valid ∧
      ∃ ev ∈ p.engine.queue, (ev.get "service").truthy = false := by
  obtain ⟨seen, p, run, passed⟩ := System.exec_witness system System.unguarded (.start (.calm 0))
    [.request (.calm 1) (.ingestBatch [.obj []])]
    (fun (p, _) => p.engine.queue.any fun ev => !(ev.get "service").truthy) (by decide +kernel)
  simp only [List.any_eq_true, Bool.not_eq_true'] at passed
  obtain ⟨ev, queued, missing⟩ := passed
  refine ⟨seen, p, run, fun valid => ?_, ev, queued, missing⟩
  have served := (valid.queue ev queued).served.1
  rw [missing] at served
  contradiction

end IngestionEngine.Server
