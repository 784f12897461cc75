import IngestionEngine.Server.Serving
import IngestionEngine.Systems.Service

/-!
# From acceptance to storage

An observer writes down when each event was accepted and how many were before it, when a tick of the
workers moved it, and when it was flushed. With timers on time and a worker free the queue is served
at a pace, and the ticker empties the buffer, so the observer can tell when an event is flushed at
the latest.
-/

namespace IngestionEngine.Server

open Systems Program

/-- An event that has left the queue. -/
structure Passage where
  /-- Its ticket. -/
  ticket : Ticket TelemetryEvent
  /-- When it left. -/
  moved : Int

/-- An event that has been flushed. -/
structure Delivery where
  /-- Its passage. -/
  passage : Passage
  /-- When it was flushed. -/
  flushed : Int

/-- How long it had been in the buffer. -/
def Delivery.dwell (d : Delivery) : Int := d.flushed - d.passage.moved

/-- What the observer has written down. -/
structure Journal where
  /-- The events of the queue. -/
  queued : List (Ticket TelemetryEvent)
  /-- The events of the buffer. -/
  buffered : List Passage
  /-- The events that have been flushed. -/
  delivered : List Delivery

namespace Journal

/-- An observation. -/
def enter (j : Journal) : Obs → Journal
  | .pushed clock event => { j with queued := j.queued ++ [⟨event, clock, j.queued.length⟩] }
  | .moved clock events | .drained clock events =>
    { j with
      queued := j.queued.drop events.length
      buffered := j.buffered ++ (j.queued.take events.length).map (⟨·, clock⟩) }
  | .flushed clock _ _ _ _ =>
    { j with buffered := [], delivered := j.delivered ++ j.buffered.map (⟨·, clock⟩) }
  | _ => j

/-- The observations of a step. -/
def watch (j : Journal) (_ : Process) (_ : Act) (out : List Obs) : Journal := out.foldl enter j

/-- The observer starts, and what is there counts from now on. -/
def begin (q : Process) : Journal where
  queued := Ticket.all q.loop.time q.engine.queue
  buffered := q.engine.batchBuffer.map fun event => ⟨⟨event, q.loop.time, 0⟩, q.loop.time⟩
  delivered := []

/-- The process with the times at which the events of the buffer came into it. -/
def dwelling (j : Journal) (p : Process) : Dwelling := ⟨p, j.buffered.map Passage.moved⟩

/-- The journal is of the events that the process holds and that it has flushed. -/
structure Tells (j : Journal) (flushed : List TelemetryEvent) (c : Core) : Prop where
  /-- The queue. -/
  queue : j.queued.map Ticket.item = c.queue
  /-- The buffer. -/
  buffer : j.buffered.map (·.ticket.item) = c.batchBuffer
  /-- The batches. -/
  delivered : j.delivered.map (·.passage.ticket.item) = flushed

end Journal

/-- An action on schedule while the window is the given one and no shutdown is in progress, which
does not restart the ticker late. -/
def Delivers (window : ℚ) (state : Process × Journal) (action : Act) : Prop :=
  Scheduled state.1 action ∧ state.1.engine.isShuttingDown = false ∧
    RestartsEarly window (state.2.dwelling state.1) action

instance (window : ℚ) (state : Process × Journal) (action : Act) :
    Decidable (Delivers window state action) :=
  inferInstanceAs (Decidable (Scheduled state.1 action ∧ _ = _ ∧
    RestartsEarly window (state.2.dwelling state.1) action))

/-! ### What the journal says -/

section Tells

variable {arrivals : List Int} {j : Journal} {flushed : List TelemetryEvent} {out : List Obs}

/-- How long the events had been in the buffer, in two parts of a run. -/
theorem dwells_append (first second : List Obs) :
    dwells arrivals (first ++ second) =
      dwells arrivals first ++ dwells (first.foldl Obs.entered arrivals) second := by
  induction first generalizing arrivals with
  | nil => rfl
  | cons obs rest ih =>
    rw [List.cons_append, dwells, ih, dwells, List.append_assoc, List.foldl_cons]

/-- The log and the latencies say nothing about the buffer. -/
theorem dwells_core (seen : List Obs) :
    dwells arrivals (seen.flatMap Obs.core) = dwells arrivals seen := by
  induction seen generalizing arrivals with
  | nil => rfl
  | cons first rest ih =>
    rw [List.flatMap_cons, dwells_append, ih]
    cases first with
    | flushed =>
      show (_ ++ []) ++ _ = _ ++ _
      rw [List.append_nil]
      rfl
    | limited | pushed | moved | drained | logged | latency | single | batch | metrics | shutdown
    | threw | crashed => rfl

/-- They are not entered. -/
theorem enter_core (seen : List Obs) :
    (seen.flatMap Obs.core).foldl Journal.enter j = seen.foldl Journal.enter j := by
  induction seen generalizing j with
  | nil => rfl
  | cons first rest ih =>
    rw [List.flatMap_cons, List.foldl_append, ih, List.foldl_cons]
    cases first <;> rfl

/-- What has been entered since a journal agrees with the times of the buffer. -/
structure Journal.Agrees (j after : Journal) (out : List Obs) : Prop where
  /-- The buffer. -/
  buffer : after.buffered.map Passage.moved =
    out.foldl Obs.entered (j.buffered.map Passage.moved)
  /-- The batches. -/
  batches : after.delivered.map Delivery.dwell =
    j.delivered.map Delivery.dwell ++ dwells (j.buffered.map Passage.moved) out

/-- Events that leave the front of the queue are those whose tickets leave it. -/
theorem tickets_split {queued : List (Ticket TelemetryEvent)} {events rest : List TelemetryEvent}
    (queue : queued.map Ticket.item = events ++ rest) :
    (queued.drop events.length).map Ticket.item = rest ∧
      (queued.take events.length).map Ticket.item = events := by
  rw [List.map_drop, List.map_take, queue]
  exact ⟨List.drop_left, List.take_left⟩

/-- Events that go into the buffer are entered with their tickets. -/
theorem moved_tells {c : Core} {clock : Int} {events rest : List TelemetryEvent}
    (tells : j.Tells flushed c) (split : c.queue = events ++ rest) :
    (j.queued.drop events.length).map Ticket.item = rest ∧
      (j.buffered ++ (j.queued.take events.length).map (Passage.mk · clock)).map (·.ticket.item) =
        c.batchBuffer ++ events ∧
      (j.buffered ++ (j.queued.take events.length).map (Passage.mk · clock)).map Passage.moved =
        j.buffered.map Passage.moved ++ events.map fun _ => clock := by
  obtain ⟨left, taken⟩ := tickets_split (tells.queue.trans split)
  refine ⟨left, ?_, ?_⟩
  · rw [List.map_append, List.map_map, tells.buffer]
    exact congrArg _ taken
  · have count := congrArg List.length taken
    rw [List.length_map] at count
    rw [List.map_append, List.map_map]
    show _ ++ (j.queued.take events.length).map (fun _ => clock) = _
    rw [List.map_const', List.map_const', count]

/-- A change of the core is entered as it is. -/
theorem change_tells {c next : Core} {change : Change}
    (stepped : c.step change = some (next, out)) (tells : j.Tells flushed c) :
    (out.foldl Journal.enter j).Tells (flushed ++ out.flatMap Obs.flushedEvents) next ∧
      j.Agrees (out.foldl Journal.enter j) out := by
  obtain ⟨queue, buffer, delivered⟩ := tells
  have still : j.delivered.map (·.passage.ticket.item) = flushed ++ [] :=
    delivered.trans (List.append_nil _).symm
  have none : j.delivered.map Delivery.dwell = j.delivered.map Delivery.dwell ++ [] :=
    (List.append_nil _).symm
  cases core_cases stepped with
  | touch | refill | spend | refuse | refuseBatch | drop | setRps | setBurst | capTokens =>
    exact ⟨⟨queue, buffer, still⟩, rfl, none⟩
  | push =>
    refine ⟨⟨?_, buffer, still⟩, rfl, none⟩
    rw [← queue]
    exact List.map_append
  | @move clock count =>
    obtain ⟨left, items, times⟩ := moved_tells ⟨queue, buffer, delivered⟩
      (List.take_append_drop count c.queue).symm
    exact ⟨⟨left, items, still⟩, times, none⟩
  | @drain clock =>
    obtain ⟨left, items, times⟩ := moved_tells ⟨queue, buffer, delivered⟩
      (List.append_nil c.queue).symm
    exact ⟨⟨left, items, still⟩, times, none⟩
  | @flush env =>
    refine ⟨⟨queue, rfl, ?_⟩, rfl, ?_⟩
    · show (j.delivered ++ j.buffered.map (Delivery.mk · env.clock)).map (·.passage.ticket.item) =
        flushed ++ (c.batchBuffer ++ [])
      rw [List.map_append, List.map_map, delivered, List.append_nil, ← buffer]
      rfl
    · show (j.delivered ++ j.buffered.map (Delivery.mk · env.clock)).map Delivery.dwell =
        _ ++ ((j.buffered.map Passage.moved).map (env.clock - ·) ++ [])
      rw [List.map_append, List.map_map, List.map_map, List.append_nil]
      rfl
  | @finish shown ends =>
    cases shown with
    | pushed | moved | drained | flushed => contradiction
    | limited | logged | latency | single | batch | metrics | shutdown | threw
    | crashed => exact ⟨⟨queue, buffer, still⟩, rfl, none⟩

/-- So is a step of the process. -/
theorem step_tells {p after : Process} {action : Act} (tells : j.Tells flushed p.core)
    (stepped : step p action = some (after, out)) :
    (j.watch p action out).Tells (flushed ++ out.flatMap Obs.flushedEvents) after.core ∧
      j.Agrees (j.watch p action out) out := by
  obtain ⟨changes, executed, _⟩ := step_makes stepped
  let holds (seen : List Obs) (c : Core) : Prop :=
    (seen.foldl Journal.enter j).Tells (flushed ++ seen.flatMap Obs.flushedEvents) c ∧
      j.Agrees (seen.foldl Journal.enter j) seen
  have initially : holds [] p.core := by
    refine ⟨?_, rfl, (List.append_nil _).symm⟩
    rw [List.flatMap_nil, List.append_nil]
    exact tells
  obtain ⟨left, buffer, batches⟩ : holds (out.flatMap Obs.core) after.core := by
    refine (System.exec_run executed).invariant holds initially ?_
    rintro seen c change next shown ⟨told, buffer, batches⟩ _ moved
    obtain ⟨after, times, dwelt⟩ := change_tells moved told
    refine ⟨?_, ?_, ?_⟩
    · rw [List.foldl_append, List.flatMap_append, ← List.append_assoc]
      exact after
    · rw [List.foldl_append, List.foldl_append, times, buffer]
    · rw [List.foldl_append, dwelt, batches, buffer, dwells_append, List.append_assoc]
  rw [enter_core] at left buffer batches
  rw [flatMap_core _ (fun _ => rfl) fun _ => rfl] at left
  rw [arrivals_core] at buffer
  rw [dwells_core] at batches
  exact ⟨left, buffer, batches⟩

end Tells

/-! ### Deadlines -/

/-- The observation is of the given time, if it is of the queue or the buffer. -/
def Obs.Dated (time : Int) : Obs → Prop
  | .pushed clock _ => clock = time
  | obs => obs.At time

/-- The change is of the given time, if it is of the queue. -/
def Change.Dated (time : Int) : Change → Prop
  | .push clock _ => clock = time
  | _ => True

/-- The observations of a step are of its time. -/
theorem step_dated {p after : Process} {action : Act} {out : List Obs}
    (stepped : step p action = some (after, out)) : ∀ obs ∈ out, obs.Dated action.clock := by
  intro obs member
  cases obs with
  | pushed clock event =>
    have inside : .pushed clock event ∈ out.flatMap Obs.core :=
      List.mem_flatMap.mpr ⟨_, member, List.mem_singleton_self _⟩
    obtain ⟨change, made, shows⟩ := step_made stepped inside
    have own : change.Dated action.clock := by
      cases made with
      | still quiet => cases change <;> first | contradiction | trivial
      | batch _ member | loadTest _ _ _ _ member =>
        exact batchChanges_each (Change.Dated _) trivial (fun _ => rfl) _ _ _ _ _ member
      | single => rfl
      | move | threshold | window | drain | last | returned => trivial
    cases change with
    | push time pushed =>
      obtain ⟨rfl, _⟩ := Obs.pushed.inj shows
      exact own
    | touch | refill | refuseBatch | drop | setRps | setBurst | capTokens => exact shows.elim
    | spend | refuse => contradiction
    | move | drain => obtain ⟨_, same⟩ := shows; contradiction
    | flush => obtain ⟨_, _, _, same⟩ := shows; contradiction
    | finish shown => obtain ⟨rfl, ends⟩ := shows; contradiction
  | moved | drained | flushed | limited | logged | latency | single | batch | metrics | shutdown
  | threw | crashed => exact step_at stepped _ member

/-- The event has left the queue by its deadline. -/
def Passage.Prompt (passage : Passage) : Prop := passage.moved ≤ passage.ticket.deadline 10 25

/-- With the next tick at the given time, every event leaves the queue by its deadline. -/
structure Journal.Prompt (next : Int) (j : Journal) : Prop where
  /-- The events of the queue. -/
  queue : OnTime 10 25 next j.queued
  /-- The events of the buffer. -/
  buffer : ∀ passage ∈ j.buffered, passage.Prompt
  /-- The events that have been flushed. -/
  delivered : ∀ delivery ∈ j.delivered, delivery.passage.Prompt

section Deadlines

variable {next time : Int} {j : Journal}

/-- An observation before the next tick puts nothing off. -/
theorem enter_prompt (prompt : j.Prompt next) {obs : Obs} (dated : obs.Dated time)
    (waits : time ≤ next) (soon : next ≤ time + 10) : (j.enter obs).Prompt next := by
  obtain ⟨queue, buffer, delivered⟩ := prompt
  have moves {clock : Int} (same : clock = time) (count : Nat) :
      ∀ passage ∈ j.buffered ++ (j.queued.take count).map (Passage.mk · clock),
        passage.Prompt := by
    refine List.forall_mem_append.mpr ⟨buffer, fun passage member => ?_⟩
    obtain ⟨ticket, inside, rfl⟩ := List.mem_map.mp member
    have served := queue.next_le (by norm_num) (List.mem_of_mem_take inside)
    rw [same]
    exact waits.trans served
  cases obs with
  | pushed clock event =>
    have own : clock = time := dated
    subst own
    exact ⟨queue.push soon event, buffer, delivered⟩
  | moved clock events | drained clock events =>
    exact ⟨queue.drop (by norm_num) _, moves dated _, delivered⟩
  | flushed clock =>
    refine ⟨queue, List.forall_mem_nil _, List.forall_mem_append.mpr ⟨delivered, ?_⟩⟩
    intro delivery member
    obtain ⟨passage, inside, rfl⟩ := List.mem_map.mp member
    exact buffer passage inside
  | limited | logged | latency | single | batch | metrics | shutdown | threw | crashed =>
    exact ⟨queue, buffer, delivered⟩

/-- Neither do several of them. -/
theorem enters_prompt {out : List Obs} (prompt : j.Prompt next)
    (dated : ∀ obs ∈ out, obs.Dated time) (waits : time ≤ next) (soon : next ≤ time + 10) :
    (out.foldl Journal.enter j).Prompt next := by
  induction out generalizing j with
  | nil => exact prompt
  | cons obs rest ih =>
    obtain ⟨own, others⟩ := List.forall_mem_cons.mp dated
    exact ih (enter_prompt prompt own waits soon) others

/-- A step on schedule, in which the workers take their chunk if they tick. -/
theorem step_prompt {p after : Process} {action : Act} {out : List Obs} (serving : Serving next p)
    (scheduled : Scheduled p action) (running : p.engine.isShuttingDown = false)
    {flushed : List TelemetryEvent} (tells : j.Tells flushed p.core) (prompt : j.Prompt next)
    (stepped : step p action = some (after, out)) :
    (j.watch p action out).Prompt (action.nextTick next) := by
  have later := step_serving serving scheduled stepped
  have now := step_time stepped
  have dated := step_dated stepped
  have waits := later.waits
  have soon := later.soon
  rw [now] at waits soon
  rw [Act.nextTick] at waits soon ⊢
  cases fires : action.fires 0 with
  | false =>
    rw [fires, if_neg Bool.false_ne_true] at waits soon
    exact enters_prompt prompt dated waits soon
  | true =>
    rw [fires, if_pos rfl] at waits soon
    rw [if_pos rfl]
    have due : action.clock = next := punctual_due scheduled.1.1 serving.live rfl fires
    have free := tick_free serving scheduled.1.2 due
    cases action with
    | request env request => contradiction
    | fire env id =>
      obtain rfl : id = 0 := of_decide_eq_true fires
      rcases tick_moves serving.live rfl free running serving.awake stepped with
        empty | ⟨rest, rfl, taken⟩
      · -- there is nothing in the queue that the tick could put off
        have none : j.queued = [] := by
          have items := tells.queue
          rw [show p.core.queue = [] from empty, List.map_eq_nil_iff] at items
          exact items
        refine enters_prompt ⟨?_, prompt.buffer, prompt.delivered⟩ dated waits soon
        rw [none]
        exact OnTime.nil
      · obtain ⟨own, others⟩ := List.forall_mem_cons.mp dated
        have count : j.queued.length = p.engine.queue.length := by
          have lengths := congrArg List.length tells.queue
          rw [List.length_map] at lengths
          exact lengths
        rw [← count] at taken
        have moved := enter_prompt prompt own due.le (by omega)
        have served : (j.enter (.moved env.clock p.engine.items)).Prompt (next + 10) :=
          ⟨prompt.queue.serve (by norm_num) (by norm_num) taken, moved.buffer, moved.delivered⟩
        show (rest.foldl Journal.enter (j.enter _)).Prompt (next + 10)
        exact enters_prompt served others waits soon

end Deadlines

/-! ### Runs -/

/-- When an event has been flushed at the latest. -/
def Passage.latest (window : ℚ) (passage : Passage) : ℚ :=
  passage.ticket.deadline 10 25 + window + 50

/-- The journal is right, every event in it is on time, and the ticker will come. -/
structure Timetable (window : ℚ) (next : Int) (flushed : List TelemetryEvent) (p : Process)
    (j : Journal) : Prop where
  /-- The workers. -/
  serving : Serving next p
  /-- The ticker. -/
  sound : (j.dwelling p).Sound window
  /-- The journal. -/
  tells : j.Tells flushed p.core
  /-- What waits for the workers. -/
  prompt : j.Prompt next
  /-- What is in the buffer. -/
  buffer : ∀ passage ∈ j.buffered, ((p.loop.time - passage.moved : Int) : ℚ) ≤ window + 50
  /-- What has been flushed. -/
  delivered : ∀ delivery ∈ j.delivered, (delivery.dwell : ℚ) ≤ window + 50

section Runs

variable {window : ℚ} {next : Int} {flushed : List TelemetryEvent} {p after : Process}
  {j : Journal} {action : Act} {out : List Obs}

/-- A step on schedule keeps the timetable. -/
theorem step_timetable (nonneg : 0 ≤ window) (table : Timetable window next flushed p j)
    (delivers : Delivers window (p, j) action) (stepped : step p action = some (after, out)) :
    Timetable window (action.nextTick next) (flushed ++ out.flatMap Obs.flushedEvents) after
      (j.watch p action out) := by
  obtain ⟨serving, sound, tells, prompt, _, delivered⟩ := table
  obtain ⟨scheduled, running, early⟩ := delivers
  obtain ⟨told, agrees⟩ := step_tells tells stepped
  have dwelt : dwellSystem.step (j.dwelling p) action =
      some ((j.watch p action out).dwelling after,
        dwells (j.buffered.map Passage.moved) out) := by
    have left : (j.watch p action out).dwelling after =
        ⟨after, out.foldl Obs.entered (j.buffered.map Passage.moved)⟩ :=
      congrArg (Dwelling.mk after) agrees.buffer
    rw [left]
    exact congrArg (Option.map _) stepped
  obtain ⟨later, times⟩ := step_dwells nonneg sound early dwelt
  refine ⟨step_serving serving scheduled stepped, later, told,
    step_prompt serving scheduled running tells prompt stepped, ?_, ?_⟩
  · exact fun passage member => times.buffered _ (List.mem_map_of_mem member)
  · intro delivery member
    have inside := List.mem_map_of_mem (f := Delivery.dwell) member
    rw [agrees.batches] at inside
    rcases List.mem_append.mp inside with old | new
    · obtain ⟨before, known, same⟩ := List.mem_map.mp old
      rw [← same]
      exact delivered before known
    · exact times.flushed _ new

/-- The observer that starts has a timetable. -/
theorem begin_timetable (nonneg : 0 ≤ window) (serving : Serving next p) (paced : p.Paced) :
    Timetable window next [] p (.begin p) := by
  have times : (Journal.begin p).buffered.map Passage.moved =
      p.engine.batchBuffer.map fun _ => p.loop.time := List.map_map
  have same : (Journal.begin p).dwelling p = .begin p := congrArg (Dwelling.mk p) times
  refine ⟨serving, ?_, ⟨Ticket.all_items _ _, ?_, rfl⟩, ⟨OnTime.all serving.soon _, ?_, ?_⟩, ?_, ?_⟩
  · rw [same]
    exact begin_sound nonneg paced
  · exact List.map_map.trans (List.map_id _)
  · intro passage member
    obtain ⟨event, _, rfl⟩ := List.mem_map.mp member
    show p.loop.time ≤ p.loop.time + 10 * ((0 / 25 : Nat) + 1)
    omega
  · exact List.forall_mem_nil _
  · intro passage member
    obtain ⟨event, _, rfl⟩ := List.mem_map.mp member
    show ((p.loop.time - p.loop.time : Int) : ℚ) ≤ window + 50
    rw [sub_self, Int.cast_zero]
    linarith only [nonneg]
  · exact List.forall_mem_nil _

end Runs

/-- While timers fire on time, every release and every configuration leaves a whole worker free, and
no shutdown is in progress, an event leaves the queue within 10 ms for every 25 events before it and
10 ms more. If the window stays the same and the ticker is not restarted late, it is flushed within
the window and 50 ms after that. -/
theorem delivered_on_time {start : Env} {before seen : List Obs} {q p : Process} {j : Journal}
    {window : ℚ} (run : system.Run Scheduled (.start start) before q)
    (set : q.engine.batchFlushWindowMs = .fin window)
    (observed : (system.watched Journal.watch).Run (Delivers window) (q, .begin q) seen (p, j)) :
    j.Tells (seen.flatMap Obs.flushedEvents) p.core ∧
      (∀ delivery ∈ j.delivered,
        delivery.passage.moved ≤ delivery.passage.ticket.deadline 10 25 ∧
          (delivery.flushed : ℚ) ≤ delivery.passage.latest window) ∧
      (∀ passage ∈ j.buffered, passage.moved ≤ passage.ticket.deadline 10 25 ∧
        (p.loop.time : ℚ) ≤ passage.latest window) ∧
      ∀ ticket ∈ j.queued, p.loop.time ≤ ticket.deadline 10 25 := by
  have least : Field.batchFlushWindowMs.low ≤ window := run_above run .batchFlushWindowMs window set
  have nonneg : 0 ≤ window := le_trans (by norm_num [Field.low]) least
  have paced : q.Paced := run_paced (run.weaken fun _ _ scheduled => scheduled.1.1.1)
  obtain ⟨next, serving⟩ : ∃ next, Serving next q := by
    refine run.state_invariant (fun q => ∃ next, Serving next q) ⟨_, start_serving start⟩ ?_
    rintro p action after out ⟨next, serving⟩ scheduled stepped
    exact ⟨_, step_serving serving scheduled stepped⟩
  obtain ⟨last, table⟩ : ∃ last, Timetable window last (seen.flatMap Obs.flushedEvents) p j := by
    let holds (seen : List Obs) (state : Process × Journal) : Prop :=
      ∃ last, Timetable window last (seen.flatMap Obs.flushedEvents) state.1 state.2
    have begun : holds [] (q, .begin q) := ⟨next, begin_timetable nonneg serving paced⟩
    refine observed.invariant holds begun ?_
    rintro seen state action after out ⟨last, table⟩ delivers stepped
    obtain ⟨moved, watched⟩ := System.watched_step stepped
    have kept := step_timetable nonneg table delivers moved
    rw [← watched, ← List.flatMap_append] at kept
    exact ⟨_, kept⟩
  refine ⟨table.tells, fun delivery member => ?_, fun passage member => ?_, fun ticket member => ?_⟩
  · have prompt := table.prompt.delivered delivery member
    have left : (delivery.passage.moved : ℚ) ≤ delivery.passage.ticket.deadline 10 25 := by
      exact_mod_cast prompt
    refine ⟨prompt, ?_⟩
    have dwelt := table.delivered delivery member
    rw [Delivery.dwell, Int.cast_sub] at dwelt
    rw [Passage.latest]
    linarith only [left, dwelt]
  · have prompt := table.prompt.buffer passage member
    have left : (passage.moved : ℚ) ≤ passage.ticket.deadline 10 25 := by
      exact_mod_cast prompt
    refine ⟨prompt, ?_⟩
    have dwelt := table.buffer passage member
    rw [Int.cast_sub] at dwelt
    rw [Passage.latest]
    linarith only [left, dwelt]
  · exact table.serving.waits.trans (table.prompt.queue.next_le (by norm_num) member)

/-- A request for two workers and a window of 20 ms. -/
def twoWorkers : Request :=
  .updateConfig (.obj [("workerCount", .num 2), ("batchFlushWindowMs", .num 20)])

/-- Two workers take 60 events in two ticks, and the ticker flushes them after 50 ms. -/
theorem delivered_on_time_sixty : ∃ before q seen p j,
    system.Run Scheduled (.start (.calm 0)) before q ∧
      (system.watched Journal.watch).Run (Delivers 20) (q, .begin q) seen (p, j) ∧
      j.delivered.length = 60 ∧
      ∀ delivery ∈ j.delivered,
        delivery.passage.moved ≤ delivery.passage.ticket.deadline 10 25 ∧
          (delivery.flushed : ℚ) ≤ delivery.passage.latest 20 := by
  have ran : (system.exec Scheduled (.start (.calm 0)) [.request (.calm 0) twoWorkers]).any
      (fun first => first.1.engine.batchFlushWindowMs = .fin 20 &&
        ((system.watched Journal.watch).exec (Delivers 20) (first.1, .begin first.1)
          [.request (.calm 1) (.ingestBatch (List.replicate 60 plainEvent)), .fire (.calm 10) 0,
            .fire (.calm 18) 4, .fire (.calm 20) 0, .fire (.calm 28) 5, .fire (.calm 30) 0,
            .fire (.calm 40) 0, .fire (.calm 50) 0, .fire (.calm 50) 3]).any
          fun last => last.1.2.delivered.length = 60) = true := by
    decide +kernel
  obtain ⟨⟨q, before⟩, configured, passed⟩ := (Option.any_eq_true _ _).mp ran
  obtain ⟨set, passed⟩ := Bool.and_eq_true_iff.mp passed
  obtain ⟨⟨⟨p, j⟩, seen⟩, executed, count⟩ := (Option.any_eq_true _ _).mp passed
  have run := System.exec_run configured
  have observed := System.exec_run executed
  exact ⟨before, q, seen, p, j, run, observed, of_decide_eq_true count,
    (delivered_on_time run (of_decide_eq_true set) observed).2.1⟩

end IngestionEngine.Server
