import IngestionEngine.Server.Ingest

/-!
# One batch, or one event after the other

`ingestBatch` compares the length of the queue with the capacity one way round, `ingestSingle` the
other way round. Both offer a complete event to the queue as it is, so what becomes of a list of
events does not depend on how they are sent, also when the queue is longer than a lowered capacity.
-/

namespace IngestionEngine.Server

open Systems Program

/-- The event as the body of a request. -/
def JsObject.value (ev : JsObject) : JsValue := .obj ev.members

/-- `ingestSingle` on one event after the other. -/
def ingestEach : List (Env × TelemetryEvent) → Js (List SingleResult)
  | [] => return []
  | call :: rest => do
    let result ← ingestSingle call.1 call.2.value
    let results ← ingestEach rest
    return result :: results

/-- The limiter admits each of the calls when it is made. -/
def AdmitsEach (p : Process) : List (Env × TelemetryEvent) → Prop
  | [] => True
  | call :: rest => p.core.affords call.1.clock 1 = true ∧
      AdmitsEach ((ingestSingle call.1 call.2.value).run p).state rest

/-! ### Offers to a queue of bounded length -/

section Offers

variable (capacity : ℤ)

/-- How many events the queue has room for. -/
def room (length : Nat) : Nat := (max 0 (capacity - length)).toNat

/-- The queue and the counters when the events have been offered in order. -/
def offered (tally : List TelemetryEvent × Nat × Nat) (events : List TelemetryEvent) :
    List TelemetryEvent × Nat × Nat :=
  (tally.1 ++ events.take (room capacity tally.1.length),
    tally.2.1 + min events.length (room capacity tally.1.length),
    tally.2.2 + (events.length - room capacity tally.1.length))

/-- What `ingestSingle` answers for the events offered in order. -/
def answers (length count : Nat) : List IngestStatus :=
  List.replicate (min count (room capacity length)) .accepted ++
    List.replicate (count - room capacity length) .queueSaturated

variable {capacity} {queue : List TelemetryEvent} {accepted dropped : Nat}

/-- Nothing is offered. -/
theorem offered_nil (tally : List TelemetryEvent × Nat × Nat) :
    offered capacity tally [] = tally := by
  unfold offered
  simp

/-- A queue below its capacity has room for one event more than it has with one event more. -/
theorem room_succ {length : Nat} (below : (length : ℤ) < capacity) :
    room capacity length = room capacity (length + 1) + 1 := by
  unfold room
  have left : 0 ≤ capacity - (length + 1 : Nat) := by omega
  rw [max_eq_right left, max_eq_right (by omega)]
  omega

/-- A queue that has reached its capacity has none. -/
theorem room_zero {length : Nat} (full : capacity ≤ (length : ℤ)) : room capacity length = 0 := by
  unfold room
  rw [max_eq_left (by omega)]
  rfl

/-- The first event is accepted if there is room for it. -/
theorem offered_fits (below : (queue.length : ℤ) < capacity) (ev : TelemetryEvent)
    (rest : List TelemetryEvent) :
    offered capacity (queue, accepted, dropped) (ev :: rest) =
      offered capacity (queue ++ [ev], accepted + 1, dropped) rest := by
  have more := room_succ below
  have longer : (queue ++ [ev]).length = queue.length + 1 := List.length_append
  unfold offered
  simp only [longer, more, List.take_succ_cons, List.length_cons, List.append_assoc,
    List.singleton_append, Prod.mk.injEq, true_and]
  omega

/-- It is dropped otherwise. -/
theorem offered_full (full : capacity ≤ (queue.length : ℤ)) (ev : TelemetryEvent)
    (rest : List TelemetryEvent) :
    offered capacity (queue, accepted, dropped) (ev :: rest) =
      offered capacity (queue, accepted, dropped + 1) rest := by
  have none := room_zero full
  unfold offered
  simp only [none, List.take_zero, List.length_cons, Nat.min_zero, Nat.sub_zero, Prod.mk.injEq,
    true_and]
  omega

/-- Nothing is answered. -/
theorem answers_none (length : Nat) : answers capacity length 0 = [] := by simp [answers]

/-- The first answer is that the event was accepted if there is room for it. -/
theorem answers_fits {length : Nat} (below : (length : ℤ) < capacity) (count : Nat) :
    answers capacity length (count + 1) = .accepted :: answers capacity (length + 1) count := by
  have more := room_succ below
  unfold answers
  rw [more, Nat.add_min_add_right, List.replicate_succ, Nat.add_sub_add_right, List.cons_append]

/-- It is that the queue was full otherwise. -/
theorem answers_full {length : Nat} (full : capacity ≤ (length : ℤ)) (count : Nat) :
    answers capacity length (count + 1) = .queueSaturated :: answers capacity length count := by
  have none := room_zero full
  unfold answers
  rw [none, Nat.min_zero, Nat.min_zero, Nat.sub_zero, Nat.sub_zero, List.replicate_succ]
  rfl

/-- Offering one event and then the others is offering all of them. -/
theorem offered_cons (tally : List TelemetryEvent × Nat × Nat) (ev : TelemetryEvent)
    (rest : List TelemetryEvent) :
    offered capacity tally (ev :: rest) = offered capacity (offered capacity tally [ev]) rest := by
  obtain ⟨queue, accepted, dropped⟩ := tally
  by_cases below : (queue.length : ℤ) < capacity
  · rw [offered_fits below, offered_fits below, offered_nil]
  · rw [offered_full (not_lt.mp below), offered_full (not_lt.mp below), offered_nil]

/-- Their answers come one after the other. -/
theorem answers_cons (tally : List TelemetryEvent × Nat × Nat) (ev : TelemetryEvent)
    (count : Nat) : answers capacity tally.1.length (count + 1) =
      answers capacity tally.1.length 1 ++
        answers capacity (offered capacity tally [ev]).1.length count := by
  obtain ⟨queue, accepted, dropped⟩ := tally
  by_cases below : (queue.length : ℤ) < capacity
  · have longer : (queue ++ [ev]).length = queue.length + 1 := List.length_append
    rw [offered_fits below, offered_nil, answers_fits below, answers_fits below, answers_none,
      longer]
    rfl
  · have full := not_lt.mp below
    rw [offered_full full, offered_nil, answers_full full, answers_full full, answers_none]
    rfl

/-- The answers count the events that there is room for, and the others. -/
theorem answers_count {results : List SingleResult} {length count : Nat}
    (statuses : results.map (·.status) = answers capacity length count) :
    results.countP (·.status = .accepted) = min count (room capacity length) ∧
      results.countP (·.status = .queueSaturated) = count - room capacity length := by
  have counted (status : IngestStatus) : results.countP (·.status = status) =
      (results.map (·.status)).countP (· = status) := by
    rw [List.countP_map]
    rfl
  rw [counted, counted, statuses]
  constructor <;> simp [answers, List.countP_replicate]

end Offers

/-! ### Both loops offer their events -/

section Loops

variable {capacity : ℤ} {ev : TelemetryEvent}

/-- A property that is there is not assigned. -/
theorem orElse_there {name : String} (there : (ev.get name).truthy = true) (value : String) :
    orElse ev name value = ev := if_pos there

/-- Nothing is filled in for a complete event, by either way of ingestion. -/
theorem complete_same (complete : ev.Complete) (env : Env) (index : Nat) :
    singleEvent env ev = ev ∧ batchEvent env index ev = ev := by
  obtain ⟨_, level, timestamp, trace⟩ := complete
  constructor
  · rw [singleEvent, orElse_there timestamp, orElse_there level, orElse_there trace]
  · rw [batchEvent, orElse_there timestamp, orElse_there trace, orElse_there level]

/-- `ingestSingle` finds nothing missing in a complete event. -/
theorem complete_valid (complete : ev.Complete) : invalid ev.value = .ok false := by
  obtain ⟨service, message⟩ := complete.served
  have first : ev.value.get "service" = .ok (ev.get "service") := rfl
  have second : ev.value.get "message" = .ok (ev.get "message") := rfl
  unfold invalid
  simp only [first, second, bind, Except.bind, service, message, if_true]
  rfl

/-- The loop of `ingestBatch` offers its events. -/
theorem ingestEvents_offers (env : Env) (events : List TelemetryEvent)
    (complete : ∀ ev ∈ events, ev.Complete) (index accepted dropped : Nat) (p : Process)
    (bounded : p.engine.channelCapacity = .fin capacity) :
    ((ingestEvents env (events.map JsObject.value) index accepted dropped).run
        p).state.engine.tally = offered capacity p.engine.tally events ∧
      ((ingestEvents env (events.map JsObject.value) index accepted dropped).run p).result =
        .ok (accepted + min events.length (room capacity p.engine.queue.length),
          dropped + (events.length - room capacity p.engine.queue.length)) := by
  induction events generalizing index accepted dropped p with
  | nil =>
    have ran : (ingestEvents env [] index accepted dropped).run p =
        ⟨p, [], .ok (accepted, dropped)⟩ := rfl
    rw [List.map_nil, ran, offered_nil]
    simp
  | cons ev rest ih =>
    have here := complete ev List.mem_cons_self
    have later : ∀ ev ∈ rest, ev.Complete := fun ev member =>
      complete ev (List.mem_cons_of_mem _ member)
    have same : orElse (orElse (orElse ev "timestamp" (toISOString env.clock))
        "trace_id" ("tr-" ++ env.suffix index)) "level" "INFO" = ev :=
      (complete_same here env index).2
    have read : ev.value.asObject = .ok ev := rfl
    rw [List.map_cons, ingestEvents]
    by_cases below : (p.engine.queue.length : ℤ) < capacity
    · have fits : (JsNum.ofNat p.engine.queue.length).lt p.engine.channelCapacity = true := by
        rw [bounded, JsNum.ofNat_fin, JsNum.lt_fin]
        exact_mod_cast below
      simp only [read, same, run_bind, run_lift, run_engine, andThen_ok, if_pos fits, run_update,
        run_emit, after_state, after_result]
      obtain ⟨tally, result⟩ := ih later (index + 1) (accepted + 1) dropped
        { p with engine :=
          { p.engine with
            queue := p.engine.queue ++ [ev]
            totalAccepted := p.engine.totalAccepted + 1 } } bounded
      have more := room_succ below
      have longer : (p.engine.queue ++ [ev]).length = p.engine.queue.length + 1 :=
        List.length_append
      refine ⟨tally.trans (offered_fits below ev rest).symm, result.trans ?_⟩
      simp only [longer, more, List.length_cons, Except.ok.injEq, Prod.mk.injEq]
      omega
    · have full : ¬ (JsNum.ofNat p.engine.queue.length).lt p.engine.channelCapacity = true := by
        rw [bounded, JsNum.ofNat_fin, JsNum.lt_fin]
        exact_mod_cast below
      simp only [read, same, run_bind, run_lift, run_engine, andThen_ok, if_neg full, run_update,
        after_state, after_result]
      obtain ⟨tally, result⟩ := ih later (index + 1) accepted (dropped + 1)
        { p with engine := { p.engine with totalDropped := p.engine.totalDropped + 1 } } bounded
      have none := room_zero (not_lt.mp below)
      refine ⟨tally.trans (offered_full (not_lt.mp below) ev rest).symm, result.trans ?_⟩
      simp only [none, List.length_cons, Except.ok.injEq, Prod.mk.injEq]
      omega

/-- An admitted `ingestSingle` offers its event, and answers what became of it. -/
theorem ingestSingle_offers (env : Env) (complete : ev.Complete) {p : Process}
    (bounded : p.engine.channelCapacity = .fin capacity)
    (affords : p.core.affords env.clock 1 = true) :
    ∃ q shown answer, (ingestSingle env ev.value).run p = ⟨q, shown, .ok answer⟩ ∧
      q.engine.channelCapacity = .fin capacity ∧
      q.engine.tally = offered capacity p.engine.tally [ev] ∧
      [answer.status] = answers capacity p.engine.queue.length 1 := by
  obtain ⟨r, same, capacities, state, result⟩ := single_admitted env p ev.value affords
  have kept : ((ingestSingle env ev.value).run p).state.engine.channelCapacity = .fin capacity :=
    (congrArg (fun q : Process => q.engine.channelCapacity)
      (view_kept (fun _ => keeps_ingestSingle env ev.value) p)).trans bounded
  have valid := complete_valid complete
  have read : ev.value.asObject = .ok ev := rfl
  have queued : r.engine.queue = p.engine.queue := congrArg Prod.fst same
  generalize (ingestSingle env ev.value).run p = outcome at kept state result
  obtain ⟨q, shown, value⟩ := outcome
  rw [← same, ← queued]
  by_cases below : (r.engine.queue.length : ℤ) < capacity
  · have fits : ¬ r.engine.channelCapacity.le (.ofNat r.engine.queue.length) = true := by
      rw [capacities, bounded, JsNum.ofNat_fin, JsNum.le_fin, not_le]
      exact_mod_cast below
    obtain ⟨tally, answered⟩ := decided_fits (p := r) valid read fits
    have offer : offered capacity r.engine.tally [ev] =
        (r.engine.queue ++ [ev], r.engine.totalAccepted + 1, r.engine.totalDropped) :=
      (offered_fits below ev []).trans (offered_nil _)
    rw [(complete_same complete env 0).1] at tally
    refine ⟨q, shown, _, congrArg _ (result.trans answered), kept, ?_, ?_⟩
    · rw [offer, ← tally]
      exact congrArg (fun q : Process => q.engine.tally) state
    · rw [answers_fits below, answers_none]
  · have full : r.engine.channelCapacity.le (.ofNat r.engine.queue.length) = true := by
      rw [capacities, bounded, JsNum.ofNat_fin, JsNum.le_fin]
      exact_mod_cast not_lt.mp below
    obtain ⟨tally, answered⟩ := decided_full (p := r) valid read full
    have offer : offered capacity r.engine.tally [ev] =
        (r.engine.queue, r.engine.totalAccepted, r.engine.totalDropped + 1) :=
      (offered_full (not_lt.mp below) ev []).trans (offered_nil _)
    refine ⟨q, shown, _, congrArg _ (result.trans answered), kept, ?_, ?_⟩
    · rw [offer, ← tally]
      exact congrArg (fun q : Process => q.engine.tally) state
    · rw [answers_full (not_lt.mp below), answers_none]

/-- `ingestSingle` on one event after the other offers them, and answers what became of each. -/
theorem ingestEach_offers (calls : List (Env × TelemetryEvent))
    (complete : ∀ call ∈ calls, call.2.Complete) (p : Process)
    (bounded : p.engine.channelCapacity = .fin capacity) (each : AdmitsEach p calls) :
    ((ingestEach calls).run p).state.engine.tally =
        offered capacity p.engine.tally (calls.map Prod.snd) ∧
      ∃ results, ((ingestEach calls).run p).result = .ok results ∧
        results.map (·.status) = answers capacity p.engine.queue.length calls.length := by
  induction calls generalizing p with
  | nil =>
    have ran : (ingestEach []).run p = ⟨p, [], .ok []⟩ := rfl
    rw [ran, List.map_nil, offered_nil, List.length_nil, answers_none]
    exact ⟨rfl, [], rfl, rfl⟩
  | cons call rest ih =>
    obtain ⟨env, ev⟩ := call
    obtain ⟨affords, later⟩ := each
    have here : ev.Complete := complete (env, ev) List.mem_cons_self
    obtain ⟨q, shown, answer, ran, kept, tally, answered⟩ :=
      ingestSingle_offers env here bounded affords
    have left : ((ingestSingle env ev.value).run p).state = q := congrArg (·.state) ran
    rw [left] at later
    obtain ⟨offers, results, returned, statuses⟩ :=
      ih (fun call member => complete call (List.mem_cons_of_mem _ member)) q kept later
    rw [ingestEach, run_bind, ran, andThen_ok, run_bind]
    generalize (ingestEach rest).run q = outcome at offers returned
    obtain ⟨r, more, value⟩ := outcome
    obtain rfl : value = .ok results := returned
    simp only [andThen_ok, run_pure, after_mk, List.map_cons, List.length_cons]
    have queued : q.engine.queue = (offered capacity p.engine.tally [ev]).1 :=
      congrArg Prod.fst tally
    refine ⟨?_, answer :: results, rfl, ?_⟩
    · rw [offered_cons, ← tally]
      exact offers
    · rw [List.map_cons, statuses, queued]
      exact (congrArg (· ++ _) answered).trans (answers_cons p.engine.tally ev rest.length).symm

end Loops

/-- A batch of complete events and its events one after the other leave the same queue and the same
counters, and the counts that the batch returns are those of the answers. The first events that
there is room for are accepted. -/
theorem batch_agrees {capacity : ℤ} {env : Env} {p : Process}
    {calls : List (Env × TelemetryEvent)} (bounded : p.engine.channelCapacity = .fin capacity)
    (complete : ∀ call ∈ calls, call.2.Complete)
    (batch : p.core.affords env.clock (batchCost calls.length) = true)
    (each : AdmitsEach p calls) :
    ∃ result results,
      ((ingestBatch env (calls.map (·.2.value))).run p).result = .ok result ∧
      ((ingestEach calls).run p).result = .ok results ∧
      ((ingestBatch env (calls.map (·.2.value))).run p).state.engine.tally =
        ((ingestEach calls).run p).state.engine.tally ∧
      result.rateLimited = false ∧
      result.accepted = results.countP (·.status = .accepted) ∧
      result.dropped = results.countP (·.status = .queueSaturated) ∧
      ((ingestBatch env (calls.map (·.2.value))).run p).state.engine.queue =
        p.engine.queue ++ (calls.map Prod.snd).take
          (min calls.length (max 0 (capacity - p.engine.queue.length)).toNat) := by
  have events : calls.map (·.2.value) = (calls.map Prod.snd).map JsObject.value := by
    rw [List.map_map]
    rfl
  have size : ((calls.map Prod.snd).map JsObject.value).length = calls.length := by
    rw [List.length_map, List.length_map]
  have whole : ∀ ev ∈ calls.map Prod.snd, ev.Complete := List.forall_mem_map.mpr complete
  obtain ⟨single, results, answered, statuses⟩ := ingestEach_offers calls complete p bounded each
  rw [← size] at batch
  rw [events]
  obtain ⟨q, same, capacities, tally, result⟩ := batch_admitted env p _ batch
  obtain ⟨offers, returned⟩ := ingestEvents_offers env (calls.map Prod.snd) whole 0 0 0 q
    (capacities.trans bounded)
  have queued : q.engine.queue = p.engine.queue := congrArg Prod.fst same
  have count : (calls.map Prod.snd).length = calls.length := List.length_map _
  rw [returned, queued, count, Nat.zero_add, Nat.zero_add] at result
  rw [same] at offers
  obtain ⟨accepted, dropped⟩ := answers_count statuses
  refine ⟨_, results, result, answered, ?_, rfl, accepted.symm, dropped.symm, ?_⟩
  · rw [tally, offers, single]
  · have queue := congrArg Prod.fst (tally.trans offers)
    have first : (calls.map Prod.snd).take (room capacity p.engine.queue.length) =
        (calls.map Prod.snd).take (min calls.length (room capacity p.engine.queue.length)) := by
      rw [List.take_eq_take_min, count, min_comm]
    exact queue.trans (congrArg _ first)

/-- A process whose queue has room for one event. -/
def Process.tight : Process :=
  { Process.start (.calm 0) with
    engine := { (Process.start (.calm 0)).engine with channelCapacity := .fin (1 : ℤ) } }

/-- An event that lacks nothing. -/
def wholeEvent : TelemetryEvent :=
  ⟨[("service", .str "auth-svc"), ("message", .str "login"), ("level", .str "INFO"),
    ("timestamp", .str "2024-01-01T00:00:00.000Z"), ("trace_id", .str "tr-1")]⟩

/-- Two calls with it. -/
def twoCalls : List (Env × TelemetryEvent) := [(.calm 5, wholeEvent), (.calm 6, wholeEvent)]

/-- Of two events the first is accepted, and the second finds the queue full. -/
theorem batch_agrees_full : ∃ result,
    ((ingestBatch (.calm 5) (twoCalls.map (·.2.value))).run .tight).result = .ok result ∧
      ((ingestBatch (.calm 5) (twoCalls.map (·.2.value))).run .tight).state.engine.tally =
        ((ingestEach twoCalls).run .tight).state.engine.tally ∧
      ((ingestEach twoCalls).run .tight).state.engine.queue.length = 1 := by
  have whole : wholeEvent.Complete := by
    refine ⟨⟨?_, ?_⟩, ?_, ?_, ?_⟩ <;> decide
  have complete : ∀ call ∈ twoCalls, call.2.Complete := by
    intro call member
    rcases List.mem_cons.mp member with rfl | later
    · exact whole
    · rw [List.mem_singleton.mp later]
      exact whole
  have each : AdmitsEach .tight twoCalls := ⟨by decide +kernel, by decide +kernel, trivial⟩
  have bounded : Process.tight.engine.channelCapacity = .fin (1 : ℤ) := rfl
  have batch :
      Process.tight.core.affords (Env.calm 5).clock (batchCost twoCalls.length) = true := by
    decide +kernel
  obtain ⟨result, _, returned, _, same, _⟩ := batch_agrees bounded complete batch each
  exact ⟨result, returned, same, by decide +kernel⟩

end IngestionEngine.Server
