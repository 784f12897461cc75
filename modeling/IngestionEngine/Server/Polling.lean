import IngestionEngine.Server.Ingest
import IngestionEngine.Server.Meter

/-!
# Polling the metrics

`getMetrics` refills the bucket, so a run with polls leaves other tokens and other times than the
same run without. A later refill makes up for it: the levels of both buckets agree from the time of
the poll on, and with them every decision of the limiter and every event in the queue.
-/

namespace IngestionEngine.Server

open Systems Program Bucket

/-- The request ingests events. -/
def Request.ingests : Request → Bool
  | .ingestSingle _ | .ingestBatch _ => true
  | .getMetrics | .startLoadTest _ _ | .stopLoadTest | .updateConfig _
  | .simulateGracefulShutdown => false

/-- The second schedule is the first, with polls of the metrics in between. What is drawn for a call
may differ, but not its time. -/
inductive Polled : List Act → List Act → Prop where
  /-- Nothing is called. -/
  | nil : Polled [] []
  /-- The same events are ingested at the same time. -/
  | call {env other : Env} {request : Request} {plain polled : List Act}
      (ingests : request.ingests = true) (time : other.clock = env.clock)
      (rest : Polled plain polled) :
      Polled (.request env request :: plain) (.request other request :: polled)
  /-- The metrics are polled. -/
  | poll {env : Env} {plain polled : List Act} (rest : Polled plain polled) :
      Polled plain (.request env .getMetrics :: polled)

/-- The clock does not go back from the given time on. -/
def Ordered (time : Int) : List Act → Prop
  | [] => True
  | action :: rest => time ≤ action.clock ∧ Ordered action.clock rest

/-- Two events are one submission that was completed at one time: only the traces that were drawn
for them can differ. -/
inductive Alike : TelemetryEvent → TelemetryEvent → Prop where
  /-- They are the same. -/
  | same (ev : TelemetryEvent) : Alike ev ev
  /-- `ingestSingle` has completed both. -/
  | single {env other : Env} (time : other.clock = env.clock) (ev : TelemetryEvent) :
      Alike (singleEvent env ev) (singleEvent other ev)
  /-- `ingestBatch` has completed both. -/
  | batch {env other : Env} (time : other.clock = env.clock) (index : Nat) (ev : TelemetryEvent) :
      Alike (batchEvent env index ev) (batchEvent other index ev)

/-! ### A look now or later -/

section Levels

variable {rps burst : ℚ}

/-- Looking at the meter in between changes no later level. -/
theorem level_look (nonneg : 0 ≤ rps) (m : Meter) {clock later : Int} (order : clock ≤ later) :
    (m.look rps burst clock).level rps burst later = m.level rps burst later := by
  have gap : 0 ≤ seconds later - seconds clock := sub_nonneg.mpr (seconds_mono order)
  have joined : seconds clock - seconds m.time + (seconds later - seconds clock) =
      seconds later - seconds m.time := by ring
  cases m with | mk tokens time =>
  unfold Meter.look Meter.level
  cases tokens with
  | fin tokens =>
    simp only [JsNum.add_fin, JsNum.min_fin]
    have once : refill burst rps (seconds later - seconds clock)
        (refill burst rps (seconds clock - seconds time) tokens) =
        refill burst rps (seconds clock - seconds time + (seconds later - seconds clock)) tokens :=
      refill_refill tokens nonneg gap
    rw [joined] at once
    exact congrArg JsNum.fin once
  | posInf =>
    have full : (JsNum.fin burst).min .posInf = .fin burst := rfl
    have infinite (gain : ℚ) : JsNum.posInf.add (.fin gain) = .posInf := rfl
    simp only [infinite, full, JsNum.add_fin, JsNum.min_fin]
    exact congrArg JsNum.fin (refill_full nonneg gap)
  | negInf | nan => rfl

/-- Two meters have the same levels from some time on. -/
def Meter.Agree (rps burst : ℚ) (time : Int) (m other : Meter) : Prop :=
  ∀ clock, time ≤ clock → m.level rps burst clock = other.level rps burst clock

/-- A look at one of them changes none of these levels. -/
theorem Meter.Agree.look (nonneg : 0 ≤ rps) {time clock : Int} {m other : Meter}
    (agree : m.Agree rps burst time other) (order : time ≤ clock) :
    m.Agree rps burst clock (other.look rps burst clock) := by
  intro later after
  rw [level_look nonneg other after]
  exact agree later (le_trans order after)

/-- Drawing the same cost from both makes them equal, after the same decision. -/
theorem Meter.Agree.draw {time clock : Int} {m other : Meter} (agree : m.Agree rps burst time other)
    (order : time ≤ clock) (cost : JsNum) :
    m.draw rps burst clock cost = other.draw rps burst clock cost := by
  have same := agree clock order
  unfold Meter.draw Meter.look
  rw [same]

end Levels

/-! ### The same events in both queues -/

section Queues

variable {env other : Env} {p q : Process}

/-- The queues of two processes hold the same events, and have the same capacity. -/
def Parallel (p q : Process) : Prop :=
  List.Forall₂ Alike p.engine.queue q.engine.queue ∧
    p.engine.channelCapacity = q.engine.channelCapacity

/-- Steps that leave both queues and their capacities keep that. -/
theorem Parallel.kept {r s : Process} (parallel : Parallel p q)
    (tally : r.engine.tally = p.engine.tally)
    (capacity : r.engine.channelCapacity = p.engine.channelCapacity)
    (same : s.engine.tally = q.engine.tally)
    (room : s.engine.channelCapacity = q.engine.channelCapacity) : Parallel r s := by
  have first : r.engine.queue = p.engine.queue := congrArg Prod.fst tally
  have second : s.engine.queue = q.engine.queue := congrArg Prod.fst same
  unfold Parallel
  rw [first, second, capacity, room]
  exact parallel

/-- A property of an event in which one property was filled in. -/
theorem orElse_get (ev : TelemetryEvent) (filled value name : String) :
    (orElse ev filled value).get name =
      if name = filled ∧ (ev.get filled).truthy = false then .str value else ev.get name := by
  unfold orElse
  by_cases there : (ev.get filled).truthy = true
  · rw [if_pos there, if_neg (by simp [there])]
  · rw [if_neg there]
    by_cases same : name = filled
    · rw [if_pos ⟨same, Bool.eq_false_of_not_eq_true there⟩, same, JsObject.get_set_self]
    · rw [if_neg (fun both => same both.1), JsObject.get_set_other same]

/-- Filling in two traces makes events that differ in them only. -/
theorem orElse_trace (ev : TelemetryEvent) (drawn other name : String) :
    (orElse ev "trace_id" ("tr-" ++ drawn)).get name =
        (orElse ev "trace_id" ("tr-" ++ other)).get name ∨
      name = "trace_id" ∧
        (orElse ev "trace_id" ("tr-" ++ drawn)).get name = .str ("tr-" ++ drawn) ∧
        (orElse ev "trace_id" ("tr-" ++ other)).get name = .str ("tr-" ++ other) := by
  rw [orElse_get, orElse_get]
  by_cases missing : name = "trace_id" ∧ (ev.get "trace_id").truthy = false
  · rw [if_pos missing, if_pos missing]
    exact .inr ⟨missing.1, rfl, rfl⟩
  · rw [if_neg missing, if_neg missing]
    exact .inl rfl

/-- Alike events have the same properties, apart from traces that were drawn for both. -/
theorem alike_get {a b : TelemetryEvent} (alike : Alike a b) (name : String) :
    a.get name = b.get name ∨ name = "trace_id" ∧
      ∃ drawn other, a.get name = .str ("tr-" ++ drawn) ∧ b.get name = .str ("tr-" ++ other) := by
  cases alike with
  | same => exact .inl rfl
  | @single env other time ev =>
    unfold singleEvent
    rw [time]
    rcases orElse_trace (orElse (orElse ev "timestamp" (toISOString env.clock)) "level" "INFO")
      (env.suffix 0) (other.suffix 0) name with same | ⟨trace, drawn, others⟩
    · exact .inl same
    · exact .inr ⟨trace, _, _, drawn, others⟩
  | @batch env other time index ev =>
    unfold batchEvent
    rw [time]
    generalize orElse ev "timestamp" (toISOString env.clock) = base
    have level : (orElse base "trace_id" ("tr-" ++ env.suffix index)).get "level" =
        (orElse base "trace_id" ("tr-" ++ other.suffix index)).get "level" := by
      rw [orElse_other (by decide), orElse_other (by decide)]
    rw [orElse_get _ "level", orElse_get _ "level", level]
    split
    · exact .inl rfl
    · rcases orElse_trace base (env.suffix index) (other.suffix index) name with
        same | ⟨trace, drawn, others⟩
      · exact .inl same
      · exact .inr ⟨trace, _, _, drawn, others⟩

/-- One event more in both queues. -/
theorem Alike.append {queue others : List TelemetryEvent} (alike : List.Forall₂ Alike queue others)
    {a b : TelemetryEvent} (last : Alike a b) : List.Forall₂ Alike (queue ++ [a]) (others ++ [b]) :=
  List.rel_append alike (.cons last .nil)

/-- The loop of `ingestBatch` leaves the same events in both queues. -/
theorem ingestEvents_parallel (time : other.clock = env.clock) (events : List JsValue)
    (index accepted dropped : Nat) (parallel : Parallel p q) :
    List.Forall₂ Alike ((ingestEvents env events index accepted dropped).run p).state.engine.queue
      ((ingestEvents other events index accepted dropped).run q).state.engine.queue := by
  induction events generalizing index accepted dropped p q with
  | nil => exact parallel.1
  | cons event rest ih =>
    obtain ⟨alike, capacity⟩ := parallel
    have lengths := alike.length_eq
    rw [ingestEvents, ingestEvents]
    cases event.asObject with
    | error thrown => exact alike
    | ok ev =>
      simp only [run_bind, run_lift, run_engine, andThen_ok]
      by_cases fits : (JsNum.ofNat p.engine.queue.length).lt p.engine.channelCapacity = true
      · have other_fits :
            (JsNum.ofNat q.engine.queue.length).lt q.engine.channelCapacity = true := by
          rw [← lengths, ← capacity]
          exact fits
        simp only [if_pos fits, if_pos other_fits, run_bind, run_update, run_emit, andThen_ok,
          after_state]
        exact ih _ _ _ ⟨Alike.append alike (.batch time index ev), capacity⟩
      · have other_full :
            ¬ (JsNum.ofNat q.engine.queue.length).lt q.engine.channelCapacity = true := by
          rw [← lengths, ← capacity]
          exact fits
        simp only [if_neg fits, if_neg other_full, run_bind, run_update, andThen_ok, after_state]
        exact ih _ _ _ ⟨alike, capacity⟩

/-- `ingestBatch` leaves the same events in both queues when the limiters decide alike. -/
theorem ingestBatch_parallel (time : other.clock = env.clock) (events : List JsValue)
    (parallel : Parallel p q)
    (decision : p.core.affords env.clock (batchCost events.length) =
      q.core.affords other.clock (batchCost events.length)) :
    List.Forall₂ Alike ((ingestBatch env events).run p).state.engine.queue
      ((ingestBatch other events).run q).state.engine.queue := by
  cases affords : p.core.affords env.clock (batchCost events.length) with
  | false =>
    rw [affords] at decision
    have kept : ((ingestBatch env events).run p).state.engine.queue = p.engine.queue :=
      congrArg Prod.fst (batch_short env p events affords).1
    have same : ((ingestBatch other events).run q).state.engine.queue = q.engine.queue :=
      congrArg Prod.fst (batch_short other q events decision.symm).1
    rw [kept, same]
    exact parallel.1
  | true =>
    rw [affords] at decision
    obtain ⟨r, tally, capacity, left, _⟩ := batch_admitted env p events affords
    obtain ⟨s, same, room, right, _⟩ := batch_admitted other q events decision.symm
    have started : Parallel r s := parallel.kept tally capacity same room
    have ended : ((ingestBatch env events).run p).state.engine.queue =
        ((ingestEvents env events 0 0 0).run r).state.engine.queue := congrArg Prod.fst left
    have finished : ((ingestBatch other events).run q).state.engine.queue =
        ((ingestEvents other events 0 0 0).run s).state.engine.queue := congrArg Prod.fst right
    rw [ended, finished]
    exact ingestEvents_parallel time events 0 0 0 started

/-- So does `ingestSingle`. -/
theorem ingestSingle_parallel (time : other.clock = env.clock) (event : JsValue)
    (parallel : Parallel p q)
    (decision : p.core.affords env.clock 1 = q.core.affords other.clock 1) :
    List.Forall₂ Alike ((ingestSingle env event).run p).state.engine.queue
      ((ingestSingle other event).run q).state.engine.queue := by
  cases affords : p.core.affords env.clock 1 with
  | false =>
    rw [affords] at decision
    have kept : ((ingestSingle env event).run p).state.engine.queue = p.engine.queue :=
      congrArg Prod.fst (single_short env p event affords)
    have same : ((ingestSingle other event).run q).state.engine.queue = q.engine.queue :=
      congrArg Prod.fst (single_short other q event decision.symm)
    rw [kept, same]
    exact parallel.1
  | true =>
    rw [affords] at decision
    obtain ⟨r, tally, capacity, left, _⟩ := single_admitted env p event affords
    obtain ⟨s, same, room, right, _⟩ := single_admitted other q event decision.symm
    have started : Parallel r s := parallel.kept tally capacity same room
    rw [left, right]
    obtain ⟨alike, capacities⟩ := started
    by_cases valid : invalid event = .ok false
    · obtain ⟨ev, read, _⟩ := valid_object valid
      by_cases full : r.engine.channelCapacity.le (.ofNat r.engine.queue.length) = true
      · have filled : s.engine.channelCapacity.le (.ofNat s.engine.queue.length) = true := by
          rw [← capacities, ← alike.length_eq]
          exact full
        have one : ((singleDecided env event true).run r).state.engine.queue = r.engine.queue :=
          congrArg Prod.fst (decided_full valid read full).1
        have two : ((singleDecided other event true).run s).state.engine.queue = s.engine.queue :=
          congrArg Prod.fst (decided_full valid read filled).1
        rw [one, two]
        exact alike
      · have fits : ¬ s.engine.channelCapacity.le (.ofNat s.engine.queue.length) = true := by
          rw [← capacities, ← alike.length_eq]
          exact full
        have one : ((singleDecided env event true).run r).state.engine.queue =
            r.engine.queue ++ [singleEvent env ev] :=
          congrArg Prod.fst (decided_fits valid read full).1
        have two : ((singleDecided other event true).run s).state.engine.queue =
            s.engine.queue ++ [singleEvent other ev] :=
          congrArg Prod.fst (decided_fits valid read fits).1
        rw [one, two]
        exact Alike.append alike (.single time ev)
    · rw [decided_invalid valid, decided_invalid valid]
      exact alike

end Queues

/-! ### Two runs -/

/-- Two processes make the same decisions from some time on, and hold the same events. -/
structure Abreast (rps burst : ℚ) (time : Int) (p q : Process) : Prop where
  /-- The rates of the first. -/
  left : p.core.AtRates rps burst
  /-- The rates of the second. -/
  right : q.core.AtRates rps burst
  /-- The levels of both. -/
  levels : p.core.meter.Agree rps burst time q.core.meter
  /-- The queues of both. -/
  parallel : Parallel p q

section Steps

variable {rps burst : ℚ} {time : Int} {p q a b : Process} {env other : Env} {out shown : List Obs}

/-- At finite rates the limiter has the tokens of a call when its meter has. -/
theorem affords_level (rates : p.core.AtRates rps burst) (clock : Int) (cost : JsNum) :
    p.core.affords clock cost = cost.le (p.core.meter.level rps burst clock) := by
  rw [Core.affords, tokensAt_level rates]

/-- A step other than a change of the configuration leaves the capacity alone. -/
theorem step_capacity_same {action : Act} (kept : action.isConfig = false)
    (stepped : step p action = some (a, out)) :
    a.engine.channelCapacity = p.engine.channelCapacity :=
  congrFun (congrArg Config.clamped (step_config_same kept stepped)) .channelCapacity

/-- Calls that draw the same cost are decided alike, and leave both runs abreast if they leave the
same events. -/
theorem Abreast.drawn (abreast : Abreast rps burst time p q) {request : Request}
    (calm : ∀ env, (Act.request env request).isConfig = false) (same : other.clock = env.clock)
    (order : time ≤ env.clock) (first : step p (.request env request) = some (a, out))
    (second : step q (.request other request) = some (b, shown)) {cost : JsNum}
    (use : request.use = .draw cost) (queues : List.Forall₂ Alike a.engine.queue b.engine.queue) :
    Abreast rps burst env.clock a b ∧ out.flatMap Obs.decision = shown.flatMap Obs.decision := by
  obtain ⟨left, right, levels, parallel⟩ := abreast
  have level := levels env.clock order
  have one := step_used left (calm env) first
  have two := step_used right (calm other) second
  have meters : a.core.meter = b.core.meter := by
    have own : a.core.meter = p.core.meter.after rps burst env.clock request.use := one.meter
    have others : b.core.meter = q.core.meter.after rps burst other.clock request.use := two.meter
    rw [own, others, use, same]
    exact levels.draw order cost
  have decided : out.flatMap Obs.decision =
      p.core.meter.decisions rps burst env.clock request.use := one.decided
  have others : shown.flatMap Obs.decision =
      q.core.meter.decisions rps burst other.clock request.use := two.decided
  refine ⟨⟨one.rates, two.rates, ?_, queues, ?_⟩, ?_⟩
  · intro clock _
    rw [meters]
  · rw [step_capacity_same (calm env) first, step_capacity_same (calm other) second]
    exact parallel.2
  · rw [decided, others, use, same]
    exact congrArg (fun level => [cost.le level]) level

/-- The same call of both runs is decided alike, and leaves them abreast. -/
theorem Abreast.call (abreast : Abreast rps burst time p q) {request : Request}
    (ingests : request.ingests = true) (same : other.clock = env.clock) (order : time ≤ env.clock)
    (first : step p (.request env request) = some (a, out))
    (second : step q (.request other request) = some (b, shown)) :
    Abreast rps burst env.clock a b ∧ out.flatMap Obs.decision = shown.flatMap Obs.decision := by
  have calm (env : Env) : (Act.request env request).isConfig = false := by
    cases request with
    | ingestSingle | ingestBatch => rfl
    | getMetrics | startLoadTest | stopLoadTest | updateConfig | simulateGracefulShutdown =>
      contradiction
  have drawn {cost : JsNum} (use : request.use = .draw cost) :=
    abreast.drawn calm same order first second use
  obtain ⟨left, right, levels, parallel⟩ := abreast
  have level := levels env.clock order
  obtain ⟨_, rfl⟩ := request_state first
  obtain ⟨_, rfl⟩ := request_state second
  have begun : Parallel (p.begin env) (q.begin other) := parallel
  have decision (cost : JsNum) : (p.begin env).core.affords env.clock cost =
      (q.begin other).core.affords other.clock cost := by
    have one : (p.begin env).core.affords env.clock cost = _ := affords_level left env.clock cost
    have two : (q.begin other).core.affords other.clock cost = _ :=
      affords_level right other.clock cost
    rw [one, two, same, level]
  cases request with
  | getMetrics | startLoadTest | stopLoadTest | updateConfig | simulateGracefulShutdown =>
    contradiction
  | ingestSingle event =>
    apply drawn rfl
    have ran (env : Env) (p : Process) : (((Request.ingestSingle event).call env).run p).state =
        ((ingestSingle env event).run p).state := run_bind_state (fun _ _ => rfl) p
    rw [ran, ran]
    exact ingestSingle_parallel same event begun (decision 1)
  | ingestBatch events =>
    apply drawn rfl
    have ran (env : Env) (p : Process) : (((Request.ingestBatch events).call env).run p).state =
        ((ingestBatch env events).run p).state := run_bind_state (fun _ _ => rfl) p
    rw [ran, ran]
    exact ingestBatch_parallel same events begun (decision _)

/-- A poll of the second run leaves them abreast, and decides nothing. -/
theorem Abreast.poll (abreast : Abreast rps burst time p q) (nonneg : 0 ≤ rps)
    (order : time ≤ other.clock) (polled : step q (.request other .getMetrics) = some (b, shown)) :
    Abreast rps burst other.clock p b ∧ shown.flatMap Obs.decision = [] := by
  obtain ⟨left, right, levels, alike, capacity⟩ := abreast
  have used := step_used right rfl polled
  have looked : b.core.meter = q.core.meter.look rps burst other.clock := used.meter
  have kept : b.engine.queue = q.engine.queue := by
    obtain ⟨_, rfl⟩ := request_state polled
    have ran : (((Request.getMetrics).call other).run (q.begin other)).state =
        ((getMetrics other).run (q.begin other)).state := run_bind_state (fun _ _ => rfl) _
    have view : ((getMetrics other).run (q.begin other)).state.exceptTokens =
        (q.begin other).exceptTokens := view_kept (fun _ => keeps_getMetrics other) _
    have queues := congrArg (fun p : Process => p.engine.queue) view
    rw [ran]
    exact queues
  refine ⟨⟨left, used.rates, ?_, ?_, ?_⟩, used.decided⟩
  · rw [looked]
    exact levels.look nonneg order
  · rw [kept]
    exact alike
  · rw [step_capacity_same rfl polled]
    exact capacity

/-- So the schedules leave them abreast, after the same decisions. -/
theorem Abreast.run (abreast : Abreast rps burst time p q) (nonneg : 0 ≤ rps)
    {plain polled : List Act} (inserted : Polled plain polled) (ordered : Ordered time polled)
    (first : system.exec System.unguarded p plain = some (a, out))
    (second : system.exec System.unguarded q polled = some (b, shown)) :
    out.flatMap Obs.decision = shown.flatMap Obs.decision ∧
      List.Forall₂ Alike a.engine.queue b.engine.queue := by
  induction inserted generalizing time p q out shown with
  | nil =>
    simp only [System.exec, Option.some.injEq, Prod.mk.injEq] at first second
    obtain ⟨rfl, rfl⟩ := first
    obtain ⟨rfl, rfl⟩ := second
    exact ⟨rfl, abreast.parallel.1⟩
  | @call env other request plain polled ingests same rest ih =>
    obtain ⟨order, later⟩ := ordered
    obtain ⟨_, r, own, more, stepped, tail, rfl⟩ := System.exec_cons first
    obtain ⟨_, s, others, further, moved, remains, rfl⟩ := System.exec_cons second
    obtain ⟨left, decided⟩ :=
      abreast.call ingests same (le_of_le_of_eq order same) stepped moved
    have onward : Ordered env.clock polled := by
      rw [← same]
      exact later
    obtain ⟨decisions, alike⟩ := ih left onward tail remains
    rw [List.flatMap_append, List.flatMap_append, decided, decisions]
    exact ⟨rfl, alike⟩
  | poll rest ih =>
    obtain ⟨order, later⟩ := ordered
    obtain ⟨_, s, others, further, moved, remains, rfl⟩ := System.exec_cons second
    obtain ⟨left, decided⟩ := abreast.poll nonneg order moved
    obtain ⟨decisions, alike⟩ := ih left later first remains
    rw [List.flatMap_append, decided]
    exact ⟨decisions, alike⟩

end Steps

/-- At fixed rates, calls that ingest events are decided alike, and leave the same events in the
queue up to the traces that were drawn, whether the metrics are polled in between or not. A prefix
of the calls is such a schedule as well, so each call leaves the same events. -/
theorem polling_invisible {rps burst : ℚ} {p a b : Process} {plain polled : List Act}
    {out shown : List Obs} (rates : p.core.AtRates rps burst) (nonneg : 0 ≤ rps)
    (inserted : Polled plain polled) (ordered : Ordered p.engine.lastRefillTime polled)
    (first : system.exec System.unguarded p plain = some (a, out))
    (second : system.exec System.unguarded p polled = some (b, shown)) :
    out.flatMap Obs.decision = shown.flatMap Obs.decision ∧
      List.Forall₂ Alike a.engine.queue b.engine.queue := by
  have alike : List.Forall₂ Alike p.engine.queue p.engine.queue :=
    List.forall₂_same.mpr fun ev _ => .same ev
  have abreast : Abreast rps burst p.engine.lastRefillTime p p :=
    ⟨rates, rates, fun _ _ => rfl, alike, rfl⟩
  exact abreast.run nonneg inserted ordered first second

/-- The calls of a client. -/
def plainCalls : List Act :=
  [.request (.calm 0) (.ingestBatch (List.replicate 51 plainEvent)),
    .request (.calm 90) (.ingestSingle plainEvent), .request (.calm 110) (.ingestSingle plainEvent)]

/-- The same calls, with polls in between. -/
def polledCalls : List Act :=
  [.request (.calm 0) (.ingestBatch (List.replicate 51 plainEvent)),
    .request (.calm 30) .getMetrics, .request (.calm 60) .getMetrics,
    .request (.calm 90) (.ingestSingle plainEvent), .request (.calm 90) .getMetrics,
    .request (.calm 110) (.ingestSingle plainEvent)]

/-- At ten tokens a second and a burst of two, the batch is admitted, the first event finds nine
tenths of a token, and the second one token. -/
theorem polling_invisible_tenth : ∃ a b out shown,
    system.exec System.unguarded (.withLimiter (.calm 0) 10 2) plainCalls = some (a, out) ∧
      system.exec System.unguarded (.withLimiter (.calm 0) 10 2) polledCalls = some (b, shown) ∧
      out.flatMap Obs.decision = [true, false, true] ∧
      shown.flatMap Obs.decision = [true, false, true] ∧
      List.Forall₂ Alike a.engine.queue b.engine.queue := by
  have rates : (Process.withLimiter (.calm 0) 10 2).core.AtRates 10 2 := ⟨rfl, rfl⟩
  have inserted : Polled plainCalls polledCalls :=
    .call rfl rfl (.poll (.poll (.call rfl rfl (.poll (.call rfl rfl .nil)))))
  have ordered : Ordered 0 polledCalls := by
    refine ⟨?_, ?_, ?_, ?_, ?_, ?_, trivial⟩ <;> decide
  have executed : (system.exec System.unguarded (.withLimiter (.calm 0) 10 2) plainCalls).map
      (·.2.flatMap Obs.decision) = some [true, false, true] := by decide +kernel
  have also : (system.exec System.unguarded (.withLimiter (.calm 0) 10 2) polledCalls).map
      (·.2.flatMap Obs.decision) = some [true, false, true] := by decide +kernel
  obtain ⟨⟨a, out⟩, first, decided⟩ := Option.map_eq_some_iff.mp executed
  obtain ⟨⟨b, shown⟩, second, alike⟩ := Option.map_eq_some_iff.mp also
  have queues := (polling_invisible rates (by norm_num) inserted ordered first second).2
  exact ⟨a, b, out, shown, first, second, decided, alike, queues⟩

end IngestionEngine.Server
