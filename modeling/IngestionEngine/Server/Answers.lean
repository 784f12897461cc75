import IngestionEngine.Server.Accounting
import IngestionEngine.Server.Conservation
import IngestionEngine.Server.Routes
import Mathlib.Algebra.Order.Monoid.Prod

/-!
# What the answers acknowledge

A client learns from an answer which of its events were accepted, and what its call has added to the
counters: a batch that is refused counts for itself and once more for each of its events. Only a
batch that throws half way, and the events of the load test, are not answered for.
-/

namespace IngestionEngine.Server

open Systems Program

/-! ### What a client reads -/

/-- The events that `ingestBatch` would push, up to the first element that is not an object. -/
def batchEvents (env : Env) : List JsValue → Nat → List TelemetryEvent
  | [], _ => []
  | event :: rest, index =>
    match event.asObject with
    | .error _ => []
    | .ok ev => batchEvent env index ev :: batchEvents env rest (index + 1)

/-- The events that an answer acknowledges: the single one if it was accepted, and of a batch as
many as were accepted, from its front. -/
def HttpObs.acknowledged : HttpObs → List TelemetryEvent
  | .answered env (.single body) (.json response) =>
    if response.status = 202 then (body.val.asObject.toOption.map (singleEvent env)).toList else []
  | .answered env (.batch body) (.json response) =>
    (batchEvents env ((eventsOf body).getD []) 0).take (response.count "accepted")
  | _ => []

/-- The events that an answer reports as accepted, and those that it reports as dropped. -/
def HttpObs.told : HttpObs → ℕ × ℕ
  | .answered _ (.single _) (.json response) =>
    if response.status = 202 then (1, 0) else if response.status = 503 then (0, 1) else 0
  | .answered _ (.batch _) (.json response) =>
    if response.status = 429 then 0 else (response.count "accepted", response.count "dropped")
  | _ => 0

/-- The answer is a 429. -/
def HttpObs.limited : HttpObs → ℕ
  | .answered _ (.single _) (.json response) | .answered _ (.batch _) (.json response) =>
    if response.status = 429 then 1 else 0
  | _ => 0

/-- The events of a batch that was answered with a 429. -/
def HttpObs.limitedEvents : HttpObs → ℕ
  | .answered _ (.batch body) (.json response) =>
    if response.status = 429 then ((eventsOf body).getD []).length else 0
  | _ => 0

/-- What the call behind an answer has added to `totalAccepted`, `totalDropped` and
`rateLimitedRequests`: a batch of `n` events that is refused adds `n + 1` to the last one. -/
def HttpObs.tally (obs : HttpObs) : ℕ × ℕ × ℕ :=
  (obs.told.1, obs.told.2, obs.limited + obs.limitedEvents)

/-- Events that no answer tells of may follow: a batch has thrown, or a load test was started. -/
def HttpObs.hidden : HttpObs → Bool
  | .answered _ (.batch _) (.failed _) | .answered _ (.benchmarkStart _) (.json _) => true
  | _ => false

/-- A count can be read back. -/
theorem count_nat (status : Nat) (retryAfter : Option String) (members : List (String × JsValue))
    (name : String) (n : Nat) (found : members.lookup name = some (.nat n)) :
    (HttpResponse.mk status retryAfter (.obj members)).count name = n := by
  have read : (HttpResponse.mk status retryAfter (.obj members)).member name = .nat n := by
    simp only [HttpResponse.member, JsValue.get, JsValue.asObject, Except.map, JsObject.get, found,
      Option.getD_some]
  unfold HttpResponse.count
  rw [read]
  exact (congrArg Int.toNat (Int.floor_natCast n)).trans (Int.toNat_natCast n)

/-! ### What the changes push and count -/

/-- The event that a change pushes. -/
def Change.pushed : Change → List TelemetryEvent
  | .push _ event => [event]
  | _ => []

/-- What a change adds to the three counters. -/
def Change.tally : Change → ℕ × ℕ × ℕ
  | .push _ _ => (1, 0, 0)
  | .drop => (0, 1, 0)
  | .refuse _ _ => (0, 0, 1)
  | .refuseBatch total => (0, 0, total)
  | _ => 0

/-- `totalAccepted`, `totalDropped` and `rateLimitedRequests`. -/
def Core.counters (c : Core) : ℕ × ℕ × ℕ :=
  (c.totalAccepted, c.totalDropped, c.rateLimitedRequests)

/-- A change pushes and counts what it shows. -/
theorem change_reads {c after : Core} {change : Change} {out : List Obs}
    (stepped : c.step change = some (after, out)) :
    out.flatMap Obs.pushedEvents = change.pushed ∧
      after.counters = c.counters + change.tally := by
  cases core_cases stepped with
  | push | drop | refuse | refuseBatch | touch | refill | spend | move | drain | flush | setRps
  | setBurst | capTokens => exact ⟨rfl, rfl⟩
  | @finish shown ends =>
    refine ⟨?_, rfl⟩
    cases shown with
    | pushed => contradiction
    | limited | moved | drained | flushed | logged | latency | single | batch | metrics | shutdown
    | threw | crashed => rfl

/-- Changes push and count what they show. -/
theorem exec_reads {changes : List Change} {c after : Core} {out : List Obs}
    (executed : coreSystem.exec System.unguarded c changes = some (after, out)) :
    out.flatMap Obs.pushedEvents = changes.flatMap Change.pushed ∧
      after.counters = c.counters + total Change.tally changes := by
  induction changes generalizing c out with
  | nil =>
    simp only [System.exec, Option.some.injEq, Prod.mk.injEq] at executed
    obtain ⟨rfl, rfl⟩ := executed
    exact ⟨rfl, rfl⟩
  | cons change rest ih =>
    obtain ⟨_, middle, first, later, stepped, tail, rfl⟩ := System.exec_cons executed
    obtain ⟨pushes, counts⟩ := change_reads stepped
    obtain ⟨others, more⟩ := ih tail
    rw [List.flatMap_append, pushes, others, more, counts, total_cons, add_assoc]
    exact ⟨rfl, rfl⟩

/-- The limiter pushes nothing, and counts a call that it refuses. -/
theorem Limits.reads {c : Core} {clock : Int} {cost : JsNum} {changes : List Change}
    {result : Except JsError Bool} (limits : Limits c clock cost changes result) :
    changes.flatMap Change.pushed = [] ∧
      total Change.tally changes = if result = .ok false then (0, 0, 1) else 0 := by
  cases limits with
  | throws | admitted | refused => exact ⟨rfl, rfl⟩

section Loop

variable (env : Env) (capacity : JsNum)

/-- A queue that is full stays full. -/
theorem pushed_full {length : Nat} (full : ¬ (JsNum.ofNat length).lt capacity = true)
    (events : List JsValue) (index : Nat) :
    (batchChanges env capacity events index length).flatMap Change.pushed = [] ∧
      (total Change.tally (batchChanges env capacity events index length)).1 = 0 := by
  induction events generalizing index with
  | nil => exact ⟨rfl, rfl⟩
  | cons event rest ih =>
    rw [batchChanges]
    cases event.asObject with
    | error thrown => exact ⟨rfl, rfl⟩
    | ok ev =>
      obtain ⟨none, zero⟩ := ih (index + 1)
      simp only [if_neg full, List.flatMap_cons, none, total_cons, Prod.fst_add, zero]
      exact ⟨rfl, rfl⟩

/-- The events that the loop of `ingestBatch` pushes are the first ones. -/
theorem pushed_batchChanges (events : List JsValue) (index length : Nat) :
    (batchChanges env capacity events index length).flatMap Change.pushed =
      (batchEvents env events index).take
        (total Change.tally (batchChanges env capacity events index length)).1 := by
  induction events generalizing index length with
  | nil => rfl
  | cons event rest ih =>
    by_cases room : (JsNum.ofNat length).lt capacity = true
    · rw [batchChanges, batchEvents]
      cases event.asObject with
      | error thrown => rfl
      | ok ev =>
        simp only [if_pos room, List.flatMap_cons, ih, total_cons, Prod.fst_add, Change.tally,
          Change.pushed, List.singleton_append, Nat.add_comm 1, List.take_succ_cons]
    · obtain ⟨none, zero⟩ := pushed_full env capacity room (event :: rest) index
      rw [none, zero, List.take_zero]

variable {capacity}

/-- The loop returns what it has counted. -/
theorem ingestEvents_counts (events : List JsValue) (index accepted dropped : Nat)
    {length : Nat} {p : Process} (queued : p.engine.queue.length = length) {counts : Nat × Nat}
    (ended : ((ingestEvents env events index accepted dropped).run p).result = .ok counts) :
    (counts.1, counts.2, 0) = (accepted, dropped, 0) +
      total Change.tally (batchChanges env p.engine.channelCapacity events index length) := by
  induction events generalizing index accepted dropped length p with
  | nil =>
    obtain rfl := Except.ok.inj ended
    rfl
  | cons event rest ih =>
    rw [ingestEvents] at ended
    rw [batchChanges]
    cases read : event.asObject with
    | error thrown =>
      rw [read] at ended
      contradiction
    | ok ev =>
      dsimp only
      subst queued
      by_cases room : (JsNum.ofNat p.engine.queue.length).lt p.engine.channelCapacity = true
      · simp only [read, run_bind, run_lift, run_engine, andThen_ok, if_pos room, run_update,
          run_emit, after_result] at ended
        rw [if_pos room, ih _ _ _ (by rw [List.length_append, List.length_singleton]) ended,
          total_cons, ← add_assoc]
        rfl
      · simp only [read, run_bind, run_lift, run_engine, andThen_ok, if_neg room, run_update,
          after_result] at ended
        rw [if_neg room, ih _ _ _ rfl ended, total_cons, ← add_assoc]
        rfl

end Loop

/-- What `ingestBatch` returns. -/
theorem batch_result {env : Env} {p : Process} {events : List JsValue} {result : BatchResult}
    (ended : ((ingestBatch env events).run p).result = .ok result) :
    (p.core.affords env.clock (batchCost events.length) = false ∧
        result = ⟨events.length, 0, events.length, true⟩) ∨
      (p.core.affords env.clock (batchCost events.length) = true ∧ result.rateLimited = false ∧
        (result.accepted, result.dropped, 0) = total Change.tally
          (batchChanges env p.engine.channelCapacity events 0 p.engine.queue.length)) := by
  cases affords : p.core.affords env.clock (batchCost events.length) with
  | false =>
    obtain ⟨_, returned | ⟨thrown, failed⟩⟩ := batch_short env p events affords
    · rw [returned] at ended
      exact .inl ⟨rfl, (Except.ok.inj ended).symm⟩
    · rw [failed] at ended
      contradiction
  | true =>
    obtain ⟨q, same, capacity, _, returns⟩ := batch_admitted env p events affords
    rw [returns] at ended
    cases looped : ((ingestEvents env events 0 0 0).run q).result with
    | error thrown =>
      rw [looped] at ended
      contradiction
    | ok counts =>
      rw [looped] at ended
      obtain rfl := Except.ok.inj ended
      have queued : q.engine.queue = p.engine.queue := congrArg Prod.fst same
      have counted := ingestEvents_counts env events 0 0 0 rfl looped
      rw [capacity, queued] at counted
      exact .inr ⟨rfl, rfl, counted.trans (zero_add _)⟩

/-! ### What an answer tells of its call -/

variable (env p) in
/-- An answer tells what the changes of its call push and count, or nothing. -/
inductive Tells (obs : HttpObs) (changes : List Change) : Prop where
  /-- It tells everything. -/
  | all (events : obs.acknowledged = changes.flatMap Change.pushed)
      (counts : obs.tally = total Change.tally changes)
  /-- It tells nothing. -/
  | nothing (events : obs.acknowledged = []) (counts : obs.tally = 0) (hidden : obs.hidden = true)

section Calls

variable {number : JsNum → String} {env : Env} {p : Process}

/-- The answer to a single event tells whether it was accepted. -/
theorem single_tells (body : Body) : ∃ changes,
    Makes ((Request.ingestSingle body).call env) (p.begin env) changes
        (((Request.ingestSingle body).call env).run (p.begin env)).result ∧
      Tells (.answered env (.single body) (.of ((postSingle env body).run p).result)) changes := by
  have responds : ((postSingle env body).run p).result =
      ((ingestSingle env body).run (p.begin env)).result.map singleResponse :=
    result_bind (fun _ _ => rfl) (p.begin env)
  obtain ⟨changes, result, makes, shape⟩ := ingestSingle_makes env (p.begin env) body
  rw [responds, makes.ended]
  cases result with
  | error thrown =>
    have called : Makes ((Request.ingestSingle body).call env) (p.begin env) changes
        (.error thrown) := makes.stop
    refine ⟨changes, by rw [called.ended]; exact called, ?_⟩
    cases shape with
    | throws limits =>
      obtain ⟨pushes, counts⟩ := limits.reads
      exact .all pushes.symm counts.symm
    | unreadable limits =>
      obtain ⟨pushes, counts⟩ := limits.reads
      exact .all pushes.symm counts.symm
  | ok result =>
    have called : Makes ((Request.ingestSingle body).call env) (p.begin env)
        (changes ++ [.finish (.single result)]) (.ok ()) := makes.bind ⟨rfl, rfl⟩
    refine ⟨_, by rw [called.ended]; exact called, ?_⟩
    cases shape with
    | refused limits | rejected limits =>
      obtain ⟨pushes, counts⟩ := limits.reads
      refine .all ?_ ?_
      · rw [List.flatMap_append, pushes]
        rfl
      · rw [total_append, counts]
        rfl
    | dropped limits =>
      obtain ⟨pushes, counts⟩ := limits.reads
      refine .all ?_ ?_
      · rw [List.flatMap_append, List.flatMap_append, pushes]
        rfl
      · rw [total_append, total_append, counts]
        rfl
    | accepted limits read =>
      obtain ⟨pushes, counts⟩ := limits.reads
      refine .all ?_ ?_
      · rw [List.flatMap_append, List.flatMap_append, pushes]
        simp only [HttpObs.acknowledged, HttpAnswer.of, Except.map, singleResponse, if_true, read]
        rfl
      · rw [total_append, total_append, counts]
        rfl

variable (env) in
/-- What is read from the response to a batch. -/
theorem batchResponse_reads (body : Body) {events : List JsValue}
    (given : eventsOf body = some events) (result : BatchResult) :
    (HttpObs.answered env (.batch body) (.json (batchResponse result))).acknowledged =
        (batchEvents env events 0).take (if result.rateLimited then 0 else result.accepted) ∧
      (HttpObs.answered env (.batch body) (.json (batchResponse result))).tally =
        if result.rateLimited then (0, 0, 1 + events.length)
        else (result.accepted, result.dropped, 0) := by
  simp only [HttpObs.acknowledged, HttpObs.tally, HttpObs.told, HttpObs.limited,
    HttpObs.limitedEvents, given, Option.getD_some]
  cases limited : result.rateLimited with
  | true =>
    rw [batchResponse, if_pos limited]
    exact ⟨rfl, rfl⟩
  | false =>
    have other : batchStatus result ≠ 429 := by
      unfold batchStatus
      split <;> decide
    rw [batchResponse, if_neg (by rw [limited]; exact Bool.false_ne_true)]
    simp only [if_neg other]
    rw [count_nat _ _ _ "accepted" result.accepted rfl,
      count_nat _ _ _ "dropped" result.dropped rfl]
    exact ⟨rfl, rfl⟩

variable (env p) in
/-- The answer to a batch tells how many of its events were accepted, unless it throws. -/
theorem batch_tells (body : Body) {events : List JsValue} (given : eventsOf body = some events) :
    ∃ changes, Makes ((Request.ingestBatch events).call env) (p.begin env) changes
        (((Request.ingestBatch events).call env).run (p.begin env)).result ∧
      Tells (.answered env (.batch body) (.of ((postEvents env events).run p).result)) changes := by
  have responds : ((postEvents env events).run p).result =
      ((ingestBatch env events).run (p.begin env)).result.map batchResponse :=
    result_bind (fun _ _ => rfl) (p.begin env)
  obtain ⟨changes, result, makes, shape⟩ := ingestBatch_makes env (p.begin env) events
  rw [responds, makes.ended]
  cases result with
  | error thrown =>
    have called : Makes ((Request.ingestBatch events).call env) (p.begin env) changes
        (.error thrown) := makes.stop
    exact ⟨changes, by rw [called.ended]; exact called, .nothing rfl rfl rfl⟩
  | ok result =>
    have called : Makes ((Request.ingestBatch events).call env) (p.begin env)
        (changes ++ [.finish (.batch result)]) (.ok ()) := makes.bind ⟨rfl, rfl⟩
    refine ⟨_, by rw [called.ended]; exact called, ?_⟩
    have returned := batch_result makes.ended
    obtain ⟨acknowledges, tells⟩ := batchResponse_reads env body given result
    cases shape with
    | refused limits =>
      obtain ⟨pushes, counts⟩ := limits.reads
      refine .all (acknowledges.trans ?_) (tells.trans ?_)
      · rw [List.flatMap_append, List.flatMap_append, pushes]
        exact List.take_zero
      · rw [total_append, total_append, counts]
        simp [Change.tally, total]
    | @admitted limitChanges accepted dropped limits whole =>
      obtain ⟨pushes, counts⟩ := limits.reads
      rcases returned with ⟨_, refused⟩ | ⟨_, _, counted⟩
      · simp at refused
      · have taken := pushed_batchChanges env (p.begin env).engine.channelCapacity events 0
          (p.begin env).engine.queue.length
        rw [← counted] at taken
        refine .all (acknowledges.trans ?_) (tells.trans ?_)
        · rw [List.flatMap_append, List.flatMap_append, pushes]
          exact taken.symm.trans (List.append_nil _).symm
        · have none : total Change.tally limitChanges = 0 := counts.trans (if_neg (by simp))
          rw [total_append, total_append, none, zero_add]
          exact counted.trans (add_zero _).symm

/-- A call that ingests nothing pushes and counts nothing. -/
theorem RequestMakes.quiet {e : Engine} {request : Request} {changes : List Change}
    {result : Except JsError Unit} (makes : RequestMakes e env request changes result)
    (single : ∀ event, request ≠ .ingestSingle event)
    (batch : ∀ events, request ≠ .ingestBatch events) :
    changes.flatMap Change.pushed = [] ∧ total Change.tally changes = 0 := by
  cases makes with
  | @single event | @singleThrows event => exact absurd rfl (single event)
  | @batch events | @batchThrows events => exact absurd rfl (batch events)
  | metrics makes | metricsThrows makes => rcases makes with rfl | rfl <;> exact ⟨rfl, rfl⟩
  | startLoadTest | stopLoadTest | shutdownThrows => exact ⟨rfl, rfl⟩
  | updateConfig configures =>
    refine ⟨List.flatMap_eq_nil_iff.mpr fun change member => ?_,
      total_eq_zero fun change member => ?_⟩
    all_goals cases configures change member <;> rfl
  | shutdown flushing => rcases flushing with rfl | rfl <;> exact ⟨rfl, rfl⟩

variable (env p) in
/-- An answer tells what the changes of the call of its handler push and count, or nothing. -/
theorem called_tells {request : HttpRequest} {called : Request}
    (calls : request.call number = some called) : ∃ changes,
    Makes (called.call env) (p.begin env) changes ((called.call env).run (p.begin env)).result ∧
      Tells (.answered env request (.of ((request.handle number env).run p).result)) changes := by
  have quietly (single : ∀ event, called ≠ .ingestSingle event)
      (batch : ∀ events, called ≠ .ingestBatch events) (obs : HttpObs)
      (events : obs.acknowledged = []) (counts : obs.tally = 0) : ∃ changes,
      Makes (called.call env) (p.begin env) changes ((called.call env).run (p.begin env)).result ∧
        Tells obs changes := by
    obtain ⟨changes, result, makes, shape⟩ := request_makes env (p.begin env) called
    obtain ⟨pushes, none⟩ := shape.quiet single batch
    exact ⟨changes, by rw [makes.ended]; exact makes, .all (events.trans pushes.symm)
      (counts.trans none.symm)⟩
  cases request with
  | single body =>
    obtain rfl := Option.some.inj calls
    exact single_tells body
  | batch body =>
    obtain ⟨events, given, rfl⟩ := Option.map_eq_some_iff.mp calls
    obtain ⟨changes, makes, tells⟩ := batch_tells env p body given
    refine ⟨changes, makes, ?_⟩
    rw [HttpRequest.handle, run_postBatch given]
    exact tells
  | logs => contradiction
  | benchmarkStart body =>
    obtain ⟨asked, _, rfl⟩ := Option.map_eq_some_iff.mp calls
    exact quietly (by simp) (by simp) _ rfl rfl
  | metrics | healthz | benchmarkStop | config | shutdown =>
    obtain rfl := Option.some.inj calls
    exact quietly (by simp) (by simp) _ rfl rfl

/-! ### What a step tells -/

/-- What happens inside the process tells a client nothing. -/
theorem inside_silent (out : List Obs) :
    (out.map HttpObs.inside).flatMap HttpObs.acknowledged = [] ∧
      total HttpObs.tally (out.map HttpObs.inside) = 0 := by
  constructor
  · rw [List.flatMap_map]
    exact List.flatMap_eq_nil_iff.mpr fun _ _ => rfl
  · refine total_eq_zero fun obs member => ?_
    obtain ⟨shown, _, rfl⟩ := List.mem_map.mp member
    rfl

/-- An answer shows no event pushed. -/
theorem answered_still (request : HttpRequest) (answer : HttpAnswer) :
    ((HttpObs.answered env request answer).process number).flatMap Obs.pushedEvents = [] := by
  cases answer with
  | json response => rfl
  | failed thrown =>
    rw [HttpObs.process]
    split <;> rfl

/-- A callback of a timer pushes and counts nothing, if no load test is active. -/
theorem TaskMakes.quiet {e : Engine} {task : Task} {changes : List Change}
    {result : Except JsError Unit} (makes : TaskMakes e env task changes result)
    (idle : e.loadTestActive = false) :
    changes.flatMap Change.pushed = [] ∧ total Change.tally changes = 0 := by
  cases makes with
  | idle | flushed => exact ⟨rfl, rfl⟩
  | moved flushing => rcases flushing with rfl | rfl <;> exact ⟨rfl, rfl⟩
  | loadTest active | overflows active =>
    rw [idle] at active
    contradiction

/-- What is shown of a step, and what its changes push and count. -/
structure Reads (number : JsNum → String) (p after : Process) (out : List HttpObs)
    (changes : List Change) : Prop where
  /-- The events pushed are shown. -/
  pushes : (out.flatMap (HttpObs.process number)).flatMap Obs.pushedEvents =
    changes.flatMap Change.pushed
  /-- The counters move. -/
  counts : after.core.counters = p.core.counters + total Change.tally changes

/-- A step tells what its changes push and count, or it tells nothing. -/
theorem http_tells {p after : Process} {action : HttpAct} {out : List HttpObs}
    (stepped : httpStep number p action = some (after, out)) : ∃ changes,
    Reads number p after out changes ∧
      ((out.flatMap HttpObs.acknowledged = changes.flatMap Change.pushed ∧
          total HttpObs.tally out = total Change.tally changes) ∨
        (out.flatMap HttpObs.acknowledged = [] ∧ total HttpObs.tally out = 0 ∧
          ((∃ obs ∈ out, obs.hidden = true) ∨ p.engine.loadTestActive = true))) := by
  cases http_cases stepped with
  | @called env request called alive calls =>
    obtain ⟨changes, makes, tells⟩ := called_tells env p calls
    obtain ⟨pushes, counts⟩ := exec_reads makes.executed
    rw [flatMap_core _ (fun _ => rfl) fun _ => rfl] at pushes
    refine ⟨changes, ⟨?_, counts⟩, ?_⟩
    · rw [List.flatMap_append, List.flatMap_append, process_inside, pushes,
        List.flatMap_singleton, answered_still, List.append_nil]
    · obtain ⟨none, zero⟩ := inside_silent ((called.call env).run (p.begin env)).out
      rw [List.flatMap_append, none, total_append, zero, List.flatMap_singleton, total_cons,
        total_nil, add_zero, zero_add, List.nil_append]
      cases tells with
      | all events counts => exact .inl ⟨events, counts⟩
      | nothing events counts hidden =>
        exact .inr ⟨events, counts, .inl ⟨_, List.mem_append_right _ List.mem_cons_self, hidden⟩⟩
  | @silent env request quiet =>
    refine ⟨[], ⟨?_, (add_zero _).symm⟩, .inl ?_⟩
    · rw [process_silent quiet]
      rfl
    · rw [List.flatMap_singleton, total_cons, total_nil, add_zero]
      cases request with
      | single | metrics | healthz | benchmarkStop | config | shutdown => contradiction
      | logs | benchmarkStart => exact ⟨rfl, rfl⟩
      | batch body =>
        obtain ⟨result, ran, invalid⟩ := handle_silent env p quiet
        have none : eventsOf body.val = none := Option.map_eq_none_iff.mp quiet
        rw [ran, invalid body rfl]
        simp only [HttpAnswer.of, HttpObs.acknowledged, HttpObs.tally, none]
        exact ⟨rfl, rfl⟩
  | @fire env id after out fired =>
    obtain ⟨changes, executed, makes⟩ := step_makes fired
    obtain ⟨pushes, counts⟩ := exec_reads executed
    rw [flatMap_core _ (fun _ => rfl) fun _ => rfl] at pushes
    obtain ⟨none, zero⟩ := inside_silent out
    refine ⟨changes, ⟨by rw [process_inside]; exact pushes, counts⟩, ?_⟩
    rw [none, zero]
    cases active : p.engine.loadTestActive with
    | true => exact .inr ⟨rfl, rfl, .inr rfl⟩
    | false =>
      cases makes with
      | @fire env timer changes result live makes =>
        obtain ⟨quiet, still⟩ := makes.quiet active
        refine .inl ⟨?_, ?_⟩
        · rw [List.flatMap_append, quiet]
          cases result <;> rfl
        · rw [total_append, still]
          cases result <;> rfl

end Calls

/-! ### The load test is not active before it is started -/

section Inactive

variable {env : Env} {p after : Process}

/-- No load test is active. -/
def Process.Inactive (p : Process) : Prop := p.engine.loadTestActive = false

/-- None is active at the start. -/
theorem inactive_start (env : Env) : (Process.start env).Inactive := rfl

/-- `stopLoadTest` leaves none active. -/
theorem inactive_stopLoadTest : Keeps Process.Inactive (stopLoadTest env) := by
  intro p _
  simp only [stopLoadTest, run_bind, run_update, run_engine, run_clearTimer, run_addLog,
    andThen_ok, after_mk]
  rfl

/-- Neither does a request, unless it starts one. -/
theorem inactive_request {request : Request}
    (other : ∀ targetRps scenario, request ≠ .startLoadTest targetRps scenario) :
    Keeps Process.Inactive (request.call env) := by
  refine keeps_request env (fun _ => Iff.rfl) request ?_ inactive_stopLoadTest ?_ ?_
  · exact fun targetRps scenario same => absurd same (other targetRps scenario)
  · exact fun cfg _ =>
      keeps_of_view Process.exceptConfig (fun _ => Iff.rfl) fun _ => keeps_updateConfig env cfg
  · exact fun _ _ held => leaves_shutdown env (fun _ _ _ _ held => held) inactive_stopLoadTest
      (keeps_of_view Process.exceptFlush (fun _ => Iff.rfl) (keeps_triggerFlush env _))
      (fun _ held => held) held

/-- A timer does not start one. -/
theorem inactive_fire {id : Nat} {out : List Obs} (inactive : p.Inactive)
    (stepped : step p (.fire env id) = some (after, out)) : after.Inactive := by
  cases step_cases stepped with
  | @fire env timer alive live =>
    have kept : Keeps Process.Inactive (timer.task.callback env) := by
      refine loading_callback env (fun q e same held => ?_) (fun _ held => held) timer.task
      have active : e.loadTestActive = q.engine.loadTestActive :=
        congrArg (fun loading => loading.2.1) same
      exact active.trans held
    unfold Process.Inactive
    rw [(finish_state _).2]
    exact kept (p.fired env timer) inactive

variable {number : JsNum → String}

/-- The server starts one only in answer to a request for one. -/
theorem http_inactive {action : HttpAct} {out : List HttpObs} (inactive : p.Inactive)
    (stepped : httpStep number p action = some (after, out))
    (quiet : ∀ obs ∈ out, obs.hidden = false) : after.Inactive := by
  cases http_cases stepped with
  | @called env request called alive calls =>
    refine inactive_request (fun targetRps scenario starts => ?_) (p.begin env) inactive
    subst starts
    have answered := quiet _ (List.mem_append_right _ List.mem_cons_self)
    have same := congrArg Outcome.result (handle_call env p calls)
    obtain ⟨changes, makes⟩ : ∃ changes, Makes ((Request.startLoadTest targetRps scenario).call env)
        (p.begin env) changes (.ok ()) := ⟨[], startLoadTest_makes env (p.begin env) _ _⟩
    rw [makes.ended] at same
    cases request with
    | benchmarkStart body =>
      cases ran : ((HttpRequest.benchmarkStart body).handle number env).run p with
      | mk left shown result =>
        rw [ran] at same answered
        cases result with
        | error thrown => cases same
        | ok response => cases answered
    | batch body =>
      obtain ⟨events, _, other⟩ := Option.map_eq_some_iff.mp calls
      cases other
    | single | metrics | healthz | logs | benchmarkStop | config | shutdown => cases calls
  | silent => exact inactive
  | fire fired => exact inactive_fire inactive fired

end Inactive

/-! ### What the answers tell of a run -/

/-- What the answers of a run tell of the events pushed and of the counters. -/
structure Told (number : JsNum → String) (seen : List HttpObs) (p : Process) : Prop where
  /-- The events acknowledged were pushed, in the order of the answers. -/
  events : (seen.flatMap HttpObs.acknowledged).Sublist
    ((seen.flatMap (HttpObs.process number)).flatMap Obs.pushedEvents)
  /-- The counters count what the answers tell. -/
  counts : total HttpObs.tally seen ≤ p.core.counters
  /-- There is nothing else, unless something was hidden. -/
  whole : (∀ obs ∈ seen, obs.hidden = false) → p.Inactive ∧
    seen.flatMap HttpObs.acknowledged =
      (seen.flatMap (HttpObs.process number)).flatMap Obs.pushedEvents ∧
    total HttpObs.tally seen = p.core.counters

section Runs

variable {number : JsNum → String} {env : Env} {p after : Process} {seen out : List HttpObs}

/-- A step keeps what the answers tell. -/
theorem step_told {action : HttpAct} (told : Told number seen p)
    (stepped : httpStep number p action = some (after, out)) : Told number (seen ++ out) after := by
  obtain ⟨changes, ⟨pushes, counts⟩, tells⟩ := http_tells stepped
  have below : (out.flatMap HttpObs.acknowledged).Sublist (changes.flatMap Change.pushed) ∧
      total HttpObs.tally out ≤ total Change.tally changes := by
    rcases tells with ⟨events, tally⟩ | ⟨events, tally, _⟩
    · exact ⟨events ▸ List.Sublist.refl _, tally.le⟩
    · rw [events, tally]
      exact ⟨List.nil_sublist _, zero_le⟩
  constructor
  · rw [List.flatMap_append, List.flatMap_append, List.flatMap_append, pushes]
    exact told.events.append below.1
  · rw [total_append, counts]
    exact add_le_add told.counts below.2
  · intro quiet
    obtain ⟨inactive, same, equal⟩ :=
      told.whole fun obs member => quiet obs (List.mem_append_left _ member)
    have now : ∀ obs ∈ out, obs.hidden = false :=
      fun obs member => quiet obs (List.mem_append_right _ member)
    refine ⟨http_inactive inactive stepped now, ?_⟩
    rw [List.flatMap_append, List.flatMap_append, List.flatMap_append, pushes, total_append,
      counts, same, equal]
    rcases tells with ⟨events, tally⟩ | ⟨_, _, ⟨obs, member, hidden⟩ | active⟩
    · rw [events, tally]
      exact ⟨rfl, rfl⟩
    · rw [now obs member] at hidden
      contradiction
    · rw [inactive] at active
      contradiction

/-- A run keeps what the answers tell. -/
theorem run_told (run : (httpSystem number).AnyRun (.start env) seen p) : Told number seen p :=
  run.invariant (Told number) ⟨.slnil, le_rfl, fun _ => ⟨inactive_start env, rfl, rfl⟩⟩
    fun _ _ _ _ _ told _ stepped => step_told told stepped

/-- The events that the answers acknowledge are found, in the order of the answers, in the batches
flushed, the buffer and the queue. If no batch has thrown and no load test was started, nothing
else is there. -/
theorem acknowledged_delivered (number : JsNum → String) {env : Env} {seen : List HttpObs}
    {p : Process} (run : (httpSystem number).AnyRun (.start env) seen p) :
    (seen.flatMap HttpObs.acknowledged).Sublist
        ((seen.flatMap (HttpObs.process number)).flatMap Obs.flushedEvents ++
          p.engine.batchBuffer ++ p.engine.queue) ∧
      ((∀ obs ∈ seen, obs.hidden = false) → seen.flatMap HttpObs.acknowledged =
        (seen.flatMap (HttpObs.process number)).flatMap Obs.flushedEvents ++
          p.engine.batchBuffer ++ p.engine.queue) := by
  have inside : system.AnyRun (.start env) (seen.flatMap (HttpObs.process number)) p :=
    run_process (fun _ _ _ _ _ _ => trivial) (fun _ _ _ _ => trivial) run
  have told := run_told run
  have fifo : _ ++ p.engine.batchBuffer ++ p.engine.queue = _ := (run_conserves inside).fifo
  rw [fifo]
  exact ⟨told.events, fun quiet => (told.whole quiet).2.1⟩

/-- Two clients have three events accepted, of which a tick moves two into the buffer; a third sends
a batch whose second element is not an object, and the element before it stays. -/
theorem acknowledged_delivered_three : ∃ seen p,
    (httpSystem fun _ => "").AnyRun (.start (.calm 0)) seen p ∧
      (seen.flatMap HttpObs.acknowledged).length = 3 ∧ p.engine.batchBuffer.length = 2 ∧
      p.engine.queue.length = 2 ∧ (∃ obs ∈ seen, obs.hidden = true) ∧
      (seen.flatMap HttpObs.acknowledged).Sublist
        ((seen.flatMap (HttpObs.process fun _ => "")).flatMap Obs.flushedEvents ++
          p.engine.batchBuffer ++ p.engine.queue) := by
  obtain ⟨seen, p, run, passed⟩ := System.exec_witness (httpSystem fun _ => "") System.unguarded
    (.start (.calm 0))
    [.request (.calm 1) (.batch ⟨.obj [("events", .arr [plainEvent, .obj []])], rfl⟩),
      .fire (.calm 10) 0, .request (.calm 11) (.single ⟨plainEvent, rfl⟩),
      .request (.calm 12) (.batch ⟨.obj [("events", .arr [plainEvent, .null])], rfl⟩)]
    (fun (p, seen) => (seen.flatMap HttpObs.acknowledged).length = 3 &&
      p.engine.batchBuffer.length = 2 && p.engine.queue.length = 2 &&
      seen.any HttpObs.hidden) (by decide +kernel)
  simp only [Bool.and_eq_true, decide_eq_true_eq, List.any_eq_true] at passed
  obtain ⟨⟨⟨acknowledged, buffered⟩, queued⟩, hidden⟩ := passed
  exact ⟨seen, p, run, acknowledged, buffered, queued, hidden,
    (acknowledged_delivered _ run).1⟩

/-- What the answers of a run tell together. -/
theorem total_tally (seen : List HttpObs) :
    total HttpObs.tally seen = ((total HttpObs.told seen).1, (total HttpObs.told seen).2,
      total HttpObs.limited seen + total HttpObs.limitedEvents seen) := by
  induction seen with
  | nil => rfl
  | cons obs rest ih =>
    simp only [total_cons, ih, HttpObs.tally, Prod.mk_add_mk, Prod.fst_add, Prod.snd_add]
    rw [add_add_add_comm]

/-- `totalAccepted` and `totalDropped` are at least what the answers report as accepted and as
dropped, and `rateLimitedRequests` is at least the number of answers with 429 together with the
events of the batches that were so answered. They are exactly that if no batch has thrown and no
load test was started. -/
theorem answers_account (number : JsNum → String) {env : Env} {seen : List HttpObs} {p : Process}
    (run : (httpSystem number).AnyRun (.start env) seen p) :
    (total HttpObs.told seen ≤ (p.engine.totalAccepted, p.engine.totalDropped) ∧
        total HttpObs.limited seen + total HttpObs.limitedEvents seen ≤
          p.engine.rateLimitedRequests) ∧
      ((∀ obs ∈ seen, obs.hidden = false) →
        total HttpObs.told seen = (p.engine.totalAccepted, p.engine.totalDropped) ∧
          total HttpObs.limited seen + total HttpObs.limitedEvents seen =
            p.engine.rateLimitedRequests) := by
  have told := run_told run
  constructor
  · have counts : total HttpObs.tally seen ≤ (p.engine.totalAccepted, p.engine.totalDropped,
        p.engine.rateLimitedRequests) := told.counts
    rw [total_tally] at counts
    exact ⟨⟨counts.1, counts.2.1⟩, counts.2.2⟩
  · intro quiet
    have whole : total HttpObs.tally seen = (p.engine.totalAccepted, p.engine.totalDropped,
        p.engine.rateLimitedRequests) := (told.whole quiet).2.2
    simp only [total_tally, Prod.mk.injEq] at whole
    exact ⟨Prod.ext whole.1 whole.2.1, whole.2.2⟩

/-- With three tokens, one event is accepted, one has no message, a batch of two is accepted, and
the next two requests are answered with 429: the single event counts once, the batch of two events
three times. -/
theorem answers_account_refused : ∃ seen p,
    (httpSystem fun _ => "").AnyRun (.start (.calm 0)) seen p ∧
      total HttpObs.told seen = (3, 0) ∧ total HttpObs.limited seen = 2 ∧
      total HttpObs.limitedEvents seen = 2 ∧
      (p.engine.totalAccepted, p.engine.totalDropped) = (3, 0) ∧
      p.engine.rateLimitedRequests = 4 := by
  obtain ⟨seen, p, run, passed⟩ := System.exec_witness (httpSystem fun _ => "") System.unguarded
    (.start (.calm 0))
    [.request (.calm 0) (.config
        ⟨.obj [("rateLimitBurst", .num 3), ("rateLimitRps", .num 1)], rfl⟩),
      .request (.calm 1) (.single ⟨plainEvent, rfl⟩),
      .request (.calm 1) (.single ⟨.obj [("service", .str "auth-svc")], rfl⟩),
      .request (.calm 1) .healthz,
      .request (.calm 1) (.batch ⟨.obj [("events", .arr [plainEvent, .obj []])], rfl⟩),
      .request (.calm 1) (.single ⟨plainEvent, rfl⟩),
      .request (.calm 1) (.batch ⟨.obj [("events", .arr [plainEvent, plainEvent])], rfl⟩)]
    (fun (_, seen) => total HttpObs.told seen = (3, 0) && total HttpObs.limited seen = 2 &&
      total HttpObs.limitedEvents seen = 2 && seen.all fun obs => !obs.hidden)
    (by decide +kernel)
  simp only [Bool.and_eq_true, decide_eq_true_eq, List.all_eq_true, Bool.not_eq_true'] at passed
  obtain ⟨⟨⟨told, limited⟩, events⟩, quiet⟩ := passed
  obtain ⟨counted, refused⟩ := (answers_account _ run).2 quiet
  rw [told] at counted
  rw [limited, events] at refused
  exact ⟨seen, p, run, told, limited, events, counted.symm, refused.symm⟩

end Runs

end IngestionEngine.Server
