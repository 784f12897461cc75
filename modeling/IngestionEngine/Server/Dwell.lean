import IngestionEngine.Server.Conservation
import IngestionEngine.Server.Ticker

/-!
# How long events stay in the buffer

A tick of the ticker flushes the buffer when the window has passed since the last flush, and no
event of the buffer came before that flush. So an event is flushed within the window and one period
of the ticker, as long as `updateConfig` does not restart the ticker, and so put its next tick off,
when the event has been there for longer than the window.
-/

namespace IngestionEngine.Server

open Systems Program

/-- When each event of the buffer came into it, after an observation. -/
def Obs.entered (arrivals : List Int) : Obs → List Int
  | .moved clock events | .drained clock events => arrivals ++ events.map fun _ => clock
  | .flushed _ _ _ _ _ => []
  | _ => arrivals

/-- How long the events of a flush had been in the buffer. -/
def Obs.dwells (arrivals : List Int) : Obs → List Int
  | .flushed clock _ _ _ _ => arrivals.map fun arrival => clock - arrival
  | _ => []

/-- How long the events of all flushes had been in the buffer. -/
def dwells : List Int → List Obs → List Int
  | _, [] => []
  | arrivals, obs :: rest => obs.dwells arrivals ++ dwells (obs.entered arrivals) rest

/-- The process, with the time at which each event of the buffer came into it. -/
structure Dwelling where
  /-- The process. -/
  process : Process
  /-- The times. -/
  arrivals : List Int

/-- The process, which shows how long each event that it flushes had been in the buffer. -/
def dwellSystem : System Dwelling Act Int where
  step d action :=
    (step d.process action).map fun (after, out) =>
      (⟨after, out.foldl Obs.entered d.arrivals⟩, dwells d.arrivals out)

/-- The observation begins: what is in the buffer counts from now on. -/
def Dwelling.begin (q : Process) : Dwelling :=
  ⟨q, q.engine.batchBuffer.map fun _ => q.loop.time⟩

/-- The clock does not go back, and an interval fires when it is due: nothing happens after that
until it has fired, and it does not fire before. -/
def Punctual (p : Process) (action : Act) : Prop :=
  Onward p action ∧ ∀ timer ∈ p.loop.timers, timer.period ≠ none →
    action.clock ≤ timer.due ∧ (action.fires timer.id = true → timer.due ≤ action.clock)

/-- An action on time, while the window is the given one. -/
def SameWindow (window : ℚ) (d : Dwelling) (action : Act) : Prop :=
  Punctual d.process action ∧ d.process.engine.batchFlushWindowMs = .fin window

/-- And it does not restart the ticker when an event has been in the buffer for longer than the
window. -/
def RestartsEarly (window : ℚ) (d : Dwelling) (action : Act) : Prop :=
  SameWindow window d action ∧
    (action.restarts = true → ∀ arrival ∈ d.arrivals, (action.clock : ℚ) ≤ arrival + window)

instance (p : Process) (action : Act) : Decidable (Punctual p action) :=
  inferInstanceAs (Decidable (Onward p action ∧ ∀ timer ∈ p.loop.timers, timer.period ≠ none →
    action.clock ≤ timer.due ∧ (action.fires timer.id = true → timer.due ≤ action.clock)))

instance (window : ℚ) (d : Dwelling) (action : Act) : Decidable (SameWindow window d action) :=
  inferInstanceAs (Decidable (Punctual d.process action ∧ _ = _))

instance (window : ℚ) (d : Dwelling) (action : Act) : Decidable (RestartsEarly window d action) :=
  inferInstanceAs (Decidable (SameWindow window d action ∧
    (action.restarts = true → ∀ arrival ∈ d.arrivals, (action.clock : ℚ) ≤ arrival + window)))

/-- No event stays in the buffer for longer than the window and 50 ms. -/
structure Prompt (window : ℚ) (seen : List Int) (d : Dwelling) : Prop where
  /-- The events that were flushed. -/
  flushed : ∀ dwell ∈ seen, (dwell : ℚ) ≤ window + 50
  /-- The events that are in the buffer. -/
  buffered : ∀ arrival ∈ d.arrivals,
    ((d.process.loop.time - arrival : Int) : ℚ) ≤ window + 50

/-! ### What the observations of a step say -/

/-- The observation is of the given time, if it is of the buffer. -/
def Obs.At (time : Int) : Obs → Prop
  | .moved clock _ | .drained clock _ | .flushed clock _ _ _ _ => clock = time
  | _ => True

/-- The change is of the given time, if it is of the buffer. -/
def Change.At (time : Int) : Change → Prop
  | .move clock _ | .drain clock => clock = time
  | .flush env _ => env.clock = time
  | _ => True

/-- A change shows its own time. -/
theorem shows_at {time : Int} {change : Change} {obs : Obs} (own : change.At time)
    (shows : change.Shows obs) : obs.At time := by
  cases change with
  | touch | refill | refuseBatch | drop | setRps | setBurst | capTokens => exact shows.elim
  | spend | refuse | push =>
    rw [show obs = _ from shows]
    trivial
  | move | drain =>
    obtain ⟨_, rfl⟩ := shows
    exact own
  | flush =>
    obtain ⟨_, _, _, rfl⟩ := shows
    exact own
  | finish shown =>
    obtain ⟨rfl, ends⟩ := shows
    cases obs with
    | moved | drained | flushed => contradiction
    | limited | pushed | logged | latency | single | batch | metrics | shutdown | threw
    | crashed => trivial

section Steps

variable {p after : Process} {action : Act} {out : List Obs}

/-- A step makes changes of its own time. -/
theorem Change.Made.at {change : Change} (made : change.Made p action) :
    change.At action.clock := by
  cases made with
  | still quiet =>
    cases change with
    | move | drain | flush => contradiction
    | touch | refill | spend | refuse | refuseBatch | push | drop | setRps | setBurst | capTokens
    | finish => trivial
  | batch _ member | loadTest _ _ _ _ member =>
    exact batchChanges_each (fun change => change.At _) trivial (fun _ => trivial) _ _ _ _ _ member
  | single | returned => trivial
  | move | threshold | window | drain | last => rfl

/-- The observations of a step are of its time. -/
theorem step_at (stepped : step p action = some (after, out)) :
    ∀ obs ∈ out, obs.At action.clock := by
  intro obs member
  have seen (core : obs.core = [obs]) : obs.At action.clock := by
    have inside : obs ∈ out.flatMap Obs.core := by
      apply List.mem_flatMap.mpr
      refine ⟨obs, member, ?_⟩
      rw [core]
      exact List.mem_singleton_self obs
    obtain ⟨change, made, shows⟩ := step_made stepped inside
    exact shows_at made.at shows
  cases obs with
  | logged | latency => trivial
  | limited | pushed | moved | drained | flushed | single | batch | metrics | shutdown | threw
  | crashed => exact seen rfl

end Steps

section Arrivals

variable {time : Int} {arrivals : List Int} {out : List Obs}

/-- An event that is in the buffer came at the time of the step, or it was there before and nothing
was flushed. -/
theorem mem_arrivals (timed : ∀ obs ∈ out, obs.At time) {arrival : Int}
    (member : arrival ∈ out.foldl Obs.entered arrivals) :
    arrival = time ∨ (arrival ∈ arrivals ∧ out.flatMap Obs.flushes = []) := by
  induction out generalizing arrivals with
  | nil => exact .inr ⟨member, rfl⟩
  | cons obs rest ih =>
    obtain ⟨own, others⟩ := List.forall_mem_cons.mp timed
    have added {clock : Int} {events : List TelemetryEvent} (now : clock = time)
        (inside : arrival ∈ arrivals ++ events.map fun _ => clock) :
        arrival = time ∨ arrival ∈ arrivals := by
      rcases List.mem_append.mp inside with old | new
      · exact .inr old
      · obtain ⟨_, _, rfl⟩ := List.mem_map.mp new
        exact .inl now
    rcases ih others member with now | ⟨before, quiet⟩
    · exact .inl now
    · rw [List.flatMap_cons, quiet, List.append_nil]
      cases obs with
      | moved clock events | drained clock events =>
        exact (added own before).imp_right fun old => ⟨old, rfl⟩
      | flushed => contradiction
      | limited | pushed | logged | latency | single | batch | metrics | shutdown | threw
      | crashed => exact .inr ⟨before, rfl⟩

/-- An event that is flushed came at the time of the step, or it was there before. -/
theorem mem_dwells (timed : ∀ obs ∈ out, obs.At time) {dwell : Int}
    (member : dwell ∈ dwells arrivals out) :
    ∃ arrival, (arrival = time ∨ arrival ∈ arrivals) ∧ dwell = time - arrival := by
  induction out generalizing arrivals with
  | nil => contradiction
  | cons obs rest ih =>
    obtain ⟨own, others⟩ := List.forall_mem_cons.mp timed
    rcases List.mem_append.mp member with now | later
    · cases obs with
      | flushed clock =>
        obtain ⟨arrival, before, rfl⟩ := List.mem_map.mp now
        have same : clock = time := own
        rw [same]
        exact ⟨arrival, .inr before, rfl⟩
      | limited | pushed | moved | drained | logged | latency | single | batch | metrics
      | shutdown | threw | crashed => contradiction
    · obtain ⟨arrival, came, rfl⟩ := ih others later
      refine ⟨arrival, ?_, rfl⟩
      rcases came with same | inside
      · exact .inl same
      · have one : arrival ∈ [obs].foldl Obs.entered arrivals := inside
        exact (mem_arrivals (List.forall_mem_singleton.mpr own) one).imp_right And.left

/-- The log and the latencies say nothing about the buffer. -/
theorem arrivals_core (seen : List Obs) :
    (seen.flatMap Obs.core).foldl Obs.entered arrivals = seen.foldl Obs.entered arrivals := by
  induction seen generalizing arrivals with
  | nil => rfl
  | cons first rest ih =>
    rw [List.flatMap_cons, List.foldl_append, ih, List.foldl_cons]
    cases first <;> rfl

/-- A change of the core leaves an arrival for each event of the buffer, and counts its flush. -/
theorem change_arrives {c next : Core} {change : Change}
    (stepped : c.step change = some (next, out))
    (count : arrivals.length = c.batchBuffer.length) :
    (out.foldl Obs.entered arrivals).length = next.batchBuffer.length ∧
      next.totalBatchesFlushed = c.totalBatchesFlushed + (out.flatMap Obs.flushes).length := by
  cases core_cases stepped with
  | touch | refill | spend | refuse | refuseBatch | push | drop | setRps | setBurst
  | capTokens => exact ⟨count, rfl⟩
  | flush => exact ⟨rfl, rfl⟩
  | move | drain => simp [Obs.entered, Obs.flushes, count]
  | @finish shown ends =>
    cases shown with
    | moved | drained | flushed => contradiction
    | limited | pushed | logged | latency | single | batch | metrics | shutdown | threw
    | crashed => exact ⟨count, rfl⟩

/-- So does a step of the process. -/
theorem step_arrives {p after : Process} {action : Act}
    (stepped : step p action = some (after, out))
    (count : arrivals.length = p.engine.batchBuffer.length) :
    (out.foldl Obs.entered arrivals).length = after.engine.batchBuffer.length ∧
      after.engine.totalBatchesFlushed =
        p.engine.totalBatchesFlushed + (out.flatMap Obs.flushes).length := by
  obtain ⟨changes, executed, _⟩ := step_makes stepped
  let holds (seen : List Obs) (c : Core) : Prop :=
    (seen.foldl Obs.entered arrivals).length = c.batchBuffer.length ∧
      c.totalBatchesFlushed = p.engine.totalBatchesFlushed + (seen.flatMap Obs.flushes).length
  have initially : holds [] p.core := ⟨count, rfl⟩
  have left : holds (out.flatMap Obs.core) after.core := by
    refine (System.exec_run executed).invariant holds initially ?_
    rintro seen c change next shown ⟨same, batches⟩ _ moved
    obtain ⟨arrived, more⟩ := change_arrives moved same
    refine ⟨?_, ?_⟩
    · rw [List.foldl_append]
      exact arrived
    · rw [more, batches, List.flatMap_append, List.length_append, Nat.add_assoc]
  obtain ⟨arrived, batches⟩ := left
  rw [arrivals_core] at arrived
  rw [flatMap_core _ (fun _ => rfl) fun _ => rfl] at batches
  exact ⟨arrived, batches⟩

end Arrivals

/-! ### The bound -/

/-- A tick that finds the window passed is a flush. -/
theorem run_flushTick {env : Env} {p : Process} (passed : 0 < p.engine.batchBuffer.length ∧
      p.engine.batchFlushWindowMs.le (.fin (env.clock - p.engine.lastFlushTime : Int)) = true) :
    (flushTick env).run p = (triggerFlush env .windowTimeout).run p := by
  simp only [flushTick, run_bind, run_engine, andThen_ok, run_onlyIf, if_pos passed]
  rfl

/-- A tick of the ticker that flushes nothing finds that the window has not passed since the last
flush. -/
theorem tick_waits {p after : Process} {action : Act} {out : List Obs} {ticker : Timer Task}
    {window : ℚ} (live : ticker ∈ p.loop.timers) (flushes : ticker.task = .flush)
    (fires : action.fires ticker.id = true) (stepped : step p action = some (after, out))
    (set : p.engine.batchFlushWindowMs = .fin window) (some : p.engine.batchBuffer.length ≠ 0)
    (same : after.engine.totalBatchesFlushed = p.engine.totalBatchesFlushed) :
    ((action.clock - p.engine.lastFlushTime : Int) : ℚ) < window := by
  cases action with
  | request env request => contradiction
  | fire env id =>
    have named : id = ticker.id := of_decide_eq_true fires
    subst named
    have ran := fire_flush live flushes stepped
    have engine : after.engine = ((flushTick env).run (p.fired env ticker)).state.engine := by
      rw [(Prod.mk.inj ran).1]
      exact (finish_state _).2
    by_contra late
    have passed : 0 < p.engine.batchBuffer.length ∧ p.engine.batchFlushWindowMs.le
        (.fin (env.clock - p.engine.lastFlushTime : Int)) = true := by
      refine ⟨Nat.pos_of_ne_zero some, ?_⟩
      rw [set, JsNum.le_fin]
      exact not_lt.mp late
    have flushed := run_flushTick (p := p.fired env ticker) passed
    have more := (triggerFlush_leaves env (p := p.fired env ticker) .windowTimeout some).2
    rw [← flushed, ← engine, same] at more
    have grown : p.engine.totalBatchesFlushed = p.engine.totalBatchesFlushed + 1 := more
    omega

/-- Every event of the buffer came no sooner than the last flush, and the ticker is due before it
stays too long. -/
structure Dwelling.Sound (window : ℚ) (d : Dwelling) : Prop where
  /-- The ticker and the last flush. -/
  paced : d.process.Paced
  /-- There is a time for each event of the buffer. -/
  count : d.arrivals.length = d.process.engine.batchBuffer.length
  /-- No event came before the last flush. -/
  since : ∀ arrival ∈ d.arrivals, d.process.engine.lastFlushTime ≤ arrival
  /-- The ticker. -/
  ticker : ∃ ticker ∈ d.process.loop.timers, ticker.task = .flush ∧
    ticker.due ≤ d.process.loop.time + 50 ∧
      ∀ arrival ∈ d.arrivals, (ticker.due : ℚ) ≤ arrival + window + 50

/-- An observation that begins is sound. -/
theorem begin_sound {window : ℚ} {q : Process} (nonneg : 0 ≤ window) (paced : q.Paced) :
    (Dwelling.begin q).Sound window := by
  have now {arrival : Int} (member : arrival ∈ (Dwelling.begin q).arrivals) :
      arrival = q.loop.time := by
    obtain ⟨_, _, rfl⟩ := List.mem_map.mp member
    rfl
  refine ⟨paced, List.length_map _, fun arrival member => ?_, ?_⟩
  · rw [now member]
    exact paced.last
  · obtain ⟨ticker, live, flushes, due⟩ := paced.ticker
    refine ⟨ticker, live, flushes, due, fun arrival member => ?_⟩
    have soon : (ticker.due : ℚ) ≤ q.loop.time + 50 := by exact_mod_cast due
    rw [now member]
    linarith only [soon, nonneg]

/-- A step on time that restarts the ticker early, if at all, flushes no event late and leaves none
waiting for too long. -/
theorem step_dwells {window : ℚ} {d after : Dwelling} {action : Act} {shown : List Int}
    (nonneg : 0 ≤ window) (sound : d.Sound window) (permitted : RestartsEarly window d action)
    (stepped : dwellSystem.step d action = some (after, shown)) :
    after.Sound window ∧ Prompt window shown after := by
  obtain ⟨⟨⟨onward, punctual⟩, set⟩, early⟩ := permitted
  obtain ⟨⟨next, out⟩, moved, same⟩ := Option.map_eq_some_iff.mp stepped
  obtain ⟨rfl, rfl⟩ := Prod.mk.inj same
  obtain ⟨paced, count, since, ticker, live, flushes, due, soon⟩ := sound
  have now : next.loop.time = action.clock := step_time moved
  have later : d.process.loop.time ≤ action.clock := onward
  have timed := step_at moved
  obtain ⟨arrived, batches⟩ := step_arrives moved count
  have nextPaced := step_paced paced onward moved
  -- nothing happens after the ticker is due, so no event is older than that
  have interval : ticker.period ≠ none := by
    rw [paced.sound.periods ticker live, flushes]
    exact Option.some_ne_none 50
  have before : (action.clock : ℚ) ≤ ticker.due := by
    exact_mod_cast (punctual ticker live interval).1
  have bound (arrival : Int) (came : arrival = action.clock ∨ arrival ∈ d.arrivals) :
      ((action.clock - arrival : Int) : ℚ) ≤ window + 50 := by
    push_cast
    rcases came with rfl | old
    · linarith only [nonneg]
    · have ahead := soon arrival old
      linarith only [ahead, before]
  have unflushed (quiet : out.flatMap Obs.flushes = []) :
      next.engine.totalBatchesFlushed = d.process.engine.totalBatchesFlushed := by
    rw [batches, quiet, List.length_nil, Nat.add_zero]
  refine ⟨⟨nextPaced, arrived, ?_, ?_⟩, ?_, ?_⟩
  · intro arrival member
    show next.engine.lastFlushTime ≤ arrival
    rcases mem_arrivals timed member with rfl | ⟨old, quiet⟩
    · rw [← now]
      exact nextPaced.last
    · have kept := unflushed quiet
      rcases step_lastFlush moved with ⟨last, _⟩ | ⟨_, more⟩
      · rw [last]
        exact since arrival old
      · omega
  · obtain ⟨again, pending, ticks, when⟩ := step_ticker paced.sound live flushes moved
    refine ⟨again, pending, ticks, ?_, fun arrival member => ?_⟩
    · show again.due ≤ next.loop.time + 50
      rcases when with kept | ⟨renewed, _⟩ <;> omega
    · rcases mem_arrivals timed member with rfl | ⟨old, quiet⟩
      · have near : again.due ≤ action.clock + 50 := by
          rcases when with kept | ⟨renewed, _⟩ <;> omega
        have cast : (again.due : ℚ) ≤ action.clock + 50 := by exact_mod_cast near
        linarith only [cast, nonneg]
      · rcases when with kept | ⟨renewed, fired | restarted⟩
        · rw [kept]
          exact soon arrival old
        · -- the tick has found that the window has not passed since the last flush
          have some : d.process.engine.batchBuffer.length ≠ 0 := by
            rw [← count]
            exact Nat.ne_of_gt (List.length_pos_of_mem old)
          have waits := tick_waits live flushes fired moved set some (unflushed quiet)
          have last : (d.process.engine.lastFlushTime : ℚ) ≤ arrival := by
            exact_mod_cast since arrival old
          rw [renewed]
          push_cast at waits ⊢
          linarith only [waits, last]
        · have fresh := early restarted arrival old
          rw [renewed]
          push_cast
          linarith only [fresh]
  · intro dwell member
    obtain ⟨arrival, came, rfl⟩ := mem_dwells timed member
    exact bound arrival came
  · intro arrival member
    show ((next.loop.time - arrival : Int) : ℚ) ≤ window + 50
    rw [now]
    exact bound arrival ((mem_arrivals timed member).imp_right And.left)

section Runs

variable {start : Env} {before : List Obs} {q : Process} {window : ℚ}

/-- From any state that a run has reached, while the window stays the same and every interval fires
when it is due, no event stays in the buffer for longer than the window and one period of the
ticker, as long as no request restarts the ticker when an event has been there for longer than the
window. -/
theorem dwell_bounded (run : system.Run Onward (.start start) before q)
    (set : q.engine.batchFlushWindowMs = .fin window) {seen : List Int} {d : Dwelling}
    (dwelling : dwellSystem.Run (RestartsEarly window) (.begin q) seen d) :
    Prompt window seen d := by
  have least : Field.batchFlushWindowMs.low ≤ window := run_above run .batchFlushWindowMs window set
  have nonneg : 0 ≤ window := le_trans (by norm_num [Field.low]) least
  have first := begin_sound nonneg (run_paced run)
  suffices held : d.Sound window ∧ Prompt window seen d from held.2
  refine dwelling.invariant (fun seen d => d.Sound window ∧ Prompt window seen d) ⟨first, ?_⟩ ?_
  · refine ⟨by simp, fun arrival member => ?_⟩
    obtain ⟨_, _, rfl⟩ := List.mem_map.mp member
    show ((q.loop.time - q.loop.time : Int) : ℚ) ≤ window + 50
    rw [sub_self, Int.cast_zero]
    linarith only [nonneg]
  · rintro seen d action after shown ⟨sound, prompt⟩ permitted stepped
    obtain ⟨kept, now⟩ := step_dwells nonneg sound permitted stepped
    refine ⟨kept, ?_, now.buffered⟩
    exact List.forall_mem_append.mpr ⟨prompt.flushed, now.flushed⟩

end Runs

/-- A request that sets the window to 20 ms. -/
def narrowWindow : Request := .updateConfig (.obj [("batchFlushWindowMs", .num 20)])

/-- A process whose window was set to 20 ms before anything else. -/
def Process.narrow : Process :=
  ((narrowWindow.call (.calm 0)).run ((Process.start (.calm 0)).begin (.calm 0))).state

/-- A run reaches it. -/
theorem narrow_reached : ∃ before, system.Run Onward (.start (.calm 0)) before .narrow := by
  have onward : Onward (.start (.calm 0)) (.request (.calm 0) narrowWindow) := le_refl (0 : Int)
  have stepped : step (.start (.calm 0)) (.request (.calm 0) narrowWindow) = some (.narrow, _) :=
    step_request_state rfl
  exact ⟨_, .next .start onward stepped⟩

/-- An event comes into the buffer at 10 ms. The ticker is restarted 20 ms later, and flushes the
event when it has been there for 70 ms. -/
theorem dwell_bounded_restart : ∃ before q seen d,
    system.Run Onward (.start (.calm 0)) before q ∧ q.engine.batchFlushWindowMs = .fin 20 ∧
      dwellSystem.Run (RestartsEarly 20) (.begin q) seen d ∧ 70 ∈ seen ∧ Prompt 20 seen d := by
  obtain ⟨before, run⟩ := narrow_reached
  have set : Process.narrow.engine.batchFlushWindowMs = .fin 20 := by decide +kernel
  obtain ⟨seen, d, dwelling, passed⟩ := System.exec_witness dwellSystem (RestartsEarly 20)
    (.begin .narrow)
    [.request (.calm 0) (.ingestSingle plainEvent), .fire (.calm 10) 0, .fire (.calm 18) 4,
      .fire (.calm 20) 0, .fire (.calm 30) 0, .request (.calm 30) narrowWindow,
      .fire (.calm 40) 0, .fire (.calm 50) 0, .fire (.calm 60) 0, .fire (.calm 70) 0,
      .fire (.calm 80) 0, .fire (.calm 80) 5]
    (fun (_, seen) => 70 ∈ seen) (by decide +kernel)
  exact ⟨before, _, seen, d, run, set, dwelling, of_decide_eq_true passed,
    dwell_bounded run set dwelling⟩

/-- A restart 35 ms after the event came into the buffer puts the next tick off to when it has been
there for 85 ms. -/
theorem dwell_exceeded : ∃ before q seen d,
    system.Run Onward (.start (.calm 0)) before q ∧ q.engine.batchFlushWindowMs = .fin 20 ∧
      dwellSystem.Run (SameWindow 20) (.begin q) seen d ∧ 85 ∈ seen ∧ ¬ Prompt 20 seen d := by
  obtain ⟨before, run⟩ := narrow_reached
  have set : Process.narrow.engine.batchFlushWindowMs = .fin 20 := by decide +kernel
  obtain ⟨seen, d, dwelling, passed⟩ := System.exec_witness dwellSystem (SameWindow 20)
    (.begin .narrow)
    [.request (.calm 0) (.ingestSingle plainEvent), .fire (.calm 10) 0, .fire (.calm 18) 4,
      .fire (.calm 20) 0, .fire (.calm 30) 0, .fire (.calm 40) 0,
      .request (.calm 45) narrowWindow, .fire (.calm 50) 0, .fire (.calm 60) 0,
      .fire (.calm 70) 0, .fire (.calm 80) 0, .fire (.calm 90) 0, .fire (.calm 95) 5]
    (fun (_, seen) => 85 ∈ seen) (by decide +kernel)
  have late : 85 ∈ seen := of_decide_eq_true passed
  refine ⟨before, _, seen, d, run, set, dwelling, late, fun prompt => ?_⟩
  have bound := prompt.flushed 85 late
  norm_num at bound

end IngestionEngine.Server
