import IngestionEngine.Server.Limiter

/-!
# The limiter as a meter

At finite rates the limiter is a number of tokens and the time of the last look at them. A step of
the process looks at them, draws a cost from them, or leaves them alone, whatever else it does, so
the process is a meter as far as its limiter is concerned.
-/

namespace IngestionEngine.Server

open Systems Program

/-- A finite number is at most the smaller of two numbers when it is at most both. -/
theorem JsNum.le_min {cost : ℚ} {a b : JsNum} :
    (fin cost).le (a.min b) = true ↔ (fin cost).le a = true ∧ (fin cost).le b = true := by
  cases a with
  | nan => simp [JsNum.min, le]
  | fin a =>
    cases b with
    | nan => simp [JsNum.min, le]
    | fin b => rw [min_fin, le_fin, le_fin, le_fin, le_min_iff]
    | posInf | negInf => simp [JsNum.min, le]
  | posInf | negInf => cases b <;> simp [JsNum.min, le]

/-! ### Meters -/

/-- What the calls of the limiter change. -/
structure Meter where
  /-- `availableTokens` -/
  tokens : JsNum
  /-- `lastRefillTime` -/
  time : Int

/-- What a step does with the meter. -/
inductive Use where
  /-- It leaves the meter alone. -/
  | none
  /-- It refills the meter. -/
  | look
  /-- It refills the meter, and takes the cost from it if there is enough. -/
  | draw (cost : JsNum)
  deriving DecidableEq

namespace Meter

variable (rps burst : ℚ) (m : Meter) (clock : Int)

/-- The tokens after a refill. -/
def level : JsNum :=
  (JsNum.fin burst).min (m.tokens.add (.fin ((seconds clock - seconds m.time) * rps)))

/-- The meter after a refill. -/
def look : Meter := ⟨m.level rps burst clock, clock⟩

/-- The meter after a call. -/
def draw (cost : JsNum) : Meter :=
  if cost.le (m.level rps burst clock) then ⟨(m.level rps burst clock).sub cost, clock⟩
  else m.look rps burst clock

/-- The meter after a step. -/
def after : Use → Meter
  | .none => m
  | .look => m.look rps burst clock
  | .draw cost => m.draw rps burst clock cost

/-- Whether the limiter admits the call of a step. -/
def decisions : Use → List Bool
  | .none | .look => []
  | .draw cost => [cost.le (m.level rps burst clock)]

end Meter

/-- The use that a request makes of the limiter. -/
def Request.use : Request → Use
  | .ingestSingle _ => .draw 1
  | .ingestBatch events => .draw (batchCost events.length)
  | .getMetrics => .look
  | .startLoadTest _ _ | .stopLoadTest | .updateConfig _ | .simulateGracefulShutdown => .none

/-- The use that the callback of a timer makes of the limiter. -/
def Task.use (env : Env) (e : Engine) : Task → Use
  | .loadTest eventsPerTick =>
    if e.loadTestActive then
      (loadTestCount env e eventsPerTick).elim .none fun count => .draw (batchCost count)
    else .none
  | .workers | .release | .flush | .metrics | .reset => .none

/-- The use that a step makes of the limiter. -/
def Process.use (p : Process) : Act → Use
  | .request _ request => request.use
  | .fire env id => (p.loop.find id).elim .none fun timer => timer.task.use env p.engine

/-- Whether the limiter admitted a call. -/
def Obs.decision : Obs → List Bool
  | .limited _ _ allowed => [allowed]
  | _ => []

/-- The meter of the core. -/
def Core.meter (c : Core) : Meter := ⟨c.availableTokens, c.lastRefillTime⟩

/-- The rates of the limiter are these finite numbers. -/
structure Core.AtRates (c : Core) (rps burst : ℚ) : Prop where
  /-- `rateLimitRps` -/
  rate : c.rateLimitRps.toNumber = .ok (.fin rps)
  /-- `rateLimitBurst` -/
  limit : c.rateLimitBurst.toNumber = .ok (.fin burst)

/-! ### What each change does to the meter -/

/-- The change does not concern the limiter. -/
def Change.free : Change → Bool
  | .refuseBatch _ | .push _ _ | .drop | .move _ _ | .drain _ | .flush _ _ | .finish _ => true
  | .touch _ | .refill _ | .spend _ _ | .refuse _ _ | .setRps _ | .setBurst _ | .capTokens _ =>
    false

section Changes

variable {rps burst : ℚ} {c after : Core} {clock : Int} {changes : List Change} {out : List Obs}

/-- The tokens after a refill at finite rates. -/
theorem tokensAt_level (rates : c.AtRates rps burst) (clock : Int) :
    c.tokensAt clock = .ok (c.meter.level rps burst clock) := by
  unfold Core.tokensAt
  rw [rates.rate, rates.limit, seconds_sub]
  rfl

/-- Changes that do not concern the limiter leave the bucket alone and show no decision. -/
theorem exec_free (free : ∀ change ∈ changes, change.free = true)
    (executed : coreSystem.exec System.unguarded c changes = some (after, out)) :
    after.bucket = c.bucket ∧ out.flatMap Obs.decision = [] := by
  induction changes generalizing c out with
  | nil =>
    simp only [System.exec, Option.some.injEq, Prod.mk.injEq] at executed
    obtain ⟨rfl, rfl⟩ := executed
    exact ⟨rfl, rfl⟩
  | cons change rest ih =>
    obtain ⟨own, others⟩ := List.forall_mem_cons.mp free
    obtain ⟨_, middle, first, later, stepped, tail, rfl⟩ := System.exec_cons executed
    obtain ⟨kept, silent⟩ := ih others tail
    have moved : c.step change = some (middle, first) := stepped
    have same : middle.bucket = c.bucket ∧ first.flatMap Obs.decision = [] := by
      cases core_cases moved with
      | touch | refill | spend | refuse | setRps | setBurst | capTokens => contradiction
      | flush | refuseBatch | push | drop | move | drain => exact ⟨rfl, rfl⟩
      | @finish shown ends =>
        cases shown with
        | limited | pushed | moved | drained | flushed | logged | latency => contradiction
        | single | batch | metrics | shutdown | threw | crashed => exact ⟨rfl, rfl⟩
    rw [List.flatMap_append, same.2, silent]
    exact ⟨kept.trans same.1, rfl⟩

/-- The bucket holds the rates and the meter. -/
theorem rates_of_bucket (rates : c.AtRates rps burst) (same : after.bucket = c.bucket) :
    after.AtRates rps burst ∧ after.meter = c.meter := by
  simp only [Core.bucket, Prod.mk.injEq] at same
  obtain ⟨rate, limit, tokens, time⟩ := same
  refine ⟨⟨?_, ?_⟩, ?_⟩
  · rw [rate]
    exact rates.rate
  · rw [limit]
    exact rates.limit
  · rw [Core.meter, tokens, time]
    rfl

/-- A core has made the given use of its limiter. -/
structure Used (rps burst : ℚ) (clock : Int) (use : Use) (c after : Core) (out : List Obs) :
    Prop where
  /-- The meter. -/
  meter : after.meter = c.meter.after rps burst clock use
  /-- The rates are as they were. -/
  rates : after.AtRates rps burst
  /-- The decision is shown. -/
  decided : out.flatMap Obs.decision = c.meter.decisions rps burst clock use

/-- Changes that do not concern the limiter may follow. -/
theorem Used.append {use : Use} {middle : Core} {later : List Obs}
    (used : Used rps burst clock use c middle out) (free : ∀ change ∈ changes, change.free = true)
    (executed : coreSystem.exec System.unguarded middle changes = some (after, later)) :
    Used rps burst clock use c after (out ++ later) := by
  obtain ⟨same, silent⟩ := exec_free free executed
  obtain ⟨rates, meter⟩ := rates_of_bucket used.rates same
  refine ⟨meter.trans used.meter, rates, ?_⟩
  rw [List.flatMap_append, silent, List.append_nil]
  exact used.decided

/-- Nothing has happened. -/
theorem Used.nothing (rates : c.AtRates rps burst) : Used rps burst clock .none c c [] :=
  ⟨rfl, rates, rfl⟩

/-- A refill is a look at the meter. -/
theorem refill_looks (rates : c.AtRates rps burst)
    (executed : coreSystem.exec System.unguarded c [.refill clock] = some (after, out)) :
    Used rps burst clock .look c after out := by
  have moved : c.step (.refill clock) = some (after, out) := (System.exec_only executed).2
  rw [Core.step, tokensAt_level rates] at moved
  obtain ⟨rfl, rfl⟩ := Prod.mk.inj (Option.some.inj moved)
  exact ⟨rfl, ⟨rates.rate, rates.limit⟩, rfl⟩

/-- The limiter draws the cost of a call, and says whether it admits the call. -/
theorem Limits.used {cost : JsNum} {result : Except JsError Bool} (rates : c.AtRates rps burst)
    (limits : Limits c clock cost changes result)
    (executed : coreSystem.exec System.unguarded c changes = some (after, out)) :
    Used rps burst clock (.draw cost) c after out ∧
      result = .ok (cost.le (c.meter.level rps burst clock)) := by
  have read := tokensAt_level rates clock
  cases limits with
  | throws failed =>
    rw [read] at failed
    contradiction
  | @admitted tokens looked fits =>
    obtain rfl : c.meter.level rps burst clock = tokens := Except.ok.inj (read.symm.trans looked)
    have parts : coreSystem.exec System.unguarded c ([.refill clock] ++ [.spend clock cost]) =
        some (after, out) := executed
    obtain ⟨middle, first, later, refilled, paid, rfl⟩ := System.exec_split parts
    obtain ⟨meter, ⟨rate, limit⟩, silent⟩ := refill_looks rates refilled
    obtain ⟨tokens, time⟩ := Meter.mk.inj meter
    have enough : cost.le middle.availableTokens = true := by
      rw [tokens]
      exact fits
    have moved : middle.step (.spend clock cost) = some (after, later) :=
      (System.exec_only paid).2
    rw [Core.step, if_pos enough] at moved
    obtain ⟨rfl, rfl⟩ := Prod.mk.inj (Option.some.inj moved)
    have drawn : c.meter.after rps burst clock (.draw cost) =
        ⟨(c.meter.level rps burst clock).sub cost, clock⟩ := if_pos fits
    have decided : c.meter.decisions rps burst clock (.draw cost) = [true] :=
      congrArg (fun allowed => [allowed]) fits
    refine ⟨⟨?_, ⟨rate, limit⟩, ?_⟩, congrArg Except.ok fits.symm⟩
    · rw [drawn, Core.meter, tokens, time]
    · rw [List.flatMap_append, silent, decided]
      rfl
  | @refused tokens looked short =>
    obtain rfl : c.meter.level rps burst clock = tokens := Except.ok.inj (read.symm.trans looked)
    have parts : coreSystem.exec System.unguarded c ([.refill clock] ++ [.refuse clock cost]) =
        some (after, out) := executed
    obtain ⟨middle, first, later, refilled, refused, rfl⟩ := System.exec_split parts
    obtain ⟨meter, ⟨rate, limit⟩, silent⟩ := refill_looks rates refilled
    obtain ⟨tokens, time⟩ := Meter.mk.inj meter
    have lacking : ¬ cost.le middle.availableTokens = true := by
      rw [tokens]
      exact ne_true_of_eq_false short
    have moved : middle.step (.refuse clock cost) = some (after, later) :=
      (System.exec_only refused).2
    rw [Core.step, if_neg lacking] at moved
    obtain ⟨rfl, rfl⟩ := Prod.mk.inj (Option.some.inj moved)
    have drawn : c.meter.after rps burst clock (.draw cost) = c.meter.look rps burst clock :=
      if_neg (ne_true_of_eq_false short)
    have decided : c.meter.decisions rps burst clock (.draw cost) = [false] :=
      congrArg (fun allowed => [allowed]) short
    refine ⟨⟨?_, ⟨rate, limit⟩, ?_⟩, congrArg Except.ok short.symm⟩
    · rw [drawn, Core.meter, tokens, time]
      rfl
    · rw [List.flatMap_append, silent, decided]
      rfl

/-- `ingestSingle` draws one token. -/
theorem SingleMakes.used {env : Env} {event : JsValue} {result : Except JsError SingleResult}
    (rates : c.AtRates rps burst) (makes : SingleMakes c env event changes result)
    (executed : coreSystem.exec System.unguarded c changes = some (after, out)) :
    Used rps burst env.clock (.draw 1) c after out := by
  cases makes with
  | throws limits | refused limits | unreadable limits | rejected limits =>
    exact (limits.used rates executed).1
  | dropped limits | accepted limits =>
    obtain ⟨middle, first, later, head, tail, rfl⟩ := System.exec_split executed
    apply (limits.used rates head).1.append _ tail
    exact List.forall_mem_singleton.mpr rfl

/-- `ingestBatch` draws the cost of its batch. -/
theorem BatchMakes.used {env : Env} {capacity : JsNum} {events : List JsValue}
    {result : Except JsError BatchResult} (rates : c.AtRates rps burst)
    (makes : BatchMakes c env capacity events changes result)
    (executed : coreSystem.exec System.unguarded c changes = some (after, out)) :
    Used rps burst env.clock (.draw (batchCost events.length)) c after out := by
  cases makes with
  | throws limits => exact (limits.used rates executed).1
  | refused limits =>
    obtain ⟨middle, first, later, head, tail, rfl⟩ := System.exec_split executed
    apply (limits.used rates head).1.append _ tail
    exact List.forall_mem_singleton.mpr rfl
  | broken limits | admitted limits =>
    obtain ⟨middle, first, later, head, tail, rfl⟩ := System.exec_split executed
    apply (limits.used rates head).1.append _ tail
    exact batchChanges_each (fun change => change.free = true) rfl (fun _ => rfl) _ _ _ _

/-- A look at the meter, in which no refill throws. -/
theorem looks_used (rates : c.AtRates rps burst)
    (makes : changes = [.touch clock] ∨ changes = [.refill clock])
    (executed : coreSystem.exec System.unguarded c changes = some (after, out)) :
    Used rps burst clock .look c after out := by
  rcases makes with rfl | rfl
  · have touched : c.step (.touch clock) = some (after, out) := (System.exec_only executed).2
    cases core_cases touched with
    | touch failed =>
      rw [tokensAt_level rates] at failed
      contradiction
  · exact refill_looks rates executed

/-- A request other than a change of the configuration makes its use of the limiter. -/
theorem RequestMakes.used {e : Engine} {env : Env} {request : Request}
    {result : Except JsError Unit} (rates : e.core.AtRates rps burst)
    (other : ∀ cfg, request ≠ .updateConfig cfg) (makes : RequestMakes e env request changes result)
    (executed : coreSystem.exec System.unguarded e.core changes = some (after, out)) :
    Used rps burst env.clock request.use e.core after out := by
  have ends (shown : Obs) : ∀ change ∈ [Change.finish shown], change.free = true :=
    List.forall_mem_singleton.mpr rfl
  cases makes with
  | singleThrows makes => exact makes.used rates executed
  | batchThrows makes => exact makes.used rates executed
  | metricsThrows makes => exact looks_used rates makes executed
  | single makes =>
    obtain ⟨middle, first, later, head, tail, rfl⟩ := System.exec_split executed
    exact (makes.used rates head).append (ends _) tail
  | batch makes =>
    obtain ⟨middle, first, later, head, tail, rfl⟩ := System.exec_split executed
    exact (makes.used rates head).append (ends _) tail
  | metrics makes =>
    obtain ⟨middle, first, later, head, tail, rfl⟩ := System.exec_split executed
    exact (looks_used rates makes head).append (ends _) tail
  | startLoadTest | stopLoadTest | shutdownThrows =>
    exact (Used.nothing rates).append (List.forall_mem_nil _) executed
  | updateConfig => exact absurd rfl (other _)
  | @shutdown flushes report flushing =>
    apply (Used.nothing rates).append _ executed
    rcases flushing with rfl | rfl
    · exact List.forall_mem_cons.mpr ⟨rfl, ends _⟩
    · exact List.forall_mem_cons.mpr ⟨rfl, List.forall_mem_cons.mpr ⟨rfl, ends _⟩⟩

/-- The callback of a timer makes its use of the limiter. -/
theorem TaskMakes.used {e : Engine} {env : Env} {task : Task} {result : Except JsError Unit}
    (rates : e.core.AtRates rps burst) (makes : TaskMakes e env task changes result)
    (executed : coreSystem.exec System.unguarded e.core changes = some (after, out)) :
    Used rps burst env.clock (task.use env e) e.core after out := by
  cases makes with
  | idle quiet =>
    have none : task.use env e = .none := by
      cases task with
      | loadTest eventsPerTick => simp [Task.use, quiet eventsPerTick rfl]
      | workers | release | flush | metrics | reset => rfl
    rw [none]
    exact (Used.nothing rates).append (List.forall_mem_nil _) executed
  | moved flushing =>
    apply (Used.nothing rates).append _ executed
    rcases flushing with rfl | rfl
    · exact List.forall_mem_singleton.mpr rfl
    · exact List.forall_mem_cons.mpr ⟨rfl, List.forall_mem_singleton.mpr rfl⟩
  | flushed =>
    apply (Used.nothing rates).append _ executed
    exact List.forall_mem_singleton.mpr rfl
  | @loadTest eventsPerTick count _ _ active ticks makes =>
    have drawn := makes.used rates executed
    rw [List.length_map, List.length_range] at drawn
    have use : (Task.loadTest eventsPerTick).use env e = .draw (batchCost count) := by
      simp [Task.use, active, ticks]
    rw [use]
    exact drawn
  | overflows active ticks =>
    simp only [Task.use, active, ticks]
    exact (Used.nothing rates).append (List.forall_mem_nil _) executed

/-- The end of a call or a callback does not concern the limiter. -/
theorem ending_free (shown : JsError → Obs) (result : Except JsError Unit) :
    ∀ change ∈ ending shown result, change.free = true := by
  cases result with
  | ok value => exact List.forall_mem_nil _
  | error thrown => exact List.forall_mem_singleton.mpr rfl

/-- What is not in the core is no decision. -/
theorem decisions_core (out : List Obs) :
    (out.flatMap Obs.core).flatMap Obs.decision = out.flatMap Obs.decision := by
  rw [List.flatMap_assoc]
  congr 1
  funext shown
  cases shown <;> rfl

end Changes

/-- A step other than a change of the configuration makes its use of the limiter, and shows the
decision. -/
theorem step_used {rps burst : ℚ} {p after : Process} {action : Act} {out : List Obs}
    (rates : p.core.AtRates rps burst) (other : action.isConfig = false)
    (stepped : step p action = some (after, out)) :
    Used rps burst action.clock (p.use action) p.core after.core out := by
  obtain ⟨changes, executed, makes⟩ := step_makes stepped
  have shown : Used rps burst action.clock (p.use action) p.core after.core
      (out.flatMap Obs.core) := by
    cases makes with
    | @request env request changes result makes =>
      obtain ⟨middle, first, later, head, tail, split⟩ := System.exec_split executed
      have served : ∀ cfg, request ≠ .updateConfig cfg := by
        rintro cfg rfl
        contradiction
      rw [split]
      exact (makes.used rates served head).append (ending_free .threw result) tail
    | @fire env timer changes result live makes =>
      obtain ⟨middle, first, later, head, tail, split⟩ := System.exec_split executed
      have use : p.use (.fire env timer.id) = timer.task.use env p.engine := by
        rw [Process.use, EventLoop.find_id live]
        rfl
      rw [split, use]
      exact (makes.used rates head).append (ending_free .crashed result) tail
  refine ⟨shown.meter, shown.rates, ?_⟩
  rw [← decisions_core]
  exact shown.decided

/-! ### Live processes -/

/-- No call and no change of a timer ends the process. -/
theorem alive_endures : Endures fun p => p.crashed = false where
  assigned := fun _ _ _ alive => alive
  restarted := fun _ alive => alive
  stopped := fun _ alive => alive
  started := fun _ _ _ alive => alive
  released := fun _ alive => alive

/-- A request leaves what its call leaves, of a live process. -/
theorem request_state {p after : Process} {env : Env} {request : Request} {out : List Obs}
    (stepped : step p (.request env request) = some (after, out)) :
    p.crashed = false ∧ after = ((request.call env).run (p.begin env)).state := by
  generalize same : Act.request env request = action at stepped
  cases step_cases stepped with
  | fire => contradiction
  | request alive =>
    obtain ⟨rfl, rfl⟩ := Act.request.inj same
    exact ⟨alive, respond_state _⟩

/-- A request leaves a live process alive. -/
theorem request_alive {p after : Process} {env : Env} {request : Request} {out : List Obs}
    (stepped : step p (.request env request) = some (after, out)) : after.crashed = false := by
  obtain ⟨alive, rfl⟩ := request_state stepped
  have reset : Keeps (fun p : Process => p.crashed = false) (setTimer .reset 2000 none) :=
    fun _ alive => alive
  exact alive_endures.any_request env (fun _ _ alive => alive) reset request (p.begin env) alive

end IngestionEngine.Server
