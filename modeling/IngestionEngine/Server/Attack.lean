import IngestionEngine.Server.LoadTest
import IngestionEngine.Server.Retry
import IngestionEngine.Server.TokenRange

/-!
# Whether an attack is limited

An attack sends one batch every 25 ms, with four times the events that its rate asks for. A batch
pays one token for fifty events, so it costs far less than the rate suggests. The limiter refuses
one exactly when a batch costs more than is earned in 25 ms, or more than the burst.
-/

namespace IngestionEngine.Server

open Systems Program

/-! ### A meter with regular draws -/

namespace Meter

variable (rps burst : ℚ) (cost : JsNum) (start : Int) (m : Meter)

/-- The tokens with what was earned since the last look. -/
def earned (clock : Int) : JsNum :=
  m.tokens.add (.fin ((seconds clock - seconds m.time) * rps))

/-- The meter after a number of draws, every 25 ms. -/
def paced : Nat → Meter
  | 0 => m
  | count + 1 => (paced count).draw rps burst (start + 25 * (count + 1)) cost

/-- What the limiter decides. -/
def pacedDecisions : Nat → List Bool
  | 0 => []
  | count + 1 => pacedDecisions count ++
    (m.paced rps burst cost start count).decisions rps burst (start + 25 * (count + 1)) (.draw cost)

end Meter

section Paced

variable {rps burst cost : ℚ} {start clock : Int} {m : Meter}

/-- In 25 ms a fortieth of the rate is earned. -/
theorem seconds_paced (clock : Int) : seconds (clock + 25) - seconds clock = 1 / 40 := by
  unfold seconds
  push_cast
  ring

/-- After 25 ms there is at least what was earned in them, if there was no debt before. -/
theorem earned_paced (covered : JsNum.le 0 (m.earned rps clock) = true) (amount : ℚ)
    (gained : amount ≤ rps / 40) : (JsNum.fin amount).le (m.earned rps (clock + 25)) = true := by
  unfold Meter.earned at covered ⊢
  have later : (seconds (clock + 25) - seconds m.time) * rps =
      (seconds clock - seconds m.time) * rps + rps / 40 := by
    have step := seconds_paced clock
    have passed : seconds (clock + 25) - seconds m.time =
        seconds clock - seconds m.time + 1 / 40 := by linarith only [step]
    rw [passed]
    ring
  cases tokens : m.tokens with
  | fin level =>
    rw [tokens, JsNum.zero_fin, JsNum.add_fin, JsNum.le_fin] at covered
    rw [JsNum.add_fin, JsNum.le_fin, later]
    linarith only [covered, gained]
  | posInf => rfl
  | negInf | nan =>
    rw [tokens] at covered
    contradiction

/-- A draw that is admitted leaves the rest. -/
theorem draw_admitted (fits : (JsNum.fin cost).le (m.level rps burst clock) = true) :
    ∃ left : ℚ, m.draw rps burst clock (.fin cost) = ⟨.fin left, clock⟩ ∧ 0 ≤ left ∧
      left ≤ burst - cost ∧ ∀ level, m.tokens = .fin level →
        left ≤ level + (seconds clock - seconds m.time) * rps - cost := by
  have drawn : m.draw rps burst clock (.fin cost) =
      ⟨(m.level rps burst clock).sub (.fin cost), clock⟩ := if_pos fits
  have within : cost ≤ burst := (level_enough.mp fits).1
  rw [drawn]
  cases tokens : m.tokens with
  | fin level =>
    have levels : m.level rps burst clock =
        .fin (min burst (level + (seconds clock - seconds m.time) * rps)) := by
      rw [Meter.level, tokens, JsNum.add_fin, JsNum.min_fin]
    rw [levels, JsNum.le_fin] at fits
    refine ⟨min burst (level + (seconds clock - seconds m.time) * rps) - cost, ?_, ?_, ?_, ?_⟩
    · rw [levels, JsNum.sub_fin]
    · exact sub_nonneg.mpr fits
    · exact sub_le_sub_right (min_le_left _ _) cost
    · intro given same
      obtain rfl := JsNum.fin.inj same
      exact sub_le_sub_right (min_le_right _ _) cost
  | posInf =>
    have levels : m.level rps burst clock = .fin burst := by
      rw [Meter.level, tokens]
      rfl
    refine ⟨burst - cost, ?_, sub_nonneg.mpr within, le_rfl, fun _ same => ?_⟩
    · rw [levels, JsNum.sub_fin]
    · contradiction
  | negInf | nan =>
    rw [Meter.level, tokens] at fits
    contradiction

/-- A draw that is admitted leaves no debt. -/
theorem draw_covered (fits : (JsNum.fin cost).le (m.level rps burst clock) = true) :
    JsNum.le 0 ((m.draw rps burst clock (.fin cost)).earned rps clock) = true := by
  obtain ⟨left, drawn, nonneg, _⟩ := draw_admitted fits
  rw [drawn, Meter.earned, JsNum.add_fin, JsNum.zero_fin, JsNum.le_fin, sub_self, zero_mul,
    add_zero]
  exact nonneg

/-- The time of a draw, from that of the one before. -/
theorem paced_clock (start : Int) (count : Nat) :
    start + 25 * ((count : Int) + 1) = start + 25 * count + 25 := by
  omega

/-- Draws that cost no more than what is earned between them, and no more than the burst, are all
admitted. -/
theorem paced_admitted (covered : JsNum.le 0 (m.earned rps start) = true)
    (within : cost ≤ burst) (gained : cost ≤ rps / 40) (count : Nat) :
    JsNum.le 0 ((m.paced rps burst (.fin cost) start count).earned rps
        (start + 25 * count)) = true ∧
      false ∉ m.pacedDecisions rps burst (.fin cost) start count := by
  induction count with
  | zero =>
    have begun : start + 25 * ((0 : Nat) : Int) = start := by omega
    rw [begun]
    exact ⟨covered, List.not_mem_nil⟩
  | succ count ih =>
    obtain ⟨rest, admitted⟩ := ih
    have enough : (JsNum.fin cost).le ((m.paced rps burst (.fin cost) start count).level rps burst
        (start + 25 * (count + 1))) = true := by
      rw [paced_clock]
      exact level_enough.mpr ⟨within, earned_paced rest cost gained⟩
    have clock : start + 25 * ((count + 1 : Nat) : Int) = start + 25 * (count + 1) := by
      push_cast
      rfl
    constructor
    · rw [clock]
      exact draw_covered enough
    · rw [Meter.pacedDecisions, Meter.decisions, enough]
      simpa using admitted

/-- As long as every draw is admitted, each takes away what it costs beyond what was earned. -/
theorem paced_left (count : Nat)
    (admitted : false ∉ m.pacedDecisions rps burst (.fin cost) start (count + 1)) :
    ∃ left : ℚ, m.paced rps burst (.fin cost) start (count + 1) =
        ⟨.fin left, start + 25 * (count + 1)⟩ ∧
      0 ≤ left ∧ left ≤ burst - cost - count * (cost - rps / 40) := by
  have fits (count : Nat)
      (admitted : false ∉ m.pacedDecisions rps burst (.fin cost) start (count + 1)) :
      (JsNum.fin cost).le ((m.paced rps burst (.fin cost) start count).level rps burst
        (start + 25 * (count + 1))) = true := by
    rw [Meter.pacedDecisions, Meter.decisions, List.mem_append, List.mem_singleton] at admitted
    simpa using fun same => admitted (.inr same)
  induction count with
  | zero =>
    obtain ⟨left, drawn, nonneg, most, _⟩ := draw_admitted (fits 0 admitted)
    refine ⟨left, drawn, nonneg, ?_⟩
    rw [Nat.cast_zero, zero_mul, sub_zero]
    exact most
  | succ count ih =>
    have before : false ∉ m.pacedDecisions rps burst (.fin cost) start (count + 1) := by
      intro refused
      exact admitted (List.mem_append_left _ refused)
    obtain ⟨level, same, _, bound⟩ := ih before
    obtain ⟨left, drawn, nonneg, _, less⟩ := draw_admitted (fits (count + 1) admitted)
    rw [same] at less
    have step := less level rfl
    have clock : start + 25 * (((count + 1 : Nat) : Int) + 1) = start + 25 * (count + 1) + 25 := by
      push_cast
      omega
    rw [clock, seconds_paced] at step
    refine ⟨left, drawn, nonneg, ?_⟩
    push_cast
    linarith only [step, bound]

/-- There is one decision for each draw. -/
theorem paced_length (count : Nat) {cost : JsNum} :
    (m.pacedDecisions rps burst cost start count).length = count := by
  induction count with
  | zero => rfl
  | succ count ih =>
    rw [Meter.pacedDecisions, List.length_append, ih]
    rfl

/-- What has been refused stays refused in a longer series. -/
theorem paced_longer {count more : Nat} (longer : count ≤ more) {cost : JsNum}
    (refused : false ∈ m.pacedDecisions rps burst cost start count) :
    false ∈ m.pacedDecisions rps burst cost start more := by
  induction more, longer using Nat.le_induction with
  | base => exact refused
  | succ more _ ih => exact List.mem_append_left _ ih

/-- Some draw is refused exactly when a draw costs more than is earned between two, or more than the
burst. -/
theorem paced_refused (covered : JsNum.le 0 (m.earned rps start) = true) :
    (∃ count, false ∈ m.pacedDecisions rps burst (.fin cost) start count) ↔
      rps / 40 < cost ∨ burst < cost := by
  constructor
  · rintro ⟨count, refused⟩
    by_contra none
    push Not at none
    exact (paced_admitted covered none.2 none.1 count).2 refused
  · intro costly
    by_contra none
    push Not at none
    rcases costly with more | beyond
    · -- Each draw takes at least a fixed amount, and there are no more than the burst.
      have taken : 0 < cost - rps / 40 := sub_pos.mpr more
      let count := ⌊(burst - cost) / (cost - rps / 40)⌋₊ + 1
      have many : (burst - cost) / (cost - rps / 40) < (count : ℚ) := by
        have above := Nat.lt_floor_add_one ((burst - cost) / (cost - rps / 40))
        push_cast [count]
        exact above
      obtain ⟨left, _, nonneg, bound⟩ := paced_left count (none (count + 1))
      have spent := (div_lt_iff₀ taken).mp many
      linarith only [nonneg, bound, spent]
    · obtain ⟨left, _, nonneg, bound⟩ := paced_left 0 (none 1)
      rw [Nat.cast_zero, zero_mul, sub_zero] at bound
      linarith only [nonneg, bound, beyond]

end Paced

/-! ### The ticks of an attack -/

/-- A timer fires, and that of the load test when it is due; arrays hold as much as given. -/
def Undisturbed (limit : ArrayLimit) (p : Process) : Act → Prop
  | .request _ _ => False
  | .fire env id => env.arrayLimit = limit ∧ (p.engine.loadTestTimer = some id →
    ∀ timer ∈ p.loop.timers, timer.id = id → env.clock = timer.due)

/-- What the batch of an attack costs. -/
def attackCost (targetRps : ℚ) : ℚ := max 1 ⌈(4 * ⌈targetRps / 40⌉ : ℚ) / 50⌉

/-- The timer of an attack is pending, and due at a time. -/
structure Attacked (targetRps : ℚ) (id : Nat) (due : Int) (p : Process) : Prop where
  /-- The timers are sound. -/
  sound : p.TimersSound
  /-- The scenario. -/
  scenario : p.engine.loadTestScenario = "dos_attack"
  /-- The timer. -/
  timer : ∃ timer ∈ p.loop.timers, timer.id = id ∧
    timer.task = .loadTest ((JsNum.fin targetRps).div 40).ceil ∧ timer.due = due

section Ticks

variable {targetRps : ℚ} {id : Nat} {due : Int} {p after : Process} {env : Env}
  {out : List Obs}

/-- A timer that fires leaves the timer of the attack pending, due 25 ms later if it is that one. -/
theorem fired_attacked (env : Env) (attacked : Attacked targetRps id due p) {timer : Timer Task}
    (live : timer ∈ p.loop.timers) : ∃ pending ∈ (p.fired env timer).loop.timers,
      pending.id = id ∧ pending.task = .loadTest ((JsNum.fin targetRps).div 40).ceil ∧
      pending.due = if timer.id = id then env.clock + 25 else due := by
  obtain ⟨load, inside, named, task, last⟩ := attacked.timer
  by_cases same : timer.id = id
  · obtain rfl := EventLoop.eq_of_id live inside (same.trans named.symm)
    have interval : timer.period = some 25 := by
      rw [attacked.sound.periods timer live, task]
      rfl
    have advanced : timer ∈ (p.loop.advance env.clock).timers := live
    exact ⟨_, EventLoop.mem_fire_again advanced interval, same, task, (if_pos same).symm⟩
  · have advanced : load ∈ (p.loop.advance env.clock).timers := inside
    have other : load.id ≠ timer.id := by
      rw [named]
      exact fun equal => same equal.symm
    exact ⟨load, EventLoop.mem_fire advanced other, named, task, last.trans (if_neg same).symm⟩

/-- After a step it is still pending. -/
theorem step_attacked {fired : Nat} (attacked : Attacked targetRps id due p)
    (stepped : step p (.fire env fired) = some (after, out)) :
    Attacked targetRps id (if fired = id then env.clock + 25 else due) after := by
  refine ⟨step_sound attacked.sound stepped, ?_, ?_⟩
  · rw [step_scenario stepped fun _ _ _ requested => by contradiction]
    exact attacked.scenario
  · generalize same : Act.fire env fired = action at stepped
    cases step_cases stepped with
    | request => contradiction
    | @fire _ timer alive live =>
      obtain ⟨rfl, rfl⟩ := Act.fire.inj same
      obtain ⟨pending, inside, held⟩ := fired_attacked env attacked live
      have kept : Keeps (fun q => pending ∈ q.loop.timers) (timer.task.callback env) := by
        refine loading_callback env (fun _ _ _ held => held) (fun q held => ?_) timer.task
        exact EventLoop.mem_set.mpr (.inl held)
      refine ⟨pending, ?_, held⟩
      rw [(finish_state _).1]
      exact kept (p.fired env timer) inside

/-- The timer of the attack is that of the load test. -/
theorem Attacked.own (attacked : Attacked targetRps id due p) :
    p.engine.loadTestTimer = some id ∧ p.engine.loadTestActive = true := by
  obtain ⟨timer, live, named, task, _⟩ := attacked.timer
  have own : p.engine.loadTestTimer = some id :=
    (attacked.sound.loading id).mp ⟨_, timer, live, named, task⟩
  refine ⟨own, ?_⟩
  rw [attacked.sound.active, own]
  rfl

/-- A tick of an attack builds four times the events that its rate asks for, if an array can hold
them. -/
theorem Attacked.count (attacked : Attacked targetRps id due p) (env : Env) :
    loadTestCount env p.engine ((JsNum.fin targetRps).div 40).ceil =
      if 4 * ⌈targetRps / 40⌉ ≤ (env.arrayLimit.val : ℤ) then some (4 * ⌈targetRps / 40⌉).toNat
      else none := by
  rw [loadTestCount, if_pos attacked.own.2, attacked.scenario, attack_count, pushCount_int]

/-- What they cost. -/
theorem attack_batchCost (positive : 0 < targetRps) :
    batchCost (4 * ⌈targetRps / 40⌉).toNat = .fin (attackCost targetRps) := by
  have divisor : (50 : ℚ) ≠ 0 := by norm_num
  have events : 0 < ⌈targetRps / 40⌉ := Int.ceil_pos.mpr (by positivity)
  have cast : ((4 * ⌈targetRps / 40⌉).toNat : ℚ) = 4 * ⌈targetRps / 40⌉ := by
    have same : ((4 * ⌈targetRps / 40⌉).toNat : ℤ) = 4 * ⌈targetRps / 40⌉ := by omega
    exact_mod_cast congrArg (Int.cast : ℤ → ℚ) same
  have share (count : Nat) :
      ((JsNum.ofNat count).div 50).ceil = .fin ((⌈(count : ℚ) / 50⌉ : ℤ) : ℚ) := by
    rw [JsNum.ofNat_fin, JsNum.literal_fin, JsNum.div_fin divisor]
    rfl
  rw [batchCost, share, JsNum.one_fin, JsNum.max_fin, cast]
  rfl

/-- The tick of an attack draws its cost if an array can hold its events, and no other timer uses
the limiter. -/
theorem attacked_use (positive : 0 < targetRps) {fired : Nat}
    (attacked : Attacked targetRps id due p)
    (stepped : step p (.fire env fired) = some (after, out)) :
    p.use (.fire env fired) =
      if fired = id ∧ 4 * ⌈targetRps / 40⌉ ≤ (env.arrayLimit.val : ℤ) then
        .draw (.fin (attackCost targetRps))
      else .none := by
  generalize same : Act.fire env fired = action at stepped
  cases step_cases stepped with
  | request => contradiction
  | @fire _ timer alive live =>
    obtain ⟨rfl, rfl⟩ := Act.fire.inj same
    have use : p.use (.fire env timer.id) = timer.task.use env p.engine := by
      rw [Process.use, EventLoop.find_id live]
      rfl
    rw [use]
    by_cases mine : timer.id = id
    · obtain ⟨load, inside, named, task, _⟩ := attacked.timer
      obtain rfl := EventLoop.eq_of_id live inside (mine.trans named.symm)
      rw [task, Task.use, if_pos attacked.own.2, attacked.count env]
      by_cases fits : 4 * ⌈targetRps / 40⌉ ≤ (env.arrayLimit.val : ℤ)
      · rw [if_pos fits, if_pos ⟨mine, fits⟩]
        exact congrArg Use.draw (attack_batchCost positive)
      · rw [if_neg fits, if_neg fun both => fits both.2]
        rfl
    · rw [if_neg fun both => mine both.1]
      cases task : timer.task with
      | loadTest eventsPerTick =>
        have own := (attacked.sound.loading timer.id).mp ⟨_, timer, live, rfl, task⟩
        rw [attacked.own.1] at own
        exact absurd (Option.some.inj own).symm mine
      | workers | release | flush | metrics | reset => rfl

end Ticks

/-! ### A run of an attack -/

/-- What the limiter decided in a run. -/
def decisions (seen : List Obs) : List Bool := seen.flatMap Obs.decision

/-- A run with enough batches exists, and in every such run the limiter refuses one. -/
def Process.Throttled (limit : ArrayLimit) (p : Process) : Prop :=
  ∃ count, (∃ seen q, system.Run (Undisturbed limit) p seen q ∧
      (decisions seen).length = count) ∧
    ∀ seen q, system.Run (Undisturbed limit) p seen q → count ≤ (decisions seen).length →
      false ∈ decisions seen

section Runs

variable {targetRps rps burst : ℚ} {id : Nat} {start : Int} {p q : Process} {seen : List Obs}
  {limit : ArrayLimit}

/-- A run of an attack has drawn its cost from a meter some number of times, every 25 ms. -/
structure Attacking (targetRps rps burst : ℚ) (id : Nat) (start : Int) (m : Meter) (count : Nat)
    (seen : List Obs) (q : Process) : Prop where
  /-- The timer of the attack. -/
  attacked : Attacked targetRps id (start + 25 * (count + 1)) q
  /-- The rates. -/
  rates : q.core.AtRates rps burst
  /-- The meter. -/
  meter : q.core.meter = m.paced rps burst (.fin (attackCost targetRps)) start count
  /-- The decisions. -/
  decided : decisions seen = m.pacedDecisions rps burst (.fin (attackCost targetRps)) start count

/-- A step of the attack draws its cost once more, and the other steps draw nothing. -/
theorem step_attacking {m : Meter} {count : Nat} {action : Act} {after : Process} {out : List Obs}
    (positive : 0 < targetRps) (fits : 4 * ⌈targetRps / 40⌉ ≤ (limit.val : ℤ))
    (attacking : Attacking targetRps rps burst id start m count seen q)
    (undisturbed : Undisturbed limit q action) (stepped : step q action = some (after, out)) :
    ∃ more, Attacking targetRps rps burst id start m more (seen ++ out) after := by
  obtain ⟨attacked, rates, meter, decided⟩ := attacking
  cases action with
  | request => exact undisturbed.elim
  | fire env fired =>
    obtain ⟨arrays, punctual⟩ := undisturbed
    have used := step_used rates rfl stepped
    have left := step_attacked attacked stepped
    have use := attacked_use positive attacked stepped
    have clock : (Act.fire env fired).clock = env.clock := rfl
    have shown : decisions (seen ++ out) = decisions seen ++ decisions out :=
      List.flatMap_append
    subst arrays
    rw [use] at used
    by_cases mine : fired = id
    · obtain ⟨timer, live, named, _, due⟩ := attacked.timer
      have onTime : env.clock = start + 25 * (count + 1) := by
        rw [mine] at punctual
        exact (punctual attacked.own.1 timer live named).trans due
      rw [if_pos mine, onTime] at left
      rw [if_pos ⟨mine, fits⟩, clock, onTime] at used
      have next : start + 25 * (((count + 1 : Nat) : Int) + 1) =
          start + 25 * (count + 1) + 25 := by
        push_cast
        omega
      have last : decisions out = q.core.meter.decisions rps burst (start + 25 * (count + 1))
          (.draw (.fin (attackCost targetRps))) := used.decided
      refine ⟨count + 1, ?_, used.rates, ?_, ?_⟩
      · rw [next]
        exact left
      · rw [used.meter, meter]
        rfl
      · rw [shown, decided, last, meter]
        rfl
    · rw [if_neg mine] at left
      rw [if_neg fun both => mine both.1] at used
      have silent : decisions out = [] := used.decided
      refine ⟨count, left, used.rates, used.meter.trans meter, ?_⟩
      rw [shown, silent, List.append_nil]
      exact decided

/-- A run of an attack whose batches fit draws its cost every 25 ms. -/
theorem run_attacking (positive : 0 < targetRps) (fits : 4 * ⌈targetRps / 40⌉ ≤ (limit.val : ℤ))
    (rates : p.core.AtRates rps burst) (attacked : Attacked targetRps id (start + 25) p)
    (run : system.Run (Undisturbed limit) p seen q) :
    ∃ count, Attacking targetRps rps burst id start p.core.meter count seen q := by
  have begun : Attacked targetRps id (start + 25 * (((0 : Nat) : Int) + 1)) p := attacked
  refine run.invariant
    (fun seen q => ∃ count, Attacking targetRps rps burst id start p.core.meter count seen q)
    ⟨0, begun, rates, rfl, rfl⟩ ?_
  rintro seen q action after out ⟨count, attacking⟩ undisturbed stepped
  exact step_attacking positive fits attacking undisturbed stepped

/-- A run of an attack whose batches do not fit shows no decision of the limiter. -/
theorem run_overflowing (positive : 0 < targetRps)
    (full : ¬ 4 * ⌈targetRps / 40⌉ ≤ (limit.val : ℤ)) (rates : p.core.AtRates rps burst)
    (attacked : Attacked targetRps id (start + 25) p)
    (run : system.Run (Undisturbed limit) p seen q) : decisions seen = [] := by
  have held := run.invariant (fun seen q => (∃ due, Attacked targetRps id due q) ∧
    q.core.AtRates rps burst ∧ decisions seen = []) ⟨⟨_, attacked⟩, rates, rfl⟩ ?_
  · exact held.2.2
  · rintro seen q action after out ⟨⟨due, attacked⟩, rates, silent⟩ undisturbed stepped
    cases action with
    | request => exact undisturbed.elim
    | fire env fired =>
      obtain ⟨rfl, _⟩ := undisturbed
      have moved : step q (.fire env fired) = some (after, out) := stepped
      have used := step_used rates rfl moved
      rw [attacked_use positive attacked stepped, if_neg fun both => full both.2] at used
      refine ⟨⟨_, step_attacked attacked stepped⟩, used.rates, ?_⟩
      have quiet : decisions out = [] := used.decided
      rw [decisions, List.flatMap_append]
      exact List.append_eq_nil_iff.mpr ⟨silent, quiet⟩

/-- An attack whose batches fit goes on as long as one likes. -/
theorem attack_goes_on (positive : 0 < targetRps) (fits : 4 * ⌈targetRps / 40⌉ ≤ (limit.val : ℤ))
    (rates : p.core.AtRates rps burst) (attacked : Attacked targetRps id (start + 25) p)
    (alive : p.crashed = false) (count : Nat) :
    ∃ seen q, system.Run (Undisturbed limit) p seen q ∧
      q.crashed = false ∧ (decisions seen).length = count := by
  induction count with
  | zero => exact ⟨[], p, .start, alive, rfl⟩
  | succ count ih =>
    obtain ⟨seen, q, run, lives, drawn⟩ := ih
    obtain ⟨made, held, kept, _⟩ := run_attacking positive fits rates attacked run
    obtain ⟨timer, live, named, task, due⟩ := held.timer
    let env : Env := { Env.calm timer.due with arrayLimit := limit }
    have holds : BatchFits env.arrayLimit.val (.fin targetRps) q.engine.loadTestScenario
        env.sine.val := by
      have other : "dos_attack" ≠ "burst" := by decide
      rw [held.scenario, BatchFits, if_neg other, if_pos rfl]
      exact fits
    obtain ⟨after, out, stepped, survives⟩ :=
      (tick_returns env held.sound lives live task).mpr ⟨holds, _, _, kept.rate, kept.limit⟩
    have undisturbed : Undisturbed limit q (.fire env timer.id) := by
      refine ⟨rfl, fun _ other inside same => ?_⟩
      rw [EventLoop.eq_of_id inside live same]
      rfl
    have used := (step_used kept rfl stepped).decided
    rw [attacked_use positive held stepped, if_pos ⟨named, fits⟩] at used
    have one : (decisions out).length = 1 := congrArg List.length used
    have longer : (decisions (seen ++ out)).length = count + 1 := by
      rw [decisions, List.flatMap_append, List.length_append]
      exact congrArg₂ (· + ·) drawn one
    exact ⟨seen ++ out, after, .next run undisturbed stepped, survives, longer⟩

/-- An attack is limited exactly when an array can hold its batches, and a batch costs more than is
earned between two, or more than the burst. -/
theorem throttled_iff (positive : 0 < targetRps) (rates : p.core.AtRates rps burst)
    (attacked : Attacked targetRps id (start + 25) p) (alive : p.crashed = false)
    (covered : JsNum.le 0 (p.core.meter.earned rps start) = true) :
    p.Throttled limit ↔ 4 * ⌈targetRps / 40⌉ ≤ (limit.val : ℤ) ∧
      (rps / 40 < attackCost targetRps ∨ burst < attackCost targetRps) := by
  constructor
  · rintro ⟨count, ⟨seen, q, run, reached⟩, refuses⟩
    have refused := refuses seen q run (le_of_eq reached.symm)
    by_cases fits : 4 * ⌈targetRps / 40⌉ ≤ (limit.val : ℤ)
    · obtain ⟨made, attacking⟩ := run_attacking positive fits rates attacked run
      rw [attacking.decided] at refused
      exact ⟨fits, (paced_refused covered).mp ⟨made, refused⟩⟩
    · rw [run_overflowing positive fits rates attacked run] at refused
      contradiction
  · rintro ⟨fits, costly⟩
    obtain ⟨count, refused⟩ := (paced_refused covered).mpr costly
    obtain ⟨seen, q, run, _, length⟩ := attack_goes_on positive fits rates attacked alive count
    refine ⟨count, ⟨seen, q, run, length⟩, fun seen q run many => ?_⟩
    obtain ⟨made, attacking⟩ := run_attacking positive fits rates attacked run
    rw [attacking.decided] at many ⊢
    rw [paced_length] at many
    exact paced_longer many refused

end Runs

/-- A call of `startLoadTest` begins an attack. -/
theorem start_attacked {targetRps : ℚ} {p after : Process} {env : Env} {out : List Obs}
    (sound : p.TimersSound) (started : step p
      (.request env (.startLoadTest (.fin targetRps) "dos_attack")) = some (after, out)) :
    Attacked targetRps p.loop.nextId (env.clock + 25) after := by
  refine ⟨step_sound sound started, ?_, ?_⟩
  all_goals
    obtain ⟨_, rfl⟩ := request_state started
    simp only [Request.call, startLoadTest, stopLoadTest, run_bind, run_update, run_engine,
      run_clearTimer, run_addLog, run_setTimer, andThen_ok, after_mk]
  · exact ⟨_, EventLoop.mem_set.mpr (.inr rfl), rfl, rfl, rfl⟩

/-- An attack at a rate above the limit is limited at some time exactly when an array can hold its
batches, and a batch costs more than is earned in 25 ms, or more than the burst. -/
theorem attack_limited {targetRps rps burst : ℚ} {start env : Env} {before : List Obs}
    {p after : Process} {out : List Obs} (reached : system.AnyRun (.start start) before p)
    (started : step p (.request env (.startLoadTest (.fin targetRps) "dos_attack")) =
      some (after, out))
    (rates : after.core.AtRates rps burst) (positive : 0 < rps ∧ 0 < burst)
    (level : InRange burst (after.core.meter.level rps burst env.clock))
    (faster : rps < targetRps) (limit : ArrayLimit) :
    after.Throttled limit ↔ 4 * ⌈targetRps / 40⌉ ≤ (limit.val : ℤ) ∧
      (rps / 40 < attackCost targetRps ∨ burst < attackCost targetRps) := by
  have attacked := start_attacked (run_sound start reached) started
  have covered := (level_range (le_of_lt positive.2)).mp level
  exact throttled_iff (lt_trans positive.1 faster) rates attacked (request_alive started) covered

/-- A new process, with a rate of 10000 and a burst of 20000, at the start of an attack. -/
theorem new_attacked (targetRps : ℚ) : ∃ after out,
    step (.start (.calm 0)) (.request (.calm 0) (.startLoadTest (.fin targetRps) "dos_attack")) =
        some (after, out) ∧ after.core.AtRates 10000 20000 ∧
      InRange 20000 (after.core.meter.level 10000 20000 0) := by
  have rates : (Process.start (.calm 0)).core.AtRates 10000 20000 := ⟨rfl, rfl⟩
  have started : step (.start (.calm 0))
      (.request (.calm 0) (.startLoadTest (.fin targetRps) "dos_attack")) = some (_, _) :=
    step_request_state rfl
  have used := step_used rates rfl started
  refine ⟨_, _, started, used.rates, ?_⟩
  have full : (Process.start (.calm 0)).core.meter.level 10000 20000 0 = .fin 20000 := by
    decide +kernel
  rw [used.meter]
  exact ⟨20000, full, by norm_num, le_rfl⟩

/-- An attack with 130000 events in a second is limited. -/
theorem attack_limited_fast : ∃ after out,
    step (.start (.calm 0)) (.request (.calm 0) (.startLoadTest (.fin 130000) "dos_attack")) =
        some (after, out) ∧ after.Throttled ⟨2 ^ 32 - 1, by decide⟩ := by
  obtain ⟨after, out, started, rates, level⟩ := new_attacked 130000
  have positive : (0 : ℚ) < 10000 ∧ (0 : ℚ) < 20000 := by norm_num
  refine ⟨after, out, started,
    (attack_limited .start started rates positive level (by norm_num) _).mpr ⟨?_, .inl ?_⟩⟩
  · decide +kernel
  · decide +kernel

/-- The attack that the user interface offers, with 22000 events in a second, pays 44 tokens a tick
while 250 are earned, and is never limited. -/
theorem attack_unlimited : ∃ after out,
    step (.start (.calm 0)) (.request (.calm 0) (.startLoadTest (.fin 22000) "dos_attack")) =
        some (after, out) ∧ after.core.AtRates 10000 20000 ∧
      InRange 20000 (after.core.meter.level 10000 20000 0) ∧
      ∀ limit : ArrayLimit, 2200 ≤ limit.val →
        (∀ count, ∃ seen q, system.Run (Undisturbed limit) after seen q ∧
          (decisions seen).length = count) ∧
        ∀ seen q, system.Run (Undisturbed limit) after seen q → false ∉ decisions seen := by
  obtain ⟨after, out, started, rates, level⟩ := new_attacked 22000
  have sound : (Process.start (.calm 0)).TimersSound := start_sound (.calm 0)
  have attacked := start_attacked sound started
  have covered := (level_range (by norm_num)).mp level
  refine ⟨after, out, started, rates, level, fun limit room => ?_⟩
  have events : 4 * ⌈(22000 : ℚ) / 40⌉ = 2200 := by decide +kernel
  have fits : 4 * ⌈(22000 : ℚ) / 40⌉ ≤ (limit.val : ℤ) := by omega
  constructor
  · intro count
    obtain ⟨seen, q, run, _, length⟩ := attack_goes_on (by norm_num) fits rates
      attacked (request_alive started) count
    exact ⟨seen, q, run, length⟩
  · intro seen q run
    obtain ⟨made, attacking⟩ := run_attacking (by norm_num) fits rates attacked run
    rw [attacking.decided]
    have cost : attackCost 22000 = 44 := by decide +kernel
    rw [cost]
    exact (paced_admitted covered (by norm_num) (by norm_num) made).2

end IngestionEngine.Server
