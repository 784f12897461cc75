import Mathlib.Data.List.Nodup

/-!
# Timers of an event loop

A timer runs its task when it fires. A timeout fires once and is gone, an interval is due
again a period later, and either can be cleared by its identifier. That identifiers are not
given twice is part of the loop, so clearing one timer cannot clear another.
-/

namespace Systems

/-- A timer that has been set. -/
structure Timer (τ : Type) where
  /-- What `clearTimeout` and `clearInterval` know it by. -/
  id : Nat
  /-- What it runs. -/
  task : τ
  /-- When it is due. -/
  due : Int
  /-- The time between two firings, of an interval. -/
  period : Option Int
  deriving DecidableEq

/-- The timers of an event loop. -/
structure EventLoop (τ : Type) where
  /-- The clock reading of the callback that runs. -/
  time : Int
  /-- The identifier of the next timer. -/
  nextId : Nat
  /-- The timers that can fire. -/
  timers : List (Timer τ)
  /-- The next identifier is new. -/
  fresh : ∀ timer ∈ timers, timer.id < nextId
  /-- No two timers share an identifier. -/
  distinct : (timers.map Timer.id).Nodup

namespace EventLoop

variable {τ : Type}

/-- A loop without timers. -/
def empty (time : Int) : EventLoop τ where
  time := time
  nextId := 0
  timers := []
  fresh := nofun
  distinct := List.nodup_nil

/-- A callback starts. -/
def advance (loop : EventLoop τ) (time : Int) : EventLoop τ := { loop with time }

/-- `setTimeout` and `setInterval`; the timer gets the identifier `nextId`. -/
def set (loop : EventLoop τ) (task : τ) (delay : Int) (period : Option Int) : EventLoop τ where
  time := loop.time
  nextId := loop.nextId + 1
  timers := loop.timers ++ [{ id := loop.nextId, task, due := loop.time + delay, period }]
  fresh := by
    intro timer member
    rcases List.mem_append.mp member with old | new
    · exact Nat.lt_succ_of_lt (loop.fresh timer old)
    · rw [List.mem_singleton.mp new]
      exact Nat.lt_succ_self _
  distinct := by
    rw [List.map_append, List.nodup_append]
    refine ⟨loop.distinct, List.nodup_singleton _, ?_⟩
    intro old member new last
    obtain ⟨timer, inside, rfl⟩ := List.mem_map.mp member
    rw [List.map_singleton, List.mem_singleton] at last
    rw [last]
    exact Nat.ne_of_lt (loop.fresh timer inside)

/-- `clearTimeout` and `clearInterval` of a handle, which may be null. -/
def clear (loop : EventLoop τ) (handle : Option Nat) : EventLoop τ where
  time := loop.time
  nextId := loop.nextId
  timers := loop.timers.filter (handle ≠ some ·.id)
  fresh := fun timer member => loop.fresh timer (List.mem_of_mem_filter member)
  distinct := loop.distinct.sublist (List.filter_sublist.map Timer.id)

/-- The timer with an identifier. -/
def find (loop : EventLoop τ) (id : Nat) : Option (Timer τ) := loop.timers.find? (·.id = id)

/-- The next firing of an interval. -/
def Timer.again (timer : Timer τ) (id : Nat) (due : Int) : Timer τ :=
  if timer.id = id then { timer with due } else timer

/-- The same timer fires again. -/
theorem Timer.again_id (timer : Timer τ) (id : Nat) (due : Int) :
    (Timer.again timer id due).id = timer.id := by
  unfold Timer.again
  split <;> rfl

/-- It runs the same task. -/
theorem Timer.again_task (timer : Timer τ) (id : Nat) (due : Int) :
    (Timer.again timer id due).task = timer.task := by
  unfold Timer.again
  split <;> rfl

/-- An interval is due again. -/
def renew (loop : EventLoop τ) (id : Nat) (period : Int) : EventLoop τ where
  time := loop.time
  nextId := loop.nextId
  timers := loop.timers.map (Timer.again · id (loop.time + period))
  fresh := by
    intro timer member
    obtain ⟨old, inside, rfl⟩ := List.mem_map.mp member
    rw [Timer.again_id]
    exact loop.fresh old inside
  distinct := by
    have same : (loop.timers.map (Timer.again · id (loop.time + period))).map Timer.id =
        loop.timers.map Timer.id := by
      rw [List.map_map]
      exact List.map_congr_left fun timer _ => Timer.again_id timer id _
    rw [same]
    exact loop.distinct

/-- A timer fires: an interval is due again, a timeout is gone. -/
def fire (loop : EventLoop τ) (timer : Timer τ) : EventLoop τ :=
  match timer.period with
  | some period => loop.renew timer.id period
  | none => loop.clear (some timer.id)

/-- A timer that was found can fire, and has the identifier. -/
theorem find_some {loop : EventLoop τ} {id : Nat} {timer : Timer τ}
    (found : loop.find id = some timer) : timer ∈ loop.timers ∧ timer.id = id := by
  refine ⟨List.mem_of_find?_eq_some found, ?_⟩
  have named := List.find?_some found
  exact of_decide_eq_true named

/-- The identifier names the timer. -/
theorem eq_of_id {loop : EventLoop τ} {first second : Timer τ} (one : first ∈ loop.timers)
    (two : second ∈ loop.timers) (same : first.id = second.id) : first = second :=
  List.inj_on_of_nodup_map loop.distinct one two same

/-- Every timer is found by its identifier. -/
theorem find_id {loop : EventLoop τ} {timer : Timer τ} (member : timer ∈ loop.timers) :
    loop.find timer.id = some timer := by
  cases found : loop.find timer.id with
  | none =>
    have missing := List.find?_eq_none.mp found timer member
    simp at missing
  | some other =>
    obtain ⟨inside, same⟩ := find_some found
    rw [eq_of_id inside member same]

/-! ### Which tasks have a timer -/

/-- The identifier belongs to a timer with the task. -/
def Runs (loop : EventLoop τ) (id : Nat) (task : τ) : Prop :=
  ∃ timer ∈ loop.timers, timer.id = id ∧ timer.task = task

/-- An identifier in use is below the next one. -/
theorem Runs.fresh {loop : EventLoop τ} {id : Nat} {task : τ} (runs : loop.Runs id task) :
    id < loop.nextId := by
  obtain ⟨timer, member, rfl, _⟩ := runs
  exact loop.fresh timer member

/-- An identifier runs one task. -/
theorem Runs.unique {loop : EventLoop τ} {id : Nat} {first second : τ}
    (one : loop.Runs id first) (two : loop.Runs id second) : first = second := by
  obtain ⟨timer, member, named, rfl⟩ := one
  obtain ⟨other, inside, same, rfl⟩ := two
  rw [eq_of_id member inside (named.trans same.symm)]

/-- A new timer runs its task, and the others run theirs. -/
theorem runs_set {loop : EventLoop τ} {task other : τ} {delay : Int} {period : Option Int}
    {id : Nat} :
    (loop.set task delay period).Runs id other ↔
      loop.Runs id other ∨ (id = loop.nextId ∧ other = task) := by
  simp only [Runs, set, List.mem_append, List.mem_singleton, or_and_right, exists_or,
    exists_eq_left, eq_comm]

/-- Clearing stops the timer of the handle and no other. -/
theorem runs_clear {loop : EventLoop τ} {handle : Option Nat} {id : Nat} {task : τ} :
    (loop.clear handle).Runs id task ↔ loop.Runs id task ∧ handle ≠ some id := by
  simp only [Runs, clear, List.mem_filter, decide_eq_true_eq]
  constructor
  · rintro ⟨timer, ⟨member, different⟩, rfl, rfl⟩
    exact ⟨⟨timer, member, rfl, rfl⟩, different⟩
  · rintro ⟨⟨timer, member, rfl, rfl⟩, different⟩
    exact ⟨timer, ⟨member, different⟩, rfl, rfl⟩

/-- An interval that is due again runs what it ran. -/
theorem runs_renew {loop : EventLoop τ} {renewed id : Nat} {period : Int} {task : τ} :
    (loop.renew renewed period).Runs id task ↔ loop.Runs id task := by
  simp only [Runs, renew, List.mem_map, exists_exists_and_eq_and, Timer.again_id,
    Timer.again_task]

/-- Firing stops a timeout, and only it. -/
theorem runs_fire {loop : EventLoop τ} {timer : Timer τ} {id : Nat} {task : τ} :
    (loop.fire timer).Runs id task ↔
      loop.Runs id task ∧ (timer.period = none → id ≠ timer.id) := by
  unfold fire
  cases timer.period with
  | none =>
    rw [runs_clear]
    simp [eq_comm]
  | some period =>
    rw [runs_renew]
    simp

/-! ### Which timers are intervals -/

/-- Something that holds of the task and the period of every timer. -/
def All (loop : EventLoop τ) (holds : τ → Option Int → Prop) : Prop :=
  ∀ timer ∈ loop.timers, holds timer.task timer.period

variable {holds : τ → Option Int → Prop} {loop : EventLoop τ}

/-- It holds with a new timer of which it holds. -/
theorem All.set {task : τ} {period : Option Int} (held : loop.All holds) (new : holds task period)
    (delay : Int) : (loop.set task delay period).All holds := by
  intro timer member
  rcases List.mem_append.mp member with old | last
  · exact held timer old
  · rw [List.mem_singleton.mp last]
    exact new

/-- It holds without a timer. -/
theorem All.clear (held : loop.All holds) (handle : Option Nat) : (loop.clear handle).All holds :=
  fun timer member => held timer (List.mem_of_mem_filter member)

/-- It holds after a timer has fired. -/
theorem All.fire (held : loop.All holds) (timer : Timer τ) : (loop.fire timer).All holds := by
  unfold EventLoop.fire
  cases timer.period with
  | none => exact held.clear _
  | some period =>
    intro renewed member
    obtain ⟨old, inside, rfl⟩ := List.mem_map.mp member
    have same : holds (Timer.again old timer.id (loop.time + period)).task
        (Timer.again old timer.id (loop.time + period)).period := by
      rw [Timer.again_task]
      unfold Timer.again
      split <;> exact held old inside
    exact same

/-! ### Which timers are pending -/

/-- A new timer is pending beside the others. -/
theorem mem_set {loop : EventLoop τ} {task : τ} {delay : Int} {period : Option Int}
    {timer : Timer τ} :
    timer ∈ (loop.set task delay period).timers ↔
      timer ∈ loop.timers ∨ timer = ⟨loop.nextId, task, loop.time + delay, period⟩ := by
  rw [set, List.mem_append, List.mem_singleton]

/-- Clearing leaves the timers with other identifiers. -/
theorem mem_clear {loop : EventLoop τ} {handle : Option Nat} {timer : Timer τ} :
    timer ∈ (loop.clear handle).timers ↔ timer ∈ loop.timers ∧ handle ≠ some timer.id := by
  rw [clear, List.mem_filter, decide_eq_true_eq]

/-- Firing leaves the timers with other identifiers. -/
theorem mem_fire {loop : EventLoop τ} {timer other : Timer τ} (member : other ∈ loop.timers)
    (different : other.id ≠ timer.id) : other ∈ (loop.fire timer).timers := by
  unfold fire
  cases timer.period with
  | none =>
    apply mem_clear.mpr
    exact ⟨member, fun same => different (Option.some.inj same).symm⟩
  | some period =>
    apply List.mem_map.mpr
    refine ⟨other, member, ?_⟩
    rw [Timer.again, if_neg different]

/-- An interval that fires is due again. -/
theorem mem_fire_again {loop : EventLoop τ} {timer : Timer τ} {period : Int}
    (member : timer ∈ loop.timers) (interval : timer.period = some period) :
    { timer with due := loop.time + period } ∈ (loop.fire timer).timers := by
  have renewed : loop.fire timer = loop.renew timer.id period := by
    rw [fire, interval]
  rw [renewed]
  apply List.mem_map.mpr
  exact ⟨timer, member, if_pos rfl⟩

/-- Firing leaves no timers but those that were pending and the interval that is due again. -/
theorem of_mem_fire {loop : EventLoop τ} {timer other : Timer τ}
    (member : other ∈ (loop.fire timer).timers) :
    other ∈ loop.timers ∨ timer.period ≠ none ∧ ∃ old ∈ loop.timers, old.id = timer.id ∧
      other.task = old.task := by
  unfold fire at member
  cases interval : timer.period with
  | none =>
    rw [interval] at member
    exact .inl (mem_clear.mp member).1
  | some period =>
    rw [interval] at member
    obtain ⟨old, inside, rfl⟩ := List.mem_map.mp member
    by_cases same : old.id = timer.id
    · exact .inr ⟨Option.some_ne_none period, old, inside, same, Timer.again_task old _ _⟩
    · rw [Timer.again, if_neg same]
      exact .inl inside

/-! ### Tasks with one timer -/

/-- A timer that is the only one with a task of some kind. -/
theorem sole {kind : τ → Bool} {loop : EventLoop τ} {timer : Timer τ}
    (live : timer ∈ loop.timers) (own : kind timer.task = true)
    (only : ∀ id task, kind task = true → loop.Runs id task → id = timer.id) :
    loop.timers.filter (kind ·.task) = [timer] := by
  have nodup : (loop.timers.filter (kind ·.task)).Nodup := loop.distinct.of_map.filter _
  have member : timer ∈ loop.timers.filter (kind ·.task) := List.mem_filter.mpr ⟨live, own⟩
  by_contra different
  rcases (nodup.ne_singleton_iff timer).mp different with none | ⟨other, found, unlike⟩
  · rw [none] at member
    contradiction
  · obtain ⟨inside, same⟩ := List.mem_filter.mp found
    have named : other.id = timer.id := only other.id other.task same ⟨other, inside, rfl, rfl⟩
    exact unlike (eq_of_id inside live named)

/-- A timer with a task of some kind is the only one if a handle names all of them. -/
theorem sole_named {kind : τ → Bool} {loop : EventLoop τ} {timer : Timer τ} {handle : Option Nat}
    (live : timer ∈ loop.timers) (own : kind timer.task = true)
    (names : ∀ id task, kind task = true → loop.Runs id task → handle = some id) :
    loop.timers.filter (kind ·.task) = [timer] ∧ handle = some timer.id := by
  have named : handle = some timer.id := names timer.id timer.task own ⟨timer, live, rfl, rfl⟩
  refine ⟨sole live own fun id task other runs => ?_, named⟩
  have same : handle = some id := names id task other runs
  rw [named] at same
  exact (Option.some.inj same).symm

end EventLoop

end Systems
