import Mathlib.Data.List.Basic

/-!
# Guarded systems of atomic steps and their runs

A system answers each action of its environment, in each state, with the next state and
the observations the step leaves, or refuses the action. A run is a sequence of answered
actions; it keeps what was observed and the state it reached. A guard restricts the
actions a run may take, so one system serves both for all its runs and for the runs that
meet a stated condition. Executing a schedule computes a run, which is how a concrete
behaviour is shown to exist.
-/

namespace Systems

/-- A system whose actions are chosen outside it. -/
structure System (σ α ω : Type) where
  /-- The answer to an action: the next state and the observations, or a refusal. -/
  step : σ → α → Option (σ × List ω)

namespace System

variable {σ α ω τ β υ : Type}

/-- A guard that lets every action through. -/
def unguarded : σ → α → Prop := fun _ _ => True

instance (state : σ) (action : α) : Decidable (unguarded state action) :=
  inferInstanceAs (Decidable True)

/-- The runs of a system from a state whose actions all meet a guard, with the observations
in order and the state reached. -/
inductive Run (system : System σ α ω) (guard : σ → α → Prop) (init : σ) :
    List ω → σ → Prop where
  /-- The run that has taken no step. -/
  | start : Run system guard init [] init
  /-- One more answered action. -/
  | next {seen out : List ω} {state after : σ} {action : α}
      (before : Run system guard init seen state) (permitted : guard state action)
      (stepped : system.step state action = some (after, out)) :
      Run system guard init (seen ++ out) after

/-- Every run of a system, whatever its actions. -/
abbrev AnyRun (system : System σ α ω) (init : σ) : List ω → σ → Prop :=
  system.Run unguarded init

variable {system : System σ α ω} {guard : σ → α → Prop} {init : σ}

/-- A property of the observations and the state that holds at the start, and that every
permitted step keeps, holds after every run. -/
theorem Run.invariant (holds : List ω → σ → Prop) (initially : holds [] init)
    (kept : ∀ seen state action after out, holds seen state → guard state action →
      system.step state action = some (after, out) → holds (seen ++ out) after)
    {seen : List ω} {state : σ} (run : system.Run guard init seen state) :
    holds seen state := by
  induction run with
  | start => exact initially
  | next _ permitted stepped ih => exact kept _ _ _ _ _ ih permitted stepped

/-- The same rule for a property of the state alone. -/
theorem Run.state_invariant (holds : σ → Prop) (initially : holds init)
    (kept : ∀ state action after out, holds state → guard state action →
      system.step state action = some (after, out) → holds after)
    {seen : List ω} {state : σ} (run : system.Run guard init seen state) : holds state :=
  run.invariant (fun _ state => holds state) initially
    (fun _ state action after out held permitted stepped =>
      kept state action after out held permitted stepped)

/-- A run under a guard is a run under every weaker guard. -/
theorem Run.weaken {weaker : σ → α → Prop}
    (implied : ∀ state action, guard state action → weaker state action)
    {seen : List ω} {state : σ} (run : system.Run guard init seen state) :
    system.Run weaker init seen state := by
  induction run with
  | start => exact .start
  | next _ permitted stepped ih => exact .next ih (implied _ _ permitted) stepped

/-- Dropping the guard of a run. -/
theorem Run.any {seen : List ω} {state : σ} (run : system.Run guard init seen state) :
    system.AnyRun init seen state :=
  run.weaken fun _ _ _ => trivial

/-- Two runs, one starting where the other stopped, are one run. -/
theorem Run.append {first second : List ω} {middle last : σ}
    (run : system.Run guard init first middle) (rest : system.Run guard middle second last) :
    system.Run guard init (first ++ second) last := by
  induction rest with
  | start => rw [List.append_nil]; exact run
  | next _ permitted stepped ih =>
    rw [← List.append_assoc]
    exact .next ih permitted stepped

/-- A run of one system is a run of another when every step maps to one step of the other,
or leaves its state alone and shows it nothing. The relation between the two guards may use
that the state was reached. -/
theorem Run.project {target : System τ β υ} {permits : τ → β → Prop} (view : σ → τ)
    (observe : ω → List υ)
    (simulated : ∀ seen state action after out, system.Run guard init seen state →
      guard state action → system.step state action = some (after, out) →
      (view after = view state ∧ out.flatMap observe = []) ∨
        ∃ image, permits (view state) image ∧
          target.step (view state) image = some (view after, out.flatMap observe))
    {seen : List ω} {state : σ} (run : system.Run guard init seen state) :
    target.Run permits (view init) (seen.flatMap observe) (view state) := by
  induction run with
  | start => exact .start
  | next before permitted stepped ih =>
    rw [List.flatMap_append]
    rcases simulated _ _ _ _ _ before permitted stepped with
      ⟨unchanged, silent⟩ | ⟨image, allowed, moved⟩
    · rw [unchanged, silent, List.append_nil]
      exact ih
    · exact .next ih allowed moved

/-- The system that shows each action together with what it showed. -/
def labelled (system : System σ α ω) : System σ α (α × List ω) where
  step state action :=
    match system.step state action with
    | none => none
    | some (after, out) => some (after, [(action, out)])

/-- A step of the labelled system is a step of the system. -/
theorem labelled_step {state after : σ} {action : α} {shown : List (α × List ω)}
    (stepped : system.labelled.step state action = some (after, shown)) :
    ∃ out, system.step state action = some (after, out) ∧ shown = [(action, out)] := by
  simp only [labelled] at stepped
  split at stepped
  · contradiction
  · rename_i next out moved
    obtain ⟨rfl, rfl⟩ := stepped
    exact ⟨out, moved, rfl⟩

/-- A run with its actions is a run. -/
theorem Run.unlabel {history : List (α × List ω)} {state : σ}
    (run : system.labelled.Run guard init history state) :
    system.Run guard init (history.flatMap Prod.snd) state := by
  induction run with
  | start => exact .start
  | next _ permitted stepped ih =>
    obtain ⟨out, moved, rfl⟩ := labelled_step stepped
    rw [List.flatMap_append, List.flatMap_singleton]
    exact .next ih permitted moved

/-- The system beside which an observer keeps a history of what has happened; no step reads it. -/
def watched (system : System σ α ω) (watch : τ → σ → α → List ω → τ) : System (σ × τ) α ω where
  step state action :=
    match system.step state.1 action with
    | none => none
    | some (after, out) => some ((after, watch state.2 state.1 action out), out)

/-- A step that is watched is a step, and the history goes on. -/
theorem watched_step {watch : τ → σ → α → List ω → τ} {state after : σ × τ} {action : α}
    {out : List ω} (stepped : (system.watched watch).step state action = some (after, out)) :
    system.step state.1 action = some (after.1, out) ∧
      after.2 = watch state.2 state.1 action out := by
  simp only [watched] at stepped
  split at stepped
  · contradiction
  · rename_i next shown moved
    obtain ⟨rfl, rfl⟩ := stepped
    exact ⟨moved, rfl⟩

section Execution

variable (system : System σ α ω) (guard : σ → α → Prop)
  [∀ state action, Decidable (guard state action)]

/-- Execute a schedule: the state reached and the observations, unless some action on the
way is refused or does not meet the guard. -/
def exec : σ → List α → Option (σ × List ω)
  | state, [] => some (state, [])
  | state, action :: rest =>
    if guard state action then
      match system.step state action with
      | none => none
      | some (after, out) =>
        match exec after rest with
        | none => none
        | some (last, later) => some (last, out ++ later)
    else none

variable {system guard}

/-- A schedule that executes begins with a permitted step, and its rest executes after it. -/
theorem exec_cons {action : α} {rest : List α} {state last : σ} {seen : List ω}
    (executed : system.exec guard state (action :: rest) = some (last, seen)) :
    guard state action ∧ ∃ after out later, system.step state action = some (after, out) ∧
      system.exec guard after rest = some (last, later) ∧ seen = out ++ later := by
  rw [exec] at executed
  split at executed
  · rename_i permitted
    split at executed
    · contradiction
    · rename_i after out stepped
      split at executed
      · contradiction
      · rename_i final later tail
        simp only [Option.some.injEq, Prod.mk.injEq] at executed
        obtain ⟨rfl, rfl⟩ := executed
        exact ⟨permitted, after, out, later, stepped, tail, rfl⟩
  · contradiction

/-- What a schedule shows is shown by one of its steps. -/
theorem exec_shown {schedule : List α} {state last : σ} {seen : List ω}
    (executed : system.exec guard state schedule = some (last, seen)) {shown : ω}
    (member : shown ∈ seen) :
    ∃ action ∈ schedule, ∃ before after out, system.step before action = some (after, out) ∧
      shown ∈ out := by
  induction schedule generalizing state seen with
  | nil =>
    simp only [exec, Option.some.injEq, Prod.mk.injEq] at executed
    obtain ⟨_, rfl⟩ := executed
    contradiction
  | cons action rest ih =>
    obtain ⟨_, after, out, later, stepped, tail, rfl⟩ := exec_cons executed
    rcases List.mem_append.mp member with own | others
    · exact ⟨action, List.mem_cons_self, state, after, out, stepped, own⟩
    · obtain ⟨other, inside, shows⟩ := ih tail others
      exact ⟨other, List.mem_cons_of_mem _ inside, shows⟩

/-- A schedule that executes is a run. -/
theorem exec_run {schedule : List α} {state last : σ} {seen : List ω}
    (executed : system.exec guard state schedule = some (last, seen)) :
    system.Run guard state seen last := by
  induction schedule generalizing state seen with
  | nil =>
    simp only [exec, Option.some.injEq, Prod.mk.injEq] at executed
    obtain ⟨rfl, rfl⟩ := executed
    exact .start
  | cons action rest ih =>
    obtain ⟨permitted, after, out, later, stepped, tail, rfl⟩ := exec_cons executed
    have first : system.Run guard state out after := by
      have one := Run.next Run.start permitted stepped
      rwa [List.nil_append] at one
    exact first.append (ih tail)

/-- A schedule of two parts executes when both parts do, one after the other. -/
theorem exec_append {first second : List α} {state middle last : σ} {seen later : List ω}
    (head : system.exec guard state first = some (middle, seen))
    (tail : system.exec guard middle second = some (last, later)) :
    system.exec guard state (first ++ second) = some (last, seen ++ later) := by
  induction first generalizing state seen with
  | nil =>
    simp only [exec, Option.some.injEq, Prod.mk.injEq] at head
    obtain ⟨rfl, rfl⟩ := head
    exact tail
  | cons action rest ih =>
    obtain ⟨permitted, after, out, more, stepped, executed, rfl⟩ := exec_cons head
    rw [List.cons_append, exec, if_pos permitted]
    simp only [stepped, ih executed, List.append_assoc]

/-- The parts of a schedule that executes do. -/
theorem exec_split {first second : List α} {state last : σ} {seen : List ω}
    (executed : system.exec guard state (first ++ second) = some (last, seen)) :
    ∃ middle early late, system.exec guard state first = some (middle, early) ∧
      system.exec guard middle second = some (last, late) ∧ seen = early ++ late := by
  induction first generalizing state seen with
  | nil => exact ⟨state, [], seen, rfl, executed, rfl⟩
  | cons action rest ih =>
    rw [List.cons_append] at executed
    obtain ⟨permitted, after, out, later, stepped, tail, rfl⟩ := exec_cons executed
    obtain ⟨middle, early, late, head, ended, rfl⟩ := ih tail
    refine ⟨middle, out ++ early, late, ?_, ended, (List.append_assoc ..).symm⟩
    rw [exec, if_pos permitted]
    simp only [stepped, head]

/-- One permitted step is a schedule. -/
theorem exec_one {action : α} {state after : σ} {out : List ω} (permitted : guard state action)
    (stepped : system.step state action = some (after, out)) :
    system.exec guard state [action] = some (after, out) := by
  simp only [exec, if_pos permitted, stepped, List.append_nil]

/-- A schedule of one action is a permitted step. -/
theorem exec_only {action : α} {state after : σ} {out : List ω}
    (executed : system.exec guard state [action] = some (after, out)) :
    guard state action ∧ system.step state action = some (after, out) := by
  obtain ⟨permitted, last, shown, none, stepped, ended, rfl⟩ := exec_cons executed
  simp only [exec, Option.some.injEq, Prod.mk.injEq] at ended
  obtain ⟨rfl, rfl⟩ := ended
  rw [List.append_nil]
  exact ⟨permitted, stepped⟩

variable (system guard)

/-- A schedule whose outcome passes a test gives a run whose outcome passes it. -/
theorem exec_witness (state : σ) (schedule : List α) (test : σ × List ω → Bool)
    (passed : (system.exec guard state schedule).any test = true) :
    ∃ seen last, system.Run guard state seen last ∧ test (last, seen) = true := by
  cases outcome : system.exec guard state schedule with
  | none => simp [outcome] at passed
  | some result =>
    obtain ⟨last, seen⟩ := result
    simp only [outcome, Option.any_some] at passed
    exact ⟨seen, last, exec_run outcome, passed⟩

end Execution

end System

end Systems
