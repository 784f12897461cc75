import IngestionEngine.Systems.Program
import IngestionEngine.Systems.Run

/-!
# Programs that take the steps of a system

Through a view of its state, a program may be seen to take steps of another system, and through
a reading of its observations to show what these steps show. The rules follow the program. A
system whose every step takes steps of another has its runs among those of the other, so what
holds of every run of the other holds of it.
-/

namespace Systems

namespace Program

variable {σ τ ω υ ε α β γ : Type}

/-- Through the view, the program takes the given steps from a state, and ends as given. -/
structure Performs (target : System τ γ υ) (view : σ → τ) (observe : ω → List υ)
    (program : Program σ ω ε α) (state : σ) (steps : List γ) (result : Except ε α) : Prop where
  /-- The steps lead to the state that it leaves, and show what it shows. -/
  executed : target.exec System.unguarded (view state) steps =
    some (view (program.run state).state, (program.run state).out.flatMap observe)
  /-- How it ends. -/
  ended : (program.run state).result = result

variable {target : System τ γ υ} {view : σ → τ} {observe : ω → List υ} {state : σ}

namespace Performs

/-- A program that leaves the view alone and shows nothing takes no step. -/
theorem silent {program : Program σ ω ε α}
    (same : view (program.run state).state = view state)
    (quiet : (program.run state).out.flatMap observe = []) :
    Performs target view observe program state [] (program.run state).result :=
  ⟨by rw [same, quiet]; rfl, rfl⟩

/-- A program that does what a step does takes the step. -/
theorem one {program : Program σ ω ε α} {step : γ}
    (stepped : target.step (view state) step =
      some (view (program.run state).state, (program.run state).out.flatMap observe)) :
    Performs target view observe program state [step] (program.run state).result :=
  ⟨System.exec_one trivial stepped, rfl⟩

/-- A program whose outcome is known to leave the view alone takes no step. -/
theorem silent_run {program : Program σ ω ε α} {after : σ} {out : List ω} {result : Except ε α}
    (ran : program.run state = ⟨after, out, result⟩) (same : view after = view state)
    (quiet : out.flatMap observe = []) :
    Performs target view observe program state [] result := by
  have takes : Performs target view observe program state [] (program.run state).result :=
    silent (by rw [ran]; exact same) (by rw [ran]; exact quiet)
  rwa [ran] at takes

/-- A program whose outcome is known takes the step that has this outcome. -/
theorem of_run {program : Program σ ω ε α} {after : σ} {out : List ω} {result : Except ε α}
    {step : γ} (ran : program.run state = ⟨after, out, result⟩)
    (stepped : target.step (view state) step = some (view after, out.flatMap observe)) :
    Performs target view observe program state [step] result :=
  ⟨System.exec_one trivial (by rw [stepped, ran]), by rw [ran]⟩

/-- A program that does what another does takes its steps. -/
theorem of_same_run {program other : Program σ ω ε α} {steps : List γ} {result : Except ε α}
    (same : program.run state = other.run state)
    (performs : Performs target view observe other state steps result) :
    Performs target view observe program state steps result := by
  obtain ⟨executed, ended⟩ := performs
  rw [← same] at executed ended
  exact ⟨executed, ended⟩

/-- A program that does what a step does, and goes on as another, takes the step first. -/
theorem goes_on {program rest : Program σ ω ε α} {middle : σ} {result : Except ε α}
    {step : γ} {steps : List γ} (out : List ω)
    (ran : program.run state = (rest.run middle).after out)
    (stepped : target.step (view state) step = some (view middle, out.flatMap observe))
    (later : Performs target view observe rest middle steps result) :
    Performs target view observe program state (step :: steps) result := by
  refine ⟨?_, by rw [ran]; exact later.ended⟩
  have first : target.exec System.unguarded (view state) [step] =
      some (view middle, out.flatMap observe) := System.exec_one trivial stepped
  rw [← List.singleton_append, System.exec_append first later.executed, ran]
  simp only [Outcome.after, List.flatMap_append]

/-- There is a state that the program leaves. -/
theorem leaves {program : Program σ ω ε α} {steps : List γ} {result : Except ε α}
    (_ : Performs target view observe program state steps result) :
    ∃ after, (program.run state).state = after := ⟨_, rfl⟩

/-- Two programs in a row take the steps of the first and then those of the second. -/
theorem bind {program : Program σ ω ε α} {next : α → Program σ ω ε β} {value : α}
    {steps later : List γ} {result : Except ε β}
    (first : Performs target view observe program state steps (.ok value))
    (second : Performs target view observe (next value) (program.run state).state later result) :
    Performs target view observe (program >>= next) state (steps ++ later) result := by
  obtain ⟨executed, ended⟩ := first
  obtain ⟨then_, last⟩ := second
  have ran : (program >>= next).run state =
      ((next value).run (program.run state).state).after (program.run state).out := by
    rw [run_bind]
    generalize program.run state = outcome at ended ⊢
    obtain ⟨middle, out, result⟩ := outcome
    obtain rfl : result = .ok value := ended
    rfl
  refine ⟨?_, by rw [ran]; exact last⟩
  rw [System.exec_append executed then_, ran]
  simp only [Outcome.after, List.flatMap_append]

/-- A program that takes no step may follow. -/
theorem andSilent {program : Program σ ω ε α} {next : α → Program σ ω ε β} {value : α}
    {steps : List γ} {result : Except ε β}
    (first : Performs target view observe program state steps (.ok value))
    (second : Performs target view observe (next value) (program.run state).state [] result) :
    Performs target view observe (program >>= next) state steps result := by
  have both := first.bind second
  rwa [List.append_nil] at both

/-- A program that throws is not followed by another. -/
theorem stop {program : Program σ ω ε α} {next : α → Program σ ω ε β} {thrown : ε}
    {steps : List γ} (first : Performs target view observe program state steps (.error thrown)) :
    Performs target view observe (program >>= next) state steps (.error thrown) := by
  obtain ⟨executed, ended⟩ := first
  have ran : (program >>= next).run state =
      ⟨(program.run state).state, (program.run state).out, .error thrown⟩ := by
    rw [run_bind]
    generalize program.run state = outcome at ended ⊢
    obtain ⟨middle, out, result⟩ := outcome
    obtain rfl : result = .error thrown := ended
    rfl
  exact ⟨by rw [ran]; exact executed, by rw [ran]⟩

end Performs

/-- From every state, the program takes only steps that are permitted. -/
def Takes (target : System τ γ υ) (view : σ → τ) (observe : ω → List υ) (permits : γ → Prop)
    (program : Program σ ω ε α) : Prop :=
  ∀ state, ∃ steps result, Performs target view observe program state steps result ∧
    ∀ step ∈ steps, permits step

variable {permits : γ → Prop}

/-- A program that leaves the view alone and shows nothing takes no step. -/
theorem takes_silent {program : Program σ ω ε α}
    (same : ∀ state, view (program.run state).state = view state)
    (quiet : ∀ state, (program.run state).out.flatMap observe = []) :
    Takes target view observe permits program :=
  fun state => ⟨[], _, .silent (same state) (quiet state), nofun⟩

/-- A value takes no step. -/
theorem takes_pure (value : α) :
    Takes target view observe permits (pure value : Program σ ω ε α) :=
  takes_silent (fun _ => rfl) fun _ => rfl

/-- A program that does what a permitted step does takes it. -/
theorem takes_one {program : Program σ ω ε α} {step : γ} (permitted : permits step)
    (stepped : ∀ state, target.step (view state) step =
      some (view (program.run state).state, (program.run state).out.flatMap observe)) :
    Takes target view observe permits program :=
  fun state => ⟨[step], _, .one (stepped state), by simpa using permitted⟩

/-- Two programs in a row take only the steps that both take. -/
theorem takes_bind {program : Program σ ω ε α} {next : α → Program σ ω ε β}
    (first : Takes target view observe permits program)
    (second : ∀ value, Takes target view observe permits (next value)) :
    Takes target view observe permits (program >>= next) := by
  intro state
  obtain ⟨steps, result, performs, permitted⟩ := first state
  cases result with
  | error thrown => exact ⟨steps, _, performs.stop, permitted⟩
  | ok value =>
    obtain ⟨later, last, then_, allowed⟩ := second value (program.run state).state
    refine ⟨steps ++ later, last, performs.bind then_, fun step member => ?_⟩
    exact (List.mem_append.mp member).elim (permitted step) (allowed step)

/-- What follows a value that was taken need only be shown for that value. -/
theorem takes_lift_bind {value : Except ε α} {next : α → Program σ ω ε β}
    (second : ∀ taken, value = .ok taken → Takes target view observe permits (next taken)) :
    Takes target view observe permits (lift value >>= next) := by
  cases value with
  | ok taken =>
    intro state
    obtain ⟨later, last, then_, allowed⟩ := second taken rfl state
    have first : Performs target view observe (lift (.ok taken) : Program σ ω ε α) state []
        (.ok taken) := .silent rfl rfl
    exact ⟨[] ++ later, last, first.bind then_, allowed⟩
  | error thrown =>
    intro state
    have first : Performs target view observe (lift (.error thrown) : Program σ ω ε α) state []
        (.error thrown) := .silent rfl rfl
    exact ⟨[], _, first.stop, nofun⟩

/-- A choice takes only the steps of its branches. -/
theorem takes_ite {condition : Prop} [Decidable condition] {yes no : Program σ ω ε α}
    (first : condition → Takes target view observe permits yes)
    (second : Takes target view observe permits no) :
    Takes target view observe permits (if condition then yes else no) := by
  split
  · rename_i chosen
    exact first chosen
  · exact second

end Program

namespace System

variable {σ τ ω υ α γ : Type} {system : System σ α ω} {target : System τ γ υ}
  {guard : σ → α → Prop} {init : σ}

/-- A schedule of permitted steps is a run. -/
theorem exec_permitted {permits : γ → Prop} {schedule : List γ} {state last : τ} {seen : List υ}
    (executed : target.exec unguarded state schedule = some (last, seen))
    (permitted : ∀ step ∈ schedule, permits step) :
    target.Run (fun _ step => permits step) state seen last := by
  induction schedule generalizing state seen with
  | nil =>
    simp only [exec, Option.some.injEq, Prod.mk.injEq] at executed
    obtain ⟨rfl, rfl⟩ := executed
    exact .start
  | cons step rest ih =>
    obtain ⟨_, after, out, later, stepped, tail, rfl⟩ := exec_cons executed
    have one : target.Run (fun _ step => permits step) state ([] ++ out) after :=
      .next .start (permitted step List.mem_cons_self) stepped
    rw [List.nil_append] at one
    exact one.append (ih tail fun other member => permitted other (.tail _ member))

/-- When every step of a system takes permitted steps of another, so does every run. -/
theorem Run.refine {permits : γ → Prop} (view : σ → τ) (observe : ω → List υ)
    (refined : ∀ seen state action after out, system.Run guard init seen state →
      guard state action → system.step state action = some (after, out) →
      ∃ steps, target.exec unguarded (view state) steps =
        some (view after, out.flatMap observe) ∧ ∀ step ∈ steps, permits step)
    {seen : List ω} {state : σ} (run : system.Run guard init seen state) :
    target.Run (fun _ step => permits step) (view init) (seen.flatMap observe) (view state) := by
  induction run with
  | start => exact .start
  | next before permitted stepped ih =>
    obtain ⟨steps, executed, allowed⟩ := refined _ _ _ _ _ before permitted stepped
    rw [List.flatMap_append]
    exact ih.append (exec_permitted executed allowed)

end System

end Systems
