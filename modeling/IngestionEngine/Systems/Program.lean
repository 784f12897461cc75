import Mathlib.Data.List.Basic

/-!
# Programs with a state, observations and exceptions

A program reads and changes a state, shows observations on the way, and ends with a value or
an exception. An exception keeps the changes made before it. The rules say what holds of the
state a program leaves, whichever way it ends.
-/

namespace Systems

/-- What a program leaves. -/
structure Outcome (σ ω ε α : Type) where
  /-- The state when it ended. -/
  state : σ
  /-- The observations in order. -/
  out : List ω
  /-- The value, or the exception that ended it. -/
  result : Except ε α

/-- A program over a state. -/
def Program (σ ω ε α : Type) := σ → Outcome σ ω ε α

namespace Program

variable {σ ω ε α β : Type}

/-- Run a program from a state. -/
def run (program : Program σ ω ε α) (state : σ) : Outcome σ ω ε α := program state

end Program

namespace Outcome

variable {σ ω ε α β : Type}

/-- Put observations in front. -/
def after (outcome : Outcome σ ω ε α) (earlier : List ω) : Outcome σ ω ε α :=
  { outcome with out := earlier ++ outcome.out }

/-- Forget the value. -/
def discard (outcome : Outcome σ ω ε α) : Outcome σ ω ε Unit :=
  ⟨outcome.state, outcome.out, outcome.result.map fun _ => ()⟩

/-- Go on with the value, if there is one. -/
def andThen : Outcome σ ω ε α → (α → Program σ ω ε β) → Outcome σ ω ε β
  | ⟨state, out, .ok value⟩, next => ((next value).run state).after out
  | ⟨state, out, .error thrown⟩, _ => ⟨state, out, .error thrown⟩

end Outcome

namespace Program

variable {σ ω ε α β : Type}

instance : Monad (Program σ ω ε) where
  pure value := fun state => ⟨state, [], .ok value⟩
  bind program next := fun state => (program.run state).andThen next

/-- Read the state. -/
def read : Program σ ω ε σ := fun state => ⟨state, [], .ok state⟩

/-- Change the state. -/
def modify (change : σ → σ) : Program σ ω ε Unit := fun state => ⟨change state, [], .ok ()⟩

/-- Show an observation. -/
def emit (shown : ω) : Program σ ω ε Unit := fun state => ⟨state, [shown], .ok ()⟩

/-- Take a value, or throw. -/
def lift (value : Except ε α) : Program σ ω ε α := fun state => ⟨state, [], value⟩

/-- Do something only if a condition holds. -/
def onlyIf (condition : Prop) [Decidable condition] (program : Program σ ω ε Unit) :
    Program σ ω ε Unit :=
  if condition then program else pure ()

/-! ### What each program does -/

/-- A value leaves the state alone. -/
@[simp] theorem run_pure (value : α) (state : σ) :
    (pure value : Program σ ω ε α).run state = ⟨state, [], .ok value⟩ := rfl

/-- Two programs in a row run one after the other. -/
@[simp] theorem run_bind (program : Program σ ω ε α) (next : α → Program σ ω ε β) (state : σ) :
    (program >>= next).run state = (program.run state).andThen next := rfl

/-- An observation is shown. -/
@[simp] theorem run_emit (shown : ω) (state : σ) :
    (emit shown : Program σ ω ε Unit).run state = ⟨state, [shown], .ok ()⟩ := rfl

/-- A value that was computed outside ends the program as it says. -/
@[simp] theorem run_lift (value : Except ε α) (state : σ) :
    (lift value : Program σ ω ε α).run state = ⟨state, [], value⟩ := rfl

/-- After a value the next program runs. -/
@[simp] theorem andThen_ok (state : σ) (out : List ω) (value : α) (next : α → Program σ ω ε β) :
    Outcome.andThen ⟨state, out, .ok value⟩ next = ((next value).run state).after out := rfl

/-- Earlier observations come first. -/
@[simp] theorem after_mk (state : σ) (out earlier : List ω) (result : Except ε α) :
    Outcome.after ⟨state, out, result⟩ earlier = ⟨state, earlier ++ out, result⟩ := rfl

/-- They do not change the state. -/
@[simp] theorem after_state (outcome : Outcome σ ω ε α) (earlier : List ω) :
    (outcome.after earlier).state = outcome.state := rfl

/-- They do not change the result. -/
@[simp] theorem after_result (outcome : Outcome σ ω ε α) (earlier : List ω) :
    (outcome.after earlier).result = outcome.result := rfl

/-- What follows and leaves the state alone may be left out. -/
theorem run_bind_state {program : Program σ ω ε α} {next : α → Program σ ω ε β}
    (kept : ∀ value state, ((next value).run state).state = state) (state : σ) :
    ((program >>= next).run state).state = (program.run state).state := by
  rw [run_bind]
  generalize program.run state = outcome
  obtain ⟨left, out, result⟩ := outcome
  cases result with
  | error thrown => rfl
  | ok value => exact kept value left

/-- Computing a last value from what came before does nothing else. -/
theorem discard_bind {program : Program σ ω ε α} {next : α → Program σ ω ε Unit} (last : α → β)
    (state : σ) :
    ((program >>= fun value => next value >>= fun _ => pure (last value)).run state).discard =
      (program >>= next).run state := by
  simp only [run_bind]
  generalize program.run state = outcome
  obtain ⟨middle, out, result⟩ := outcome
  cases result with
  | error thrown => rfl
  | ok value =>
    simp only [andThen_ok, run_bind]
    generalize (next value).run middle = outcome
    obtain ⟨left, shown, result⟩ := outcome
    cases result with
    | error thrown => rfl
    | ok ended => simp only [Outcome.andThen, run_pure, Outcome.after, Outcome.discard,
        List.append_nil, Except.map]

/-- So does giving a value back after a program without one. -/
theorem discard_pure {program : Program σ ω ε Unit} (last : β) (state : σ) :
    ((program >>= fun _ => pure last).run state).discard = program.run state := by
  rw [run_bind]
  generalize program.run state = outcome
  obtain ⟨middle, out, result⟩ := outcome
  cases result with
  | error thrown => rfl
  | ok ended =>
    simp only [Outcome.andThen, run_pure, Outcome.after, Outcome.discard, List.append_nil,
      Except.map]

/-- The last value is computed from the one before. -/
theorem result_bind {program : Program σ ω ε α} {next : α → Program σ ω ε Unit} {last : α → β}
    (returns : ∀ value state, ((next value).run state).result = .ok ()) (state : σ) :
    ((program >>= fun value => next value >>= fun _ => pure (last value)).run state).result =
      (program.run state).result.map last := by
  rw [run_bind]
  generalize program.run state = outcome
  obtain ⟨middle, out, result⟩ := outcome
  cases result with
  | error thrown => rfl
  | ok value =>
    have returned := returns value middle
    simp only [andThen_ok, run_bind]
    generalize (next value).run middle = outcome at returned ⊢
    obtain ⟨left, shown, result⟩ := outcome
    obtain rfl : result = .ok () := returned
    rfl

/-- A conditional program runs or does nothing. -/
theorem run_onlyIf (condition : Prop) [Decidable condition] (program : Program σ ω ε Unit)
    (state : σ) : (onlyIf condition program).run state =
      if condition then program.run state else ⟨state, [], .ok ()⟩ := by
  unfold onlyIf
  split <;> rfl

/-! ### What every outcome keeps -/

/-- Whatever way the program ends, a property of the state is kept. -/
def Keeps (holds : σ → Prop) (program : Program σ ω ε α) : Prop :=
  ∀ state, holds state → holds (program.run state).state

variable {holds : σ → Prop}

/-- Reading keeps every property. -/
theorem keeps_read : Keeps holds (read : Program σ ω ε σ) := fun _ held => held

/-- A value keeps every property. -/
theorem keeps_pure (value : α) : Keeps holds (pure value : Program σ ω ε α) :=
  fun _ held => held

/-- Showing keeps every property. -/
theorem keeps_emit (shown : ω) : Keeps holds (emit shown : Program σ ω ε Unit) :=
  fun _ held => held

/-- Throwing keeps every property. -/
theorem keeps_lift (value : Except ε α) : Keeps holds (lift value : Program σ ω ε α) :=
  fun _ held => held

/-- A change keeps a property of which it is shown. -/
theorem keeps_modify {change : σ → σ} (kept : ∀ state, holds state → holds (change state)) :
    Keeps holds (modify change : Program σ ω ε Unit) := kept

/-- Two programs in a row leave a property that the first leaves and the second keeps. -/
theorem leaves_bind {program : Program σ ω ε α} {next : α → Program σ ω ε β} {state : σ}
    (first : holds (program.run state).state) (second : ∀ value, Keeps holds (next value)) :
    holds ((program >>= next).run state).state := by
  rw [run_bind]
  generalize program.run state = outcome at first ⊢
  obtain ⟨state, out, result⟩ := outcome
  cases result with
  | ok value => exact second value state first
  | error thrown => exact first

/-- Two programs in a row keep what both keep. -/
theorem keeps_bind {program : Program σ ω ε α} {next : α → Program σ ω ε β}
    (first : Keeps holds program) (second : ∀ value, Keeps holds (next value)) :
    Keeps holds (program >>= next) :=
  fun state held => leaves_bind (first state held) second

/-- A choice keeps what both branches keep. -/
theorem keeps_ite {condition : Prop} [Decidable condition] {yes no : Program σ ω ε α}
    (first : Keeps holds yes) (second : Keeps holds no) :
    Keeps holds (if condition then yes else no) := by
  split
  · exact first
  · exact second

/-- A conditional program keeps what the program keeps. -/
theorem keeps_onlyIf {condition : Prop} [Decidable condition] {program : Program σ ω ε Unit}
    (kept : Keeps holds program) : Keeps holds (onlyIf condition program) :=
  keeps_ite kept (keeps_pure ())

end Program

end Systems
