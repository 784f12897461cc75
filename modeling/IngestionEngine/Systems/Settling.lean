import IngestionEngine.Systems.Run

/-!
# Systems that settle

Where every step that a guard permits lowers a rank, a schedule of such steps is no longer than
the rank of the state in which it starts, and it can be continued until none is left to take.
-/

namespace Systems.System

variable {σ α ω : Type} {system : System σ α ω} {guard : σ → α → Prop} {rank : σ → Nat}

/-- Every permitted step lowers the rank. -/
def Ranked (system : System σ α ω) (guard : σ → α → Prop) (rank : σ → Nat) : Prop :=
  ∀ state action after out, guard state action → system.step state action = some (after, out) →
    rank after < rank state

/-- No permitted step can be taken. -/
def Settled (system : System σ α ω) (guard : σ → α → Prop) (state : σ) : Prop :=
  ∀ action, guard state action → system.step state action = none

variable [∀ state action, Decidable (guard state action)]

/-- A schedule takes no more steps than the rank goes down. -/
theorem Ranked.length (ranked : system.Ranked guard rank) {schedule : List α} {state last : σ}
    {seen : List ω} (executed : system.exec guard state schedule = some (last, seen)) :
    schedule.length + rank last ≤ rank state := by
  induction schedule generalizing state seen with
  | nil =>
    simp only [exec, Option.some.injEq, Prod.mk.injEq] at executed
    obtain ⟨rfl, rfl⟩ := executed
    simp
  | cons action rest ih =>
    obtain ⟨permitted, after, out, later, stepped, tail, _⟩ := exec_cons executed
    have lower : rank after < rank state := ranked state action after out permitted stepped
    have others : rest.length + rank last ≤ rank after := ih tail
    simp only [List.length_cons]
    omega

/-- From every state some schedule leads to one that has settled. -/
theorem Ranked.settles (ranked : system.Ranked guard rank) (state : σ) :
    ∃ schedule last seen, system.exec guard state schedule = some (last, seen) ∧
      system.Settled guard last := by
  induction bound : rank state using Nat.strongRecOn generalizing state with
  | ind here ih =>
    by_cases settled : system.Settled guard state
    · exact ⟨[], state, [], rfl, settled⟩
    · simp only [Settled, not_forall] at settled
      obtain ⟨action, permitted, moves⟩ := settled
      obtain ⟨⟨after, out⟩, stepped⟩ := Option.ne_none_iff_exists'.mp moves
      have lower : rank after < rank state := ranked state action after out permitted stepped
      obtain ⟨schedule, last, later, executed, rests⟩ := ih (rank after) (bound ▸ lower) after rfl
      have first := exec_one permitted stepped
      exact ⟨[action] ++ schedule, last, out ++ later, exec_append first executed, rests⟩

end Systems.System
