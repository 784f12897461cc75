import Mathlib.Algebra.BigOperators.Group.List.Basic

/-!
# Lists of threads

Threads of one kind are a list of their local states; a step of one thread replaces its
entry. What all threads hold together is a sum over the list, in any commutative monoid:
a multiset of items in hand, or a count. Replacing one entry changes the sum by exactly
what that entry gains and loses.
-/

namespace Systems

variable {α M : Type}

/-- What all threads hold together. -/
def total [AddCommMonoid M] (held : α → M) (threads : List α) : M := (threads.map held).sum

section Sums

variable [AddCommMonoid M] {held : α → M} {threads : List α}

/-- No threads hold nothing. -/
@[simp]
theorem total_nil : total held [] = 0 := rfl

/-- The first thread and the others. -/
@[simp]
theorem total_cons (first : α) (rest : List α) :
    total held (first :: rest) = held first + total held rest := by
  simp [total]

/-- A new thread adds what it holds. -/
@[simp]
theorem total_append (first second : List α) :
    total held (first ++ second) = total held first + total held second := by
  simp [total]

/-- A step of one thread trades what it held for what it holds now. -/
theorem total_set (held : α → M) {index : Nat} {old : α}
    (running : threads[index]? = some old) (new : α) :
    total held (threads.set index new) + held old = total held threads + held new := by
  induction threads generalizing index with
  | nil => simp at running
  | cons first rest ih =>
    cases index with
    | zero =>
      simp only [List.getElem?_cons_zero, Option.some.injEq] at running
      subst running
      simp only [List.set_cons_zero, total_cons]
      rw [add_right_comm, add_comm (held new), add_right_comm]
    | succ index =>
      simp only [List.getElem?_cons_succ] at running
      simp only [List.set_cons_succ, total_cons]
      rw [add_assoc, ih running, add_assoc]

/-- A thread that held nothing adds what it holds now. -/
theorem total_gain (held : α → M) {index : Nat} {old : α} (running : threads[index]? = some old)
    (nothing : held old = 0) (new : α) :
    total held (threads.set index new) = total held threads + held new := by
  have traded := total_set held running new
  rwa [nothing, add_zero] at traded

/-- A thread that holds nothing now has given up what it held. -/
theorem total_spend (held : α → M) {index : Nat} {old : α}
    (running : threads[index]? = some old) (new : α) (nothing : held new = 0) :
    total held threads = total held (threads.set index new) + held old := by
  have traded := total_set held running new
  rw [traded, nothing, add_zero]

/-- Threads that each hold nothing hold nothing together. -/
theorem total_eq_zero (none : ∀ thread ∈ threads, held thread = 0) : total held threads = 0 := by
  induction threads with
  | nil => rfl
  | cons first rest ih =>
    rw [total_cons, none first List.mem_cons_self,
      ih fun thread member => none thread (List.mem_cons_of_mem first member), add_zero]

/-- Equal copies of a thread that holds nothing hold nothing. -/
@[simp]
theorem total_replicate {thread : α} (count : Nat) (none : held thread = 0) :
    total held (List.replicate count thread) = 0 :=
  total_eq_zero fun _ member => by rw [List.eq_of_mem_replicate member, none]

/-- What is additive in what the threads hold is added up over them. -/
theorem total_hom {N : Type} [AddCommMonoid N] (f : M →+ N) (held : α → M) (threads : List α) :
    f (total held threads) = total (fun thread => f (held thread)) threads := by
  rw [total, map_list_sum, List.map_map]
  rfl

end Sums

section Counts

variable {held more : α → Nat} {threads : List α} {index : Nat} {old : α}

/-- Where every thread counts for at least as much, so do all together. -/
theorem total_le (below : ∀ thread, held thread ≤ more thread) :
    total held threads ≤ total more threads := by
  induction threads with
  | nil => exact Nat.le_refl 0
  | cons first rest ih =>
    have here := below first
    simp only [total_cons]
    omega

/-- Where every thread counts for at least as much, the difference made by one thread is a
lower bound for the difference of the totals. -/
theorem total_gap (below : ∀ thread, held thread ≤ more thread)
    (running : threads[index]? = some old) :
    total held threads + more old ≤ total more threads + held old := by
  induction threads generalizing index with
  | nil => simp at running
  | cons first rest ih =>
    cases index with
    | zero =>
      simp only [List.getElem?_cons_zero, Option.some.injEq] at running
      subst running
      have others : total held rest ≤ total more rest := total_le below
      simp only [total_cons]
      omega
    | succ index =>
      have others := ih (by simpa using running)
      have here := below first
      simp only [total_cons]
      omega

end Counts

/-- A property of every thread is kept by a step after which the running thread has it. -/
theorem forall_mem_set {holds : α → Prop} {threads : List α} {index : Nat} {new : α}
    (every : ∀ thread ∈ threads, holds thread) (running : holds new) :
    ∀ thread ∈ threads.set index new, holds thread := by
  intro thread member
  rcases List.mem_or_eq_of_mem_set member with old | rfl
  · exact every thread old
  · exact running

/-- After a step of one thread, a thread is that one as the step leaves it, or another as it was. -/
theorem getElem?_set_cases {threads : List α} {index other : Nat} {new thread : α}
    (found : (threads.set index new)[other]? = some thread) :
    (other = index ∧ thread = new) ∨ (other ≠ index ∧ threads[other]? = some thread) := by
  by_cases same : other = index
  · subst same
    obtain ⟨inside, left⟩ := List.getElem?_eq_some_iff.mp found
    rw [List.getElem_set_self] at left
    exact .inl ⟨rfl, left.symm⟩
  · rw [List.getElem?_set_ne fun equal => same equal.symm] at found
    exact .inr ⟨same, found⟩

/-- After a thread was started, a thread is that one, or one that was there. -/
theorem getElem?_append_cases {threads : List α} {other : Nat} {new thread : α}
    (found : (threads ++ [new])[other]? = some thread) :
    thread = new ∨ threads[other]? = some thread := by
  by_cases old : other < threads.length
  · rw [List.getElem?_append_left old] at found
    exact .inr found
  · rw [List.getElem?_append_right (Nat.le_of_not_lt old)] at found
    exact .inl (List.mem_singleton.mp (List.mem_of_getElem? found))

end Systems
