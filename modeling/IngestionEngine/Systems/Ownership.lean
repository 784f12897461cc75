import IngestionEngine.Systems.Threads

/-!
# Threads that own entries of another list

A thread may own an entry of a second list, and no two threads own the same one. What a thread
holds may depend on the entry that it owns, so a change of one entry changes what its owner holds
and nothing else.
-/

namespace Systems

variable {α β M : Type}

section Sums

variable [AddCommMonoid M] {held after : α → M} {threads : List α}

/-- Threads that each hold the same hold the same together. -/
theorem total_congr (same : ∀ thread ∈ threads, held thread = after thread) :
    total held threads = total after threads := by
  unfold total
  rw [List.map_congr_left same]

/-- When only one thread holds something else, the totals differ by what it gains and loses. -/
theorem total_change (held after : α → M) {index : Nat} {own : α}
    (running : threads[index]? = some own)
    (same : ∀ other thread, other ≠ index → threads[other]? = some thread →
      after thread = held thread) :
    total after threads + held own = total held threads + after own := by
  induction threads generalizing index with
  | nil => simp at running
  | cons first rest ih =>
    cases index with
    | zero =>
      obtain rfl : first = own := by simpa using running
      have others : total after rest = total held rest := by
        apply total_congr
        intro thread member
        obtain ⟨other, found⟩ := List.getElem?_of_mem member
        exact same (other + 1) thread (Nat.succ_ne_zero other) (by simpa using found)
      rw [total_cons, total_cons, others]
      exact (add_right_comm _ _ _).trans (by rw [add_comm (after first), add_right_comm])
    | succ index =>
      have here : after first = held first :=
        same 0 first (Nat.succ_ne_zero index).symm (by simp)
      have there : rest[index]? = some own := by simpa using running
      have others := ih there (by
        intro other thread different found
        exact same (other + 1) thread (by omega) (by simpa using found))
      rw [total_cons, total_cons, here, add_assoc, others, add_assoc]

end Sums

/-- The entry that a thread owns. -/
def owned (owns : α → Option Nat) (cells : List β) (thread : α) : Option β :=
  (owns thread).bind fun cell => cells[cell]?

/-- The entries that the threads own exist, and no two threads own the same one. -/
structure Owned (owns : α → Option Nat) (size : Nat) (threads : List α) : Prop where
  /-- An entry that is owned exists. -/
  inside : ∀ thread ∈ threads, ∀ cell, owns thread = some cell → cell < size
  /-- An entry has one owner. -/
  apart : ∀ (first second : Nat) (one two : α) (cell : Nat), threads[first]? = some one →
    threads[second]? = some two → owns one = some cell → owns two = some cell → first = second

namespace Owned

variable {owns : α → Option Nat} {size index : Nat} {threads : List α} {old new : α}

/-- No threads own nothing. -/
theorem nil : Owned owns size [] := ⟨by simp, by simp⟩

/-- Further entries are owned by nobody. -/
theorem grow (own : Owned owns size threads) {more : Nat} (larger : size ≤ more) :
    Owned owns more threads :=
  ⟨fun thread member cell holds => Nat.lt_of_lt_of_le (own.inside thread member cell holds) larger,
    own.apart⟩

/-- A thread that takes a step keeps its entry, gives it up, or takes one that nobody owns. -/
theorem set (own : Owned owns size threads) (running : threads[index]? = some old)
    (takes : ∀ cell, owns new = some cell → cell < size ∧ (owns old = some cell ∨
      ∀ thread ∈ threads, owns thread ≠ some cell)) : Owned owns size (threads.set index new) := by
  constructor
  · intro thread member cell holds
    rcases List.mem_or_eq_of_mem_set member with before | rfl
    · exact own.inside thread before cell holds
    · exact (takes cell holds).1
  · intro first second one two cell here there holds again
    have alone (other : Nat) (thread : α) (different : other ≠ index)
        (found : threads[other]? = some thread) (holds : owns thread = some cell)
        (again : owns new = some cell) : False := by
      rcases (takes cell again).2 with same | free
      · exact different (own.apart other index thread old cell found running holds same)
      · exact free thread (List.mem_of_getElem? found) holds
    rcases getElem?_set_cases here with ⟨rfl, rfl⟩ | ⟨different, found⟩
    · rcases getElem?_set_cases there with ⟨rfl, rfl⟩ | ⟨other, found⟩
      · rfl
      · exact absurd (alone second two other found again holds) id
    · rcases getElem?_set_cases there with ⟨rfl, rfl⟩ | ⟨other, last⟩
      · exact absurd (alone first one different found holds again) id
      · exact own.apart first second one two cell found last holds again

/-- A thread that takes a step keeps its entry or gives it up. -/
theorem keep (own : Owned owns size threads) (running : threads[index]? = some old)
    (keeps : ∀ cell, owns new = some cell → owns old = some cell) :
    Owned owns size (threads.set index new) := by
  apply own.set running
  intro cell holds
  have before := keeps cell holds
  exact ⟨own.inside old (List.mem_of_getElem? running) cell before, .inl before⟩

/-- A thread takes a new entry. -/
theorem take (own : Owned owns size threads) (running : threads[index]? = some old)
    (fresh : owns new = some size) : Owned owns (size + 1) (threads.set index new) := by
  apply (own.grow (Nat.le_succ size)).set running
  intro cell holds
  rw [fresh, Option.some.injEq] at holds
  subst holds
  refine ⟨Nat.lt_succ_self _, .inr fun thread member again => ?_⟩
  exact Nat.lt_irrefl _ (own.inside thread member _ again)

/-- A thread starts without an entry, or with a new one. -/
theorem start (own : Owned owns size threads) {more : Nat} (larger : size ≤ more)
    (fresh : ∀ cell, owns new = some cell → size ≤ cell ∧ cell < more) :
    Owned owns more (threads ++ [new]) := by
  have alone (thread : α) (member : thread ∈ threads) (cell : Nat) (holds : owns thread = some cell)
      (again : owns new = some cell) : False := by
    have inside := own.inside thread member cell holds
    have outside := (fresh cell again).1
    omega
  constructor
  · intro thread member cell holds
    rcases List.mem_append.mp member with before | last
    · exact Nat.lt_of_lt_of_le (own.inside thread before cell holds) larger
    · rw [List.mem_singleton.mp last] at holds
      exact (fresh cell holds).2
  · intro first second one two cell here there holds again
    have place (index : Nat) (thread : α) (found : (threads ++ [new])[index]? = some thread) :
        threads[index]? = some thread ∨ (index = threads.length ∧ thread = new) := by
      by_cases old : index < threads.length
      · rw [List.getElem?_append_left old] at found
        exact .inl found
      · rw [List.getElem?_append_right (Nat.le_of_not_lt old)] at found
        have last := List.getElem?_eq_some_iff.mp found
        obtain ⟨inside, same⟩ := last
        have zero : index - threads.length = 0 := by simpa using inside
        refine .inr ⟨by omega, ?_⟩
        simpa [zero] using same.symm
    rcases place first one here with before | ⟨rfl, rfl⟩
    · rcases place second two there with after | ⟨rfl, rfl⟩
      · exact own.apart first second one two cell before after holds again
      · exact absurd (alone one (List.mem_of_getElem? before) cell holds again) id
    · rcases place second two there with after | ⟨rfl, rfl⟩
      · exact absurd (alone two (List.mem_of_getElem? after) cell again holds) id
      · rfl

end Owned

section Cells

variable {owns : α → Option Nat} {cells : List β} {threads : List α}

/-- An entry changes for its owner. -/
theorem owned_set_own {thread : α} {cell : Nat} {old : β} (holds : owns thread = some cell)
    (found : cells[cell]? = some old) (new : β) :
    owned owns (cells.set cell new) thread = some new := by
  have inside := (List.getElem?_eq_some_iff.mp found).1
  rw [owned, holds, Option.bind_some, List.getElem?_set_self inside]

/-- It does not change for the others. -/
theorem owned_set_other {thread : α} {cell : Nat} (other : owns thread ≠ some cell) (new : β) :
    owned owns (cells.set cell new) thread = owned owns cells thread := by
  unfold owned
  cases holds : owns thread with
  | none => rfl
  | some mine =>
    have different : cell ≠ mine := by
      rintro rfl
      exact other holds
    rw [Option.bind_some, Option.bind_some, List.getElem?_set_ne different]

/-- A new entry changes nothing for the threads that own others. -/
theorem owned_append (own : Owned owns cells.length threads) {thread : α}
    (member : thread ∈ threads) (new : β) :
    owned owns (cells ++ [new]) thread = owned owns cells thread := by
  unfold owned
  cases holds : owns thread with
  | none => rfl
  | some mine =>
    rw [Option.bind_some, Option.bind_some,
      List.getElem?_append_left (own.inside thread member mine holds)]

variable [AddCommMonoid M] (held : α → Option β → M)

/-- When an entry changes, what its owner holds changes, and nothing else. -/
theorem total_owned_set (own : Owned owns cells.length threads) {index cell : Nat} {thread : α}
    {old : β} (running : threads[index]? = some thread) (holds : owns thread = some cell)
    (found : cells[cell]? = some old) (new : β) :
    total (fun thread => held thread (owned owns (cells.set cell new) thread)) threads +
        held thread (some old) =
      total (fun thread => held thread (owned owns cells thread)) threads +
        held thread (some new) := by
  have before : owned owns cells thread = some old := by
    rw [owned, holds, Option.bind_some, found]
  have change := total_change (fun thread => held thread (owned owns cells thread))
    (fun thread => held thread (owned owns (cells.set cell new) thread)) running (by
      intro other thread' different there
      have apart : owns thread' ≠ some cell := fun again =>
        different (own.apart other index thread' thread cell there running again holds)
      show held thread' _ = held thread' _
      rw [owned_set_other apart])
  rw [before, owned_set_own holds found] at change
  exact change

/-- A new entry changes nothing for threads that own others. -/
theorem total_owned_append (own : Owned owns cells.length threads) (new : β) :
    total (fun thread => held thread (owned owns (cells ++ [new]) thread)) threads =
      total (fun thread => held thread (owned owns cells thread)) threads := by
  apply total_congr
  intro thread member
  rw [owned_append own member]

end Cells

/-- Every entry is owned by one thread, or a thread that has left it accounts for what it is worth:
what the entries are worth together is what the threads hold together. -/
structure Ledger [AddCommMonoid M] (owns : α → Option Nat) (held : α → Option β → M)
    (worth : β → M) (cells : List β) (threads : List α) : Prop where
  /-- No two threads own the same entry. -/
  own : Owned owns cells.length threads
  /-- The totals agree. -/
  balanced : total worth cells = total (fun thread => held thread (owned owns cells thread)) threads

namespace Ledger

variable [AddCancelCommMonoid M] {owns : α → Option Nat} {held : α → Option β → M} {worth : β → M}
  {cells : List β} {threads : List α} {index cell : Nat} {old new : α} {before after : β}

/-- No entries and no threads balance. -/
theorem nil : Ledger owns held worth [] [] := ⟨.nil, rfl⟩

/-- The owner of an entry changes it. -/
theorem change (ledger : Ledger owns held worth cells threads)
    (running : threads[index]? = some old)
    (holds : owns old = some cell) (found : cells[cell]? = some before)
    (was : held old (some before) = worth before) (is : held old (some after) = worth after) :
    Ledger owns held worth (cells.set cell after) threads := by
  constructor
  · rw [List.length_set]
    exact ledger.own
  · have mine := total_set worth found after
    have theirs := total_owned_set held ledger.own running holds found after
    rw [was, is, ← ledger.balanced, ← mine] at theirs
    exact (add_right_cancel theirs).symm

/-- A thread takes a step that leaves what it holds alone. -/
theorem move (ledger : Ledger owns held worth cells threads) (running : threads[index]? = some old)
    (keeps : ∀ cell, owns new = some cell → owns old = some cell)
    (same : held new (owned owns cells new) = held old (owned owns cells old)) :
    Ledger owns held worth cells (threads.set index new) := by
  constructor
  · exact ledger.own.keep running keeps
  · have traded := total_set (fun thread => held thread (owned owns cells thread)) running new
    rw [same] at traded
    rw [ledger.balanced]
    exact (add_right_cancel traded).symm

/-- A thread makes an entry of its own. -/
theorem take (ledger : Ledger owns held worth cells threads) (running : threads[index]? = some old)
    (free : owns old = none) (fresh : owns new = some cells.length)
    (nothing : held old none = 0) (holds : held new (some after) = worth after) :
    Ledger owns held worth (cells ++ [after]) (threads.set index new) := by
  have grown := total_owned_append held ledger.own after
  have here : owned owns (cells ++ [after]) new = some after := by
    rw [owned, fresh, Option.bind_some, List.getElem?_concat_length]
  have was : owned owns (cells ++ [after]) old = none := by
    rw [owned, free, Option.bind_none]
  constructor
  · rw [List.length_append]
    exact ledger.own.take running fresh
  · have traded :=
      total_set (fun thread => held thread (owned owns (cells ++ [after]) thread)) running new
    rw [was, here, nothing, holds, add_zero, grown, ← ledger.balanced] at traded
    rw [total_append, total_cons, total_nil, add_zero]
    exact traded.symm

/-- A thread starts with an entry of its own. -/
theorem start (ledger : Ledger owns held worth cells threads) (fresh : owns new = some cells.length)
    (holds : held new (some after) = worth after) :
    Ledger owns held worth (cells ++ [after]) (threads ++ [new]) := by
  have grown := total_owned_append held ledger.own after
  have here : owned owns (cells ++ [after]) new = some after := by
    rw [owned, fresh, Option.bind_some, List.getElem?_concat_length]
  constructor
  · rw [List.length_append, List.length_singleton]
    apply ledger.own.start (Nat.le_succ _)
    intro cell again
    rw [fresh, Option.some.injEq] at again
    omega
  · rw [total_append, total_append, grown, ← ledger.balanced]
    simp only [total_cons, total_nil, here, holds]

/-- A thread starts without an entry. -/
theorem join (ledger : Ledger owns held worth cells threads) (free : owns new = none)
    (nothing : held new none = 0) : Ledger owns held worth cells (threads ++ [new]) := by
  have here : owned owns cells new = none := by rw [owned, free, Option.bind_none]
  constructor
  · apply ledger.own.start (Nat.le_refl _)
    intro cell again
    rw [free] at again
    contradiction
  · rw [total_append, ← ledger.balanced]
    simp only [total_cons, total_nil, here, nothing, add_zero]

end Ledger

end Systems
