import Mathlib.Data.List.Basic
import Mathlib.Logic.Function.Basic

/-!
# Tables of cells created on demand

A key is bound to a cell the first time it is used, and stays bound to it. The cells are
kept in a list and the keys point into it; that every pointer is valid and that no two keys
share a cell are fields, so a change of one key's cell cannot be seen through another key.
-/

namespace Systems

/-- Cells that keys point to. -/
structure Table (κ α : Type) where
  /-- The cell of a key, if it has one. -/
  index : κ → Option Nat
  /-- The cells in the order of their creation. -/
  cells : List α
  /-- A key points to a cell that exists. -/
  inside : ∀ key place, index key = some place → place < cells.length
  /-- Two keys do not share a cell. -/
  injective : ∀ first second place, index first = some place → index second = some place →
    first = second

namespace Table

variable {κ α : Type}

/-- A table in which no key has a cell. -/
def empty : Table κ α where
  index := fun _ => none
  cells := []
  inside := nofun
  injective := nofun

/-- What a key's cell holds. -/
def lookup (table : Table κ α) (key : κ) : Option α :=
  match table.index key with
  | some place => table.cells[place]?
  | none => none

/-- Change what a cell holds. -/
def set (table : Table κ α) (place : Nat) (value : α) : Table κ α where
  index := table.index
  cells := table.cells.set place value
  inside := by
    intro key found bound
    rw [List.length_set]
    exact table.inside key found bound
  injective := table.injective

variable [DecidableEq κ]

/-- Give a key a new cell. -/
def create (table : Table κ α) (key : κ) (value : α) : Table κ α where
  index := Function.update table.index key (some table.cells.length)
  cells := table.cells ++ [value]
  inside := by
    intro other place bound
    rw [List.length_append, List.length_singleton]
    by_cases same : other = key
    · rw [same, Function.update_self] at bound
      obtain rfl := Option.some.inj bound
      exact Nat.lt_succ_self _
    · rw [Function.update_of_ne same] at bound
      exact Nat.lt_succ_of_lt (table.inside other place bound)
  injective := by
    intro first second place left right
    by_cases one : first = key <;> by_cases two : second = key
    · rw [one, two]
    · rw [one, Function.update_self] at left
      rw [Function.update_of_ne two] at right
      have old := table.inside second place right
      have new := Option.some.inj left
      omega
    · rw [two, Function.update_self] at right
      rw [Function.update_of_ne one] at left
      have old := table.inside first place left
      have new := Option.some.inj right
      omega
    · rw [Function.update_of_ne one] at left
      rw [Function.update_of_ne two] at right
      exact table.injective first second place left right

/-- The table in which a key has a cell, a new one if it had none. -/
def ensure (table : Table κ α) (key : κ) (value : α) : Table κ α :=
  match table.index key with
  | some _ => table
  | none => table.create key value

omit [DecidableEq κ] in
/-- A key without a cell holds nothing. -/
theorem lookup_none {table : Table κ α} {key : κ} (unbound : table.index key = none) :
    table.lookup key = none := by
  rw [lookup, unbound]

omit [DecidableEq κ] in
/-- A key with a cell holds something. -/
theorem lookup_some {table : Table κ α} {key : κ} {place : Nat}
    (bound : table.index key = some place) : ∃ value, table.lookup key = some value := by
  rw [lookup, bound]
  exact ⟨_, List.getElem?_eq_getElem (table.inside key place bound)⟩

omit [DecidableEq κ] in
/-- A changed cell holds its new value. -/
theorem lookup_set_same {table : Table κ α} {key : κ} {place : Nat}
    (bound : table.index key = some place) (value : α) :
    (table.set place value).lookup key = some value := by
  have same : (table.set place value).index key = some place := bound
  rw [lookup, same]
  exact List.getElem?_set_self (table.inside key place bound)

omit [DecidableEq κ] in
/-- Another key does not see the change. -/
theorem lookup_set_other {table : Table κ α} {key other : κ} {place : Nat}
    (bound : table.index key = some place) (different : other ≠ key) (value : α) :
    (table.set place value).lookup other = table.lookup other := by
  have same : (table.set place value).index other = table.index other := rfl
  unfold lookup
  rw [same]
  cases found : table.index other with
  | none => rfl
  | some elsewhere =>
    have apart : place ≠ elsewhere := by
      rintro rfl
      exact different (table.injective other key place found bound)
    exact List.getElem?_set_ne apart

/-- The key that was asked for has a cell, which holds what it held, or else the new value. -/
theorem lookup_ensure_same (table : Table κ α) (key : κ) (value : α) :
    (table.ensure key value).lookup key = some ((table.lookup key).getD value) := by
  unfold ensure
  cases found : table.index key with
  | some place =>
    obtain ⟨held, holds⟩ := lookup_some found
    simp [holds]
  | none =>
    have new : (table.create key value).index key = some table.cells.length :=
      Function.update_self _ _ _
    simp only [lookup_none found, Option.getD_none]
    rw [lookup, new]
    exact List.getElem?_concat_length

/-- The other keys keep what they held. -/
theorem lookup_ensure_other (table : Table κ α) {key other : κ} (different : other ≠ key)
    (value : α) : (table.ensure key value).lookup other = table.lookup other := by
  unfold ensure
  cases found : table.index key with
  | some place => rfl
  | none =>
    have same : (table.create key value).index other = table.index other :=
      Function.update_of_ne different _ _
    simp only [lookup]
    rw [same]
    cases here : table.index other with
    | none => rfl
    | some place => exact List.getElem?_append_left (table.inside other place here)

/-- No key that has a cell gets another one. -/
theorem index_ensure_kept {table : Table κ α} {key other : κ} {place : Nat}
    (bound : table.index other = some place) (value : α) :
    (table.ensure key value).index other = some place := by
  unfold ensure
  cases found : table.index key with
  | some old => exact bound
  | none =>
    have different : other ≠ key := by
      rintro rfl
      rw [found] at bound
      contradiction
    show Function.update table.index key (some table.cells.length) other = some place
    rw [Function.update_of_ne different]
    exact bound

/-- The key that was asked for has a cell. -/
theorem index_ensure (table : Table κ α) (key : κ) (value : α) :
    ∃ place, (table.ensure key value).index key = some place := by
  unfold ensure
  cases found : table.index key with
  | some place => exact ⟨place, found⟩
  | none => exact ⟨table.cells.length, Function.update_self _ _ _⟩

end Table

end Systems
