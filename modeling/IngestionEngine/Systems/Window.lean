import Mathlib.Data.List.DropRight

/-!
# The newest entries of a history

A store of a limited size adds entries at one end and removes them at the other. However it does
this, one entry at a time or many, it holds what is left of the whole history when that is cut once.
-/

namespace Systems

variable {α : Type} {size : Nat}

/-- The newest entries of a history, the newest first. -/
def newest (size : Nat) (history : List α) : List α := history.reverse.take size

/-- There are no more of them than the size. -/
theorem newest_length (history : List α) : (newest size history).length ≤ size :=
  List.length_take_le _ _

/-- Entries that are put before the newest are cut off as if the whole history were. -/
theorem newest_append (old added : List α) :
    newest size (old ++ added) = (added.reverse ++ newest size old).take size := by
  have inner : min (size - added.length) size = size - added.length := by omega
  simp only [newest, List.reverse_append, List.take_append, List.take_take, List.length_reverse,
    inner]

/-- A window with one more entry at its front. -/
theorem take_cons_window (entry : α) {window : List α} (fits : window.length ≤ size) :
    (if size < window.length + 1 then (entry :: window).dropLast else entry :: window) =
      (entry :: window).take size := by
  by_cases full : size < window.length + 1
  · have filled : window.length = size := by omega
    rw [if_pos full, List.dropLast_eq_take, List.length_cons, Nat.add_sub_cancel, filled]
  · have short : (entry :: window).length ≤ size := by
      rw [List.length_cons]
      omega
    rw [if_neg full, List.take_of_length_le short]

/-- One entry is put before the newest, and the last is removed if there are too many. -/
theorem newest_pop (old : List α) (entry : α) :
    (if size < (newest size old).length + 1 then (entry :: newest size old).dropLast
      else entry :: newest size old) = newest size (old ++ [entry]) := by
  rw [take_cons_window entry (newest_length old), newest_append]
  rfl

/-- The newest entries with the oldest of them first are the end of the history. -/
theorem newest_reverse (history : List α) : (newest size history).reverse = history.rtake size :=
  (List.rtake_eq_reverse_take_reverse history size).symm

/-- One entry is put at the end, and the first is removed if there are too many. -/
theorem rtake_shift (old : List α) (entry : α) :
    (if size < (old.rtake size ++ [entry]).length then (old.rtake size ++ [entry]).tail
      else old.rtake size ++ [entry]) = (old ++ [entry]).rtake size := by
  have turned : old.rtake size ++ [entry] = (entry :: newest size old).reverse := by
    rw [List.reverse_cons, newest_reverse]
  rw [turned, ← newest_reverse (old ++ [entry]), ← newest_pop, List.length_reverse,
    List.length_cons, List.tail_reverse]
  split <;> rfl

end Systems
