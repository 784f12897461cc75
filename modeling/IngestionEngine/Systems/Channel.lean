import Mathlib.Data.List.Basic

/-!
# Bounded first-in first-out channels

The queue of a buffered channel never holds more than its capacity; the bound is a field,
so no operation can build a channel that breaks it. Sending and receiving are the
non-blocking attempts: a send without room and a receive without an item answer nothing.
A channel of capacity zero never has room; a sender meets its receiver outside the queue.
-/

namespace Systems

/-- The queue of a channel with a fixed capacity. -/
structure Channel (α : Type) where
  /-- How many items may wait. -/
  capacity : Nat
  /-- Items sent and not yet received, oldest first. -/
  queue : List α
  /-- No more items wait than the capacity allows. -/
  bounded : queue.length ≤ capacity

namespace Channel

variable {α : Type}

/-- A new channel holds nothing. -/
def make (capacity : Nat) : Channel α := ⟨capacity, [], Nat.zero_le capacity⟩

/-- One more item fits. -/
def HasRoom (channel : Channel α) : Prop := channel.queue.length < channel.capacity

instance (channel : Channel α) : Decidable channel.HasRoom :=
  inferInstanceAs (Decidable (channel.queue.length < channel.capacity))

/-- Put an item at the back of the queue when it fits. -/
def trySend (channel : Channel α) (item : α) : Option (Channel α) :=
  if room : channel.HasRoom then
    some ⟨channel.capacity, channel.queue ++ [item], by rw [List.length_append]; exact room⟩
  else none

/-- Take the oldest item. -/
def tryReceive (channel : Channel α) : Option (α × Channel α) :=
  match channel with
  | ⟨_, [], _⟩ => none
  | ⟨capacity, item :: rest, bounded⟩ =>
    some (item, ⟨capacity, rest, Nat.le_of_succ_le bounded⟩)

/-- A successful send had room, and appends its item to the queue. -/
theorem trySend_some {channel after : Channel α} {item : α}
    (sent : channel.trySend item = some after) :
    channel.HasRoom ∧ after.queue = channel.queue ++ [item] ∧
      after.capacity = channel.capacity := by
  unfold trySend at sent
  split at sent
  · rename_i room
    obtain rfl := Option.some.inj sent
    exact ⟨room, rfl, rfl⟩
  · contradiction

/-- A send fails exactly when nothing more fits. -/
theorem trySend_none {channel : Channel α} {item : α} :
    channel.trySend item = none ↔ ¬ channel.HasRoom := by
  simp [trySend]

/-- A successful receive takes the front of the queue. -/
theorem tryReceive_some {channel after : Channel α} {item : α}
    (received : channel.tryReceive = some (item, after)) :
    channel.queue = item :: after.queue ∧ after.capacity = channel.capacity := by
  obtain ⟨capacity, queue, bounded⟩ := channel
  cases queue with
  | nil => simp [tryReceive] at received
  | cons head rest =>
    simp only [tryReceive, Option.some.injEq, Prod.mk.injEq] at received
    obtain ⟨rfl, rfl⟩ := received
    exact ⟨rfl, rfl⟩

/-- A receive fails exactly when no item waits. -/
theorem tryReceive_none {channel : Channel α} :
    channel.tryReceive = none ↔ channel.queue = [] := by
  obtain ⟨capacity, queue, bounded⟩ := channel
  cases queue with
  | nil => simp [tryReceive]
  | cons head rest => simp [tryReceive]

end Channel

end Systems
