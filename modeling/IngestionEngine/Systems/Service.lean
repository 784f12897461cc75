import Mathlib.Algebra.Order.Ring.Int

/-!
# Queues that are served at a pace

A queue that is served once in a period, each time by a chunk of what it holds or by all of it,
serves what comes into it after one period for each chunk before it and one more. What is known of
its position in the queue bounds when it is served, whenever it came.
-/

namespace Systems

/-- Something that came into a queue. -/
structure Ticket (α : Type) where
  /-- What came. -/
  item : α
  /-- When it came. -/
  time : Int
  /-- How much was before it. -/
  ahead : Nat

/-- When it is served at the latest. -/
def Ticket.deadline {α : Type} (period : Int) (chunk : Nat) (ticket : Ticket α) : Int :=
  ticket.time + period * ((ticket.ahead / chunk : Nat) + 1)

/-- What came at once, in its order. -/
def Ticket.all {α : Type} (time : Int) (items : List α) : List (Ticket α) :=
  items.mapIdx fun position item => ⟨item, time, position⟩

/-- Their tickets are of the things that came. -/
theorem Ticket.all_items {α : Type} (time : Int) (items : List α) :
    (Ticket.all time items).map Ticket.item = items := by
  apply List.ext_getElem?
  intro position
  rw [Ticket.all, List.getElem?_map, List.getElem?_mapIdx, Option.map_map]
  exact Option.map_id_apply

/-- With the next service at the given time, everything in the queue is served by its deadline. -/
def OnTime {α : Type} (period : Int) (chunk : Nat) (next : Int) (queue : List (Ticket α)) : Prop :=
  ∀ position ticket, queue[position]? = some ticket →
    next + period * (position / chunk : Nat) ≤ ticket.deadline period chunk

namespace OnTime

variable {α : Type} {period next : Int} {chunk : Nat} {queue : List (Ticket α)}

/-- More chunks take longer. -/
theorem chunks_mono (nonneg : 0 ≤ period) (chunk : Nat) {first second : Nat} (le : first ≤ second) :
    period * (first / chunk : Nat) ≤ period * (second / chunk : Nat) := by
  apply mul_le_mul_of_nonneg_left _ nonneg
  exact_mod_cast Nat.div_le_div_right le

/-- Nothing is served after its deadline. -/
theorem next_le (onTime : OnTime period chunk next queue) (nonneg : 0 ≤ period)
    {ticket : Ticket α} (member : ticket ∈ queue) : next ≤ ticket.deadline period chunk := by
  obtain ⟨position, found⟩ := List.getElem?_of_mem member
  have served := onTime position ticket found
  have passed : 0 ≤ period * (position / chunk : Nat) :=
    mul_nonneg nonneg (Int.natCast_nonneg _)
  omega

/-- An empty queue is on time. -/
theorem nil : OnTime period chunk next ([] : List (Ticket α)) := by
  intro position ticket found
  contradiction

/-- What comes within a period of the next service is on time. -/
theorem push (onTime : OnTime period chunk next queue) {time : Int} (soon : next ≤ time + period)
    (item : α) : OnTime period chunk next (queue ++ [⟨item, time, queue.length⟩]) := by
  intro position ticket found
  by_cases old : position < queue.length
  · rw [List.getElem?_append_left old] at found
    exact onTime position ticket found
  · have last : position = queue.length := by
      have inside := (List.getElem?_eq_some_iff.mp found).1
      rw [List.length_append, List.length_singleton] at inside
      omega
    rw [last, List.getElem?_concat_length] at found
    obtain rfl := Option.some.inj found
    rw [last]
    show next + period * (queue.length / chunk : Nat) ≤
      time + period * ((queue.length / chunk : Nat) + 1)
    rw [mul_add, mul_one]
    omega

/-- What is taken out of turn puts nothing off. -/
theorem drop (onTime : OnTime period chunk next queue) (nonneg : 0 ≤ period) (count : Nat) :
    OnTime period chunk next (queue.drop count) := by
  intro position ticket found
  rw [List.getElem?_drop] at found
  have served := onTime (count + position) ticket found
  have sooner := chunks_mono nonneg chunk (Nat.le_add_left position count)
  omega

/-- After a service that takes a chunk, or all there is, the next one is a period later. -/
theorem serve (onTime : OnTime period chunk next queue) (nonneg : 0 ≤ period)
    (positive : 0 < chunk) {count : Nat} (enough : min chunk queue.length ≤ count) :
    OnTime period chunk (next + period) (queue.drop count) := by
  intro position ticket found
  have inside : count + position < queue.length := by
    have inside := (List.getElem?_eq_some_iff.mp found).1
    rw [List.length_drop] at inside
    omega
  rw [List.getElem?_drop] at found
  have served := onTime (count + position) ticket found
  have taken : position + chunk ≤ count + position := by omega
  have chunks := chunks_mono nonneg chunk taken
  rw [Nat.add_div_right position positive, Nat.cast_succ, mul_add, mul_one] at chunks
  omega

/-- What all came at once, within a period of the next service, is on time. -/
theorem all {time : Int} (soon : next ≤ time + period) (items : List α) :
    OnTime period chunk next (Ticket.all time items) := by
  intro position ticket found
  rw [Ticket.all, List.getElem?_mapIdx] at found
  obtain ⟨item, _, rfl⟩ := Option.map_eq_some_iff.mp found
  show next + period * (position / chunk : Nat) ≤ time + period * ((position / chunk : Nat) + 1)
  rw [mul_add, mul_one]
  omega

end OnTime

end Systems
