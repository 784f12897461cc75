import IngestionEngine.Worker.Closing

/-!
# The race between `Enqueue` and `Shutdown`

`Enqueue` loads the flag and sends in two steps; `Shutdown` may set the flag and close the
channel between them. A caller caught there sends on a closed channel and panics. This is
the only way to panic: while no close falls between a load and its send, no caller does.
-/

namespace IngestionEngine.Worker

open Systems

variable {Ev : Type}

/-- No caller stands between its load of the flag and its send. -/
def Pool.NoneSending (p : Pool Ev) : Prop := ∀ caller ∈ p.callers, caller.pc ≠ .send

instance (p : Pool Ev) : Decidable p.NoneSending :=
  inferInstanceAs (Decidable (∀ caller ∈ p.callers, caller.pc ≠ .send))

/-- The action is not a close of `taskCh` that falls between a load and its send. -/
def ClosesOutside (p : Pool Ev) : Act Ev → Prop
  | .shutdown index => p.shutdowns[index]? = some .closing → p.NoneSending
  | _ => True

instance (p : Pool Ev) (action : Act Ev) : Decidable (ClosesOutside p action) :=
  match action with
  | .shutdown index =>
    inferInstanceAs (Decidable (p.shutdowns[index]? = some .closing → p.NoneSending))
  | .call _ | .callShutdown | .caller _ _ | .select _ _ | .worker _ | .submit _ _ =>
    inferInstanceAs (Decidable True)

namespace Pool

/-- A caller that has begun an `Enqueue` has an event in hand. -/
def InHand (p : Pool Ev) : Prop := ∀ caller ∈ p.callers, caller.pc ≠ .check → caller.rest ≠ []

/-- Every step keeps an event in the hand of each caller that has begun. -/
theorem step_inHand {p after : Pool Ev} {action : Act Ev} {out : List (Obs Ev)}
    (inHand : p.InHand) (stepped : p.step action = some (after, out)) : after.InHand := by
  cases step_cases stepped with
  | call events =>
    intro caller member begun
    rcases List.mem_append.mp member with old | new
    · exact inHand caller old begun
    · rw [List.mem_singleton.mp new] at begun
      exact absurd rfl begun
  | callShutdown => exact inHand
  | caller moved =>
    cases moved with
    | shut | accept | drop => exact forall_mem_set inHand fun begun => absurd rfl begun
    | load running current | panic running current | meet running current
    | queue running current | refuse running current =>
      refine forall_mem_set inHand fun _ => ?_
      rw [current]
      exact List.cons_ne_nil _ _
  | select moved | worker moved =>
    obtain ⟨_, _, _, _, _, callers⟩ := work_frame moved
    unfold InHand
    rw [callers]
    exact inHand
  | submit moved =>
    obtain ⟨⟨_, _, _, _, _, callers⟩, _⟩ := submit_frame moved
    unfold InHand
    rw [callers]
    exact inHand
  | shutdown moved => cases moved <;> exact inHand

/-- A closed channel has no sender, and nothing has panicked. -/
structure RaceInv (seen : List (Obs Ev)) (p : Pool Ev) : Prop where
  /-- Past the close nobody stands before a send. -/
  clear : p.closed = true → p.NoneSending
  /-- Nobody has sent on the closed channel. -/
  sound : ∀ ev, .panicked ev ∉ seen

/-- Every step that is not such a close keeps the channel clear of senders. -/
theorem step_race {seen out : List (Obs Ev)} {p after : Pool Ev} {action : Act Ev}
    (closing : p.ClosingInv seen) (inv : p.RaceInv seen) (permitted : ClosesOutside p action)
    (stepped : p.step action = some (after, out)) : after.RaceInv (seen ++ out) := by
  obtain ⟨clear, sound⟩ := inv
  have quiet (silent : ∀ ev, .panicked ev ∉ out) : ∀ ev, .panicked ev ∉ seen ++ out := by
    intro ev member
    rcases List.mem_append.mp member with old | new
    · exact sound ev old
    · exact silent ev new
  cases step_cases stepped with
  | call events =>
    refine ⟨fun closed caller member => ?_, quiet (by simp)⟩
    rcases List.mem_append.mp member with old | new
    · exact clear closed caller old
    · rw [List.mem_singleton.mp new]
      exact nofun
  | callShutdown => exact ⟨clear, quiet (by simp)⟩
  | caller moved =>
    cases moved with
    | load running current here flag =>
      refine ⟨fun closed => ?_, quiet (by simp)⟩
      have set := closing.flag closed
      simp [flag] at set
    | panic running current here closed =>
      exact absurd here (clear closed _ (List.mem_of_getElem? running))
    | shut | accept | drop | refuse =>
      exact ⟨fun closed => forall_mem_set (clear closed) nofun, quiet (by simp)⟩
    | meet running current here opened | queue running current here opened =>
      exact ⟨fun closed => forall_mem_set (clear closed) nofun, quiet (by simp)⟩
  | select moved | worker moved =>
    obtain ⟨_, _, closed, _, _, callers⟩ := work_frame moved
    refine ⟨fun shut => ?_, quiet (by cases moved <;> simp)⟩
    unfold NoneSending
    rw [callers]
    exact clear (closed ▸ shut)
  | submit moved =>
    obtain ⟨⟨_, _, closed, _, _, callers⟩, _⟩ := submit_frame moved
    refine ⟨fun shut => ?_, quiet (by cases moved <;> simp)⟩
    unfold NoneSending
    rw [callers]
    exact clear (closed ▸ shut)
  | shutdown moved =>
    cases moved with
    | close running => exact ⟨fun _ => permitted running, quiet (by simp)⟩
    | lose | win | cancel | finish => exact ⟨clear, quiet (by simp)⟩

/-- After a close that fell between a load and its send, that send can be the next step. -/
theorem close_panics {p after : Pool Ev} {action : Act Ev} {out : List (Obs Ev)}
    (inHand : p.InHand) (between : ¬ ClosesOutside p action)
    (stepped : p.step action = some (after, out)) :
    ∃ ev later last, (system Ev).AnyRun after later last ∧ .panicked ev ∈ later := by
  cases action with
  | shutdown index =>
    unfold ClosesOutside NoneSending at between
    push Not at between
    obtain ⟨running, caller, member, here⟩ := between
    obtain ⟨place, found⟩ := List.getElem?_of_mem member
    have filled := inHand caller member (by rw [here]; exact nofun)
    obtain ⟨ev, rest, current⟩ := List.exists_cons_of_ne_nil filled
    have closed : after.closed = true ∧ after.callers = p.callers := by
      simp only [step, shutdown, running, Option.some.injEq, Prod.mk.injEq] at stepped
      obtain ⟨rfl, rfl⟩ := stepped
      exact ⟨rfl, rfl⟩
    have sends : (system Ev).step after (.caller place none) = some
        ({ after with callers := after.callers.set place { caller with pc := .panicked } },
          [.panicked ev]) := by
      simp only [system, step, enqueue, closed, found, current, here, send, if_true]
    exact ⟨ev, _, _, .next .start trivial sends, by simp⟩
  | _ => exact absurd trivial between

end Pool

/-- In every run a caller that has begun an `Enqueue` has an event in hand. -/
theorem run_inHand {numWorkers queueSize : Nat} {guard : Pool Ev → Act Ev → Prop}
    {seen : List (Obs Ev)} {p : Pool Ev}
    (run : (system Ev).Run guard (.start numWorkers queueSize) seen p) : p.InHand := by
  refine run.state_invariant Pool.InHand (by simp [Pool.InHand, Pool.start]) ?_
  intro p action after out inHand _ stepped
  exact Pool.step_inHand inHand stepped

/-- A run whose closes all fall outside the window panics nowhere, and leaves no caller
before a send on a closed channel. -/
theorem run_race {numWorkers queueSize : Nat} {seen : List (Obs Ev)} {p : Pool Ev}
    (run : (system Ev).Run ClosesOutside (.start numWorkers queueSize) seen p) :
    p.RaceInv seen := by
  have both : p.ClosingInv seen ∧ p.RaceInv seen := by
    refine run.invariant (fun seen p => p.ClosingInv seen ∧ p.RaceInv seen) ?_ ?_
    · exact ⟨⟨rfl, rfl, rfl, rfl, nofun⟩, nofun, fun _ => List.not_mem_nil⟩
    · intro seen p action after out held permitted stepped
      exact ⟨Pool.step_closing held.1 stepped, Pool.step_race held.1 held.2 permitted stepped⟩
  exact both.2

/-- As long as no close falls between a load of the flag and the send that follows it, no
`Enqueue` sends on the closed channel, nor is about to. As soon as one does, an `Enqueue`
can panic. -/
theorem enqueue_panics_iff (numWorkers queueSize : Nat) :
    (∀ (seen : List (Obs Ev)) (p : Pool Ev),
        (system Ev).Run ClosesOutside (.start numWorkers queueSize) seen p →
        (∀ ev, .panicked ev ∉ seen) ∧ (p.closed = true → p.NoneSending)) ∧
      ∀ (seen out : List (Obs Ev)) (p after : Pool Ev) (action : Act Ev),
        (system Ev).AnyRun (.start numWorkers queueSize) seen p →
        (system Ev).step p action = some (after, out) → ¬ ClosesOutside p action →
        ∃ ev later last, (system Ev).AnyRun after later last ∧ .panicked ev ∈ later := by
  constructor
  · intro seen p run
    have inv := run_race run
    exact ⟨inv.sound, inv.clear⟩
  · intro seen out p after action run stepped between
    exact Pool.close_panics (run_inHand run) between stepped

/-- A full channel refuses the second of two events; the shutdown that follows is harmless. -/
theorem enqueue_panics_iff_drained :
    ∃ seen p, (system Nat).Run ClosesOutside (.start 0 1) seen p ∧ p.closed = true ∧
      .enqueued 2 (some .queueFull) ∈ seen ∧ (∀ ev, .panicked ev ∉ seen) ∧ p.NoneSending := by
  obtain ⟨seen, p, run, passed⟩ := System.exec_witness (system Nat) ClosesOutside (.start 0 1)
    [.call [1, 2], .callShutdown, .caller 0 none, .caller 0 none, .caller 0 none,
      .caller 0 none, .caller 0 none, .shutdown 0, .caller 0 none, .shutdown 0]
    (fun (p, seen) => p.closed && seen.contains (.enqueued 2 (some .queueFull)))
    (by decide)
  simp only [Bool.and_eq_true, List.contains_iff_mem] at passed
  have kept := (enqueue_panics_iff 0 1).1 seen p run
  exact ⟨seen, p, run, passed.1, passed.2, kept.1, kept.2 passed.1⟩

/-- One `Enqueue` loads the flag, `Shutdown` swaps it and closes the channel, and the send
of the `Enqueue` panics. -/
theorem enqueue_panics_caught :
    ∃ seen p, (system Nat).AnyRun (.start 1 1) seen p ∧ .panicked 1 ∈ seen := by
  obtain ⟨seen, p, run, passed⟩ := System.exec_witness (system Nat) System.unguarded (.start 1 1)
    [.call [1], .callShutdown, .caller 0 none, .shutdown 0, .shutdown 0,
      .caller 0 none]
    (fun (_, seen) => seen.contains (.panicked 1)) (by decide)
  exact ⟨seen, p, run, List.contains_iff_mem.mp passed⟩

end IngestionEngine.Worker
