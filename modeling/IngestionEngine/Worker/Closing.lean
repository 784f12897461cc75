import IngestionEngine.Worker.Pool

/-!
# The one call of `Shutdown` that counts

Of all callers of `Shutdown` exactly one swaps the flag, and that one closes the channel and
cancels the context. How far it has come is therefore readable in three fields of the pool:
each of them is the number of callers that have passed the statement that sets it.
-/

namespace IngestionEngine.Worker

open Systems

variable {Ev : Type}

/-- Callers of `Shutdown` past a successful swap. -/
def ShutdownPc.swapped : ShutdownPc → Nat
  | .closing | .cancelling | .waiting | .returned true => 1
  | .cas | .returned false => 0

/-- Callers of `Shutdown` past `close(p.taskCh)`. -/
def ShutdownPc.hasClosed : ShutdownPc → Nat
  | .cancelling | .waiting | .returned true => 1
  | .cas | .closing | .returned false => 0

/-- Callers of `Shutdown` past `p.cancel()`. -/
def ShutdownPc.hasCancelled : ShutdownPc → Nat
  | .waiting | .returned true => 1
  | .cas | .closing | .cancelling | .returned false => 0

/-- The observation is a close of `taskCh`. -/
def Obs.isClosed : Obs Ev → Bool
  | .closed => true
  | _ => false

namespace Pool

/-- The three fields that `Shutdown` sets tell how many callers have passed the statements
that set them. -/
structure ClosingInv (seen : List (Obs Ev)) (p : Pool Ev) : Prop where
  /-- The flag counts the successful swaps. -/
  swapped : total ShutdownPc.swapped p.shutdowns = p.isShuttingDown.toNat
  /-- The channel is closed by the caller that swapped. -/
  closed : total ShutdownPc.hasClosed p.shutdowns = p.closed.toNat
  /-- The context is cancelled by the caller that closed. -/
  cancelled : total ShutdownPc.hasCancelled p.shutdowns = p.ctxDone.toNat
  /-- Each close was observed. -/
  observed : seen.countP Obs.isClosed = p.closed.toNat
  /-- A caller whose swap failed has found the flag set. -/
  lost : .returned false ∈ p.shutdowns → p.isShuttingDown = true

/-- No step of a caller of `Enqueue` touches what `Shutdown` sets. -/
theorem enqueue_frame {p after : Pool Ev} {index : Nat} {out : List (Obs Ev)}
    (moved : Enqueue p index after out) :
    after.shutdowns = p.shutdowns ∧ after.isShuttingDown = p.isShuttingDown ∧
      after.closed = p.closed ∧ after.ctxDone = p.ctxDone ∧ out.countP Obs.isClosed = 0 := by
  cases moved <;> exact ⟨rfl, rfl, rfl, rfl, rfl⟩

/-- No step of a worker touches what `Shutdown` sets, or a caller. -/
theorem work_frame {p after : Pool Ev} {index : Nat} {out : List (Obs Ev)}
    (moved : Work p index after out) :
    after.shutdowns = p.shutdowns ∧ after.isShuttingDown = p.isShuttingDown ∧
      after.closed = p.closed ∧ after.ctxDone = p.ctxDone ∧ out.countP Obs.isClosed = 0 ∧
      after.callers = p.callers := by
  cases moved <;> exact ⟨rfl, rfl, rfl, rfl, rfl, rfl⟩

/-- A `Submit` moves its worker and nothing else. -/
theorem submit_frame {p after : Pool Ev} {index : Nat} {accepted : Bool} {out : List (Obs Ev)}
    (moved : Submit p index accepted after out) :
    (after.shutdowns = p.shutdowns ∧ after.isShuttingDown = p.isShuttingDown ∧
      after.closed = p.closed ∧ after.ctxDone = p.ctxDone ∧ out.countP Obs.isClosed = 0 ∧
      after.callers = p.callers) ∧ after.taskCh = p.taskCh := by
  cases moved <;> exact ⟨⟨rfl, rfl, rfl, rfl, rfl, rfl⟩, rfl⟩

/-- A caller that has closed has swapped. -/
theorem closed_le_swapped (caller : ShutdownPc) : caller.hasClosed ≤ caller.swapped := by
  cases caller with
  | returned won => cases won <;> decide
  | _ => decide

/-- A caller that has cancelled has closed. -/
theorem cancelled_le_closed (caller : ShutdownPc) : caller.hasCancelled ≤ caller.hasClosed := by
  cases caller with
  | returned won => cases won <;> decide
  | _ => decide

/-- Every step of a caller of `Shutdown` keeps the counts. -/
theorem shutdown_closing {seen out : List (Obs Ev)} {p after : Pool Ev} {index : Nat}
    (inv : p.ClosingInv seen) (moved : Shutdown p index after out) :
    after.ClosingInv (seen ++ out) := by
  obtain ⟨swapped, closed, cancelled, observed, lost⟩ := inv
  have earlier {new : ShutdownPc} (different : .returned false ≠ new)
      (member : .returned false ∈ p.shutdowns.set index new) : p.isShuttingDown = true :=
    lost ((List.mem_or_eq_of_mem_set member).resolve_right different)
  have counts {old : ShutdownPc} (running : p.shutdowns[index]? = some old) (new : ShutdownPc) :=
    And.intro (total_set ShutdownPc.swapped running new)
      (And.intro (total_set ShutdownPc.hasClosed running new)
        (total_set ShutdownPc.hasCancelled running new))
  cases moved with
  | lose running flag =>
    obtain ⟨first, second, third⟩ := counts running (.returned false)
    simp only [ShutdownPc.swapped, ShutdownPc.hasClosed, ShutdownPc.hasCancelled]
      at first second third
    exact ⟨by simp only; omega, by simp only; omega, by simp only; omega,
      by simpa using observed, fun _ => flag⟩
  | win running flag =>
    obtain ⟨first, second, third⟩ := counts running .closing
    simp only [ShutdownPc.swapped, ShutdownPc.hasClosed, ShutdownPc.hasCancelled]
      at first second third
    rw [flag] at swapped
    exact ⟨by simp only [Bool.toNat_true, Bool.toNat_false] at *; omega, by simp only; omega,
      by simp only; omega, by simpa using observed, fun _ => rfl⟩
  | close running =>
    obtain ⟨first, second, third⟩ := counts running .cancelling
    have gap := total_gap closed_le_swapped running
    have bit := Bool.toNat_le p.isShuttingDown
    simp only [ShutdownPc.swapped, ShutdownPc.hasClosed, ShutdownPc.hasCancelled]
      at first second third gap
    refine ⟨by simp only; omega, by simp only [Bool.toNat_true]; omega, by simp only; omega, ?_,
      earlier nofun⟩
    rw [List.countP_append, observed]
    simp only [Bool.toNat_true, List.countP_singleton, Obs.isClosed, if_true]
    omega
  | cancel running =>
    obtain ⟨first, second, third⟩ := counts running .waiting
    have gap := total_gap cancelled_le_closed running
    have bit := Bool.toNat_le p.closed
    simp only [ShutdownPc.swapped, ShutdownPc.hasClosed, ShutdownPc.hasCancelled]
      at first second third gap
    exact ⟨by simp only; omega, by simp only; omega, by simp only [Bool.toNat_true]; omega,
      by simpa using observed, earlier nofun⟩
  | finish running finished =>
    obtain ⟨first, second, third⟩ := counts running (.returned true)
    simp only [ShutdownPc.swapped, ShutdownPc.hasClosed, ShutdownPc.hasCancelled]
      at first second third
    exact ⟨by simp only; omega, by simp only; omega, by simp only; omega,
      by simpa using observed, earlier (by simp)⟩

/-- The counts depend on nothing else. -/
theorem ClosingInv.frame {seen out : List (Obs Ev)} {p after : Pool Ev} (inv : p.ClosingInv seen)
    (threads : after.shutdowns = p.shutdowns) (flag : after.isShuttingDown = p.isShuttingDown)
    (closed : after.closed = p.closed) (done : after.ctxDone = p.ctxDone)
    (silent : out.countP Obs.isClosed = 0) : after.ClosingInv (seen ++ out) where
  swapped := by rw [threads, flag, inv.swapped]
  closed := by rw [threads, closed, inv.closed]
  cancelled := by rw [threads, done, inv.cancelled]
  observed := by rw [List.countP_append, silent, closed, inv.observed, Nat.add_zero]
  lost := by
    rw [threads, flag]
    exact inv.lost

/-- Every step keeps the counts. -/
theorem step_closing {seen out : List (Obs Ev)} {p after : Pool Ev} {action : Act Ev}
    (inv : p.ClosingInv seen) (stepped : p.step action = some (after, out)) :
    after.ClosingInv (seen ++ out) := by
  cases step_cases stepped with
  | call =>
    rw [List.append_nil]
    exact ⟨inv.swapped, inv.closed, inv.cancelled, inv.observed, inv.lost⟩
  | callShutdown =>
    rw [List.append_nil]
    refine ⟨?_, ?_, ?_, inv.observed, fun member => inv.lost (by simpa using member)⟩
    · rw [total_append]
      exact inv.swapped
    · rw [total_append]
      exact inv.closed
    · rw [total_append]
      exact inv.cancelled
  | caller moved =>
    obtain ⟨threads, flag, closed, done, silent⟩ := enqueue_frame moved
    exact inv.frame threads flag closed done silent
  | select moved | worker moved =>
    obtain ⟨threads, flag, closed, done, silent, _⟩ := work_frame moved
    exact inv.frame threads flag closed done silent
  | submit moved =>
    obtain ⟨⟨threads, flag, closed, done, silent, _⟩, _⟩ := submit_frame moved
    exact inv.frame threads flag closed done silent
  | shutdown moved => exact shutdown_closing inv moved

/-- A channel that is closed was closed by a caller that had set the flag. -/
theorem ClosingInv.flag {seen : List (Obs Ev)} {p : Pool Ev} (inv : p.ClosingInv seen)
    (closed : p.closed = true) : p.isShuttingDown = true := by
  have below : total ShutdownPc.hasClosed p.shutdowns ≤ total ShutdownPc.swapped p.shutdowns :=
    total_le closed_le_swapped
  rw [inv.closed, inv.swapped, closed] at below
  cases flag : p.isShuttingDown with
  | true => rfl
  | false => simp [flag] at below

/-- A call of `Shutdown` that has returned takes no further step. -/
theorem step_returned {p after : Pool Ev} {action : Act Ev} {out : List (Obs Ev)} {won : Bool}
    (returned : .returned won ∈ p.shutdowns) (stepped : p.step action = some (after, out)) :
    .returned won ∈ after.shutdowns := by
  have others {index : Nat} {old : ShutdownPc} (new : ShutdownPc)
      (running : p.shutdowns[index]? = some old) (runs : old ≠ .returned won) :
      .returned won ∈ p.shutdowns.set index new := by
    obtain ⟨place, found⟩ := List.getElem?_of_mem returned
    have different : index ≠ place := by
      rintro rfl
      rw [running] at found
      exact runs (Option.some.inj found)
    exact List.mem_of_getElem? ((List.getElem?_set_ne different).trans found)
  cases step_cases stepped with
  | call => exact returned
  | callShutdown => exact List.mem_append_left _ returned
  | caller moved => rw [(enqueue_frame moved).1]; exact returned
  | select moved | worker moved => rw [(work_frame moved).1]; exact returned
  | submit moved => rw [(submit_frame moved).1.1]; exact returned
  | shutdown moved =>
    cases moved with
    | lose running | win running | close running | cancel running | finish running =>
      exact others _ running nofun

end Pool

/-- The counts hold in every run. -/
theorem run_closing {numWorkers queueSize : Nat} {guard : Pool Ev → Act Ev → Prop}
    {seen : List (Obs Ev)} {p : Pool Ev}
    (run : (system Ev).Run guard (.start numWorkers queueSize) seen p) : p.ClosingInv seen := by
  refine run.invariant (fun seen p => p.ClosingInv seen) ⟨rfl, rfl, rfl, rfl, nofun⟩ ?_
  intro seen p action after out inv _ stepped
  exact Pool.step_closing inv stepped

end IngestionEngine.Worker
