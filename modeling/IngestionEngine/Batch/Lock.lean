import IngestionEngine.Batch.Flow

/-!
# The mutex of the processor

`doFlush` locks `p.mu` after a write that succeeded. The threshold and the ticker path
release the mutex before they call it; `drainAndFlush` does not. Who holds the mutex is therefore
decided by where the goroutine stands, and the only lock that it tries while it holds the mutex is
the one after a flush of the shutdown that succeeded.
-/

namespace IngestionEngine.Batch

open Systems

variable {Ev : Type}

/-- The goroutine holds the mutex here. -/
def LoopPc.holdsMu : LoopPc Ev → Bool
  | .appending _ | .checking | .draining | .drained | .stamped _ | .unlocking => true
  | .doFlush reason _ | .flushing reason _ | .committed reason _ | .stamping reason =>
    reason = .gracefulShutdown
  | .select | .parked | .received _ | .ticked | .cancelled | .returned => false

namespace Processor

/-- The goroutine is about to lock the mutex it holds. -/
def SelfLock (p : Processor Ev) : Prop := p.pc.afterLock ≠ none ∧ p.mu = some .loop

/-- Who holds the mutex is decided by where the goroutine stands. -/
structure LockInv (p : Processor Ev) : Prop where
  /-- The goroutine holds the mutex exactly where the code says so. -/
  owner : p.mu = some .loop ↔ p.pc.holdsMu = true
  /-- The lock inside the last `doFlush` is never taken. -/
  unstamped : p.pc ≠ .stamped .gracefulShutdown

/-- Where the goroutine does not own the mutex, it does not stand inside a critical section. -/
theorem LockInv.outside {p : Processor Ev} (inv : p.LockInv) (unowned : p.mu ≠ some .loop) :
    p.pc.holdsMu = false := by
  rw [← Bool.not_eq_true, ← inv.owner]
  exact unowned

/-- A step that leaves the mutex alone and stays on the same side of the critical section. -/
theorem LockInv.stay {p after : Processor Ev} (inv : p.LockInv) (same_mu : after.mu = p.mu)
    (same_side : after.pc.holdsMu = p.pc.holdsMu) (next : after.pc ≠ .stamped .gracefulShutdown) :
    after.LockInv where
  owner := by rw [same_mu, same_side, inv.owner]
  unstamped := next

/-- A step that takes the mutex and enters a critical section. -/
theorem LockInv.enter {after : Processor Ev} (taken : after.mu = some .loop)
    (inside : after.pc.holdsMu = true) (next : after.pc ≠ .stamped .gracefulShutdown) :
    after.LockInv where
  owner := by simp only [taken, inside]
  unstamped := next

/-- A state in which the goroutine neither owns the mutex nor stands inside a critical
section. -/
theorem LockInv.leave {after : Processor Ev} (unowned : after.mu ≠ some .loop)
    (outside : after.pc.holdsMu = false) : after.LockInv where
  owner := by simp only [unowned, outside, Bool.false_eq_true]
  unstamped := by
    intro stamped
    rw [stamped] at outside
    exact absurd outside nofun

/-- The only lock the goroutine tries while it holds the mutex is the one after a flush of
the shutdown that succeeded. -/
theorem selfLock_iff {p : Processor Ev} (inv : p.LockInv) :
    p.SelfLock ↔ p.pc = .stamping .gracefulShutdown := by
  rw [SelfLock, inv.owner]
  cases p.pc with
  | stamping reason => cases reason <;> simp [LoopPc.afterLock, LoopPc.holdsMu]
  | received | ticked | cancelled => simp [LoopPc.holdsMu]
  | _ => simp [LoopPc.afterLock]

/-- A lock that is taken leads where the goroutine holds the mutex. -/
theorem afterLock_holdsMu {pc next : LoopPc Ev} (entered : pc.afterLock = some next)
    (outside : pc.holdsMu = false) : next.holdsMu = true ∧ next ≠ .stamped .gracefulShutdown := by
  cases pc with
  | received | ticked | cancelled =>
    obtain rfl := Option.some.inj entered
    exact ⟨rfl, nofun⟩
  | stamping reason =>
    obtain rfl := Option.some.inj entered
    refine ⟨rfl, ?_⟩
    rintro ⟨rfl⟩
    exact absurd outside nofun
  | _ => exact absurd entered nofun

/-- `doFlush` returns into a critical section exactly from the drain. -/
theorem resume_holdsMu (reason : Reason) :
    (reason.resume : LoopPc Ev).holdsMu = decide (reason = .gracefulShutdown) := by
  cases reason <;> rfl

/-- `doFlush` does not return into itself. -/
theorem resume_unstamped (reason other : Reason) :
    (reason.resume : LoopPc Ev) ≠ .stamped other := by
  cases reason <;> exact nofun

/-- The goroutine takes and releases the mutex where the code says. -/
theorem advance_lock {p after : Processor Ev} {out : List (Obs Ev)} (inv : p.LockInv)
    (moved : Advance p after out) : after.LockInv := by
  cases moved with
  | lock free entered =>
    have outside : p.pc.holdsMu = false := inv.outside (by simp [free])
    have inside := afterLock_holdsMu entered outside
    exact .enter rfl inside.1 inside.2
  | fill | append | expire | expireIdle | finish => exact .leave nofun rfl
  | drain here => exact ⟨inv.owner, inv.unstamped⟩
  | drainStop here | last here | lastIdle here => exact inv.stay rfl (by rw [here]; rfl) nofun
  | call here | count here => exact inv.stay rfl (by rw [here]; rfl) nofun
  | @skip reason here =>
    exact inv.stay rfl (by rw [here, resume_holdsMu]; rfl) (resume_unstamped reason _)
  | @stamp reason here =>
    have ordinary : reason ≠ .gracefulShutdown := fun last => inv.unstamped (by rw [here, last])
    exact .leave nofun (by rw [resume_holdsMu, decide_eq_false ordinary])

/-- Every step keeps the owner of the mutex where the code says it is. -/
theorem step_lock {p after : Processor Ev} {action : Act Ev} {out : List (Obs Ev)}
    (inv : p.LockInv) (stepped : p.step action = some (after, out)) : after.LockInv := by
  cases step_cases stepped with
  | submit moved =>
    cases moved with
    | meet waiting => exact inv.stay rfl (by rw [waiting]; rfl) nofun
    | queue | refuse => exact ⟨inv.owner, inv.unstamped⟩
  | tickWakes waiting | cancelWakes waiting => exact inv.stay rfl (by rw [waiting]; rfl) nofun
  | tickWaits | cancelWaits => exact ⟨inv.owner, inv.unstamped⟩
  | metricsLock free => exact .leave nofun (inv.outside (by simp [free]))
  | metricsUnlock owned => exact .leave nofun (inv.outside (by simp [owned]))
  | select here moved => cases moved <;> exact inv.stay rfl (by rw [here]; rfl) nofun
  | advance moved => exact advance_lock inv moved
  | flushStored here => exact inv.stay rfl (by rw [here]; rfl) nofun
  | @flushFailed reason events here =>
    exact inv.stay rfl (by rw [here, resume_holdsMu]; rfl) (resume_unstamped reason _)

end Processor

/-- The mutex invariant holds in every run. -/
theorem run_lock {threshold bufferSize : Nat} {guard : Processor Ev → Act Ev → Prop}
    {seen : List (Obs Ev)} {p : Processor Ev}
    (run : (system Ev).Run guard (.start threshold bufferSize) seen p) : p.LockInv := by
  apply run.state_invariant Processor.LockInv
  · exact ⟨by simp [Processor.start, LoopPc.holdsMu], nofun⟩
  · intro p action after out inv _ stepped
    exact Processor.step_lock inv stepped

end IngestionEngine.Batch
