import IngestionEngine.Worker.History

/-!
# The statistics of the pool

`QueueStats` loads the counters one after another, and each counter is updated after the operation
that it counts. So an event may be counted as processed before it is counted as accepted, or between
the two loads, and then the statistics have more events processed than accepted.
-/

namespace IngestionEngine.Worker

open Systems

variable {Ev : Type}

/-- What `QueueStats` returns. -/
structure QueueStats where
  /-- `len(p.taskCh)` -/
  length : Nat
  /-- `queueCap` -/
  capacity : Nat
  /-- `accepted` -/
  accepted : Nat
  /-- `dropped` -/
  dropped : Nat
  /-- `processed` -/
  processed : Nat
  deriving DecidableEq, Repr

/-- The events accepted and not yet processed, as the difference of the two `uint64`. -/
def QueueStats.backlog (stats : QueueStats) : UInt64 :=
  .ofNat stats.accepted - .ofNat stats.processed

/-- Where a caller of `QueueStats` stands, with what it has loaded. -/
inductive Reader where
  /-- Before the length of the channel. -/
  | length
  /-- Before the load of `accepted`. -/
  | accepted (length : Nat)
  /-- Before the load of `dropped`. -/
  | dropped (length accepted : Nat)
  /-- Before the load of `processed`. -/
  | processed (length accepted dropped : Nat)
  /-- It has returned. -/
  | returned
  deriving DecidableEq, Repr

/-- The pool, and the callers of `QueueStats`. -/
structure Monitored (Ev : Type) where
  /-- The pool. -/
  pool : Pool Ev
  /-- The goroutines that call `QueueStats`. -/
  readers : List Reader

/-- A step of the pool, or of a caller of `QueueStats`. -/
inductive StatsAct (Ev : Type) where
  /-- A step of the pool. -/
  | pool (action : Act Ev)
  /-- A goroutine calls `QueueStats`. -/
  | call
  /-- A caller of `QueueStats` takes its next step. -/
  | reader (index : Nat)
  deriving DecidableEq, Repr

/-- What is seen. -/
inductive StatsObs (Ev : Type) where
  /-- Something of the pool. -/
  | pool (obs : Obs Ev)
  /-- `QueueStats` returned. -/
  | returned (stats : QueueStats)
  deriving DecidableEq, Repr

namespace Monitored

/-- `QueueStats` -/
def queueStats (s : Monitored Ev) (index : Nat) : Option (Monitored Ev × List (StatsObs Ev)) :=
  match s.readers[index]? with
  | some .length =>
    some ({ s with readers := s.readers.set index (.accepted s.pool.taskCh.queue.length) }, [])
  | some (.accepted length) =>
    some ({ s with readers := s.readers.set index (.dropped length s.pool.accepted) }, [])
  | some (.dropped length accepted) =>
    some ({ s with readers := s.readers.set index (.processed length accepted s.pool.dropped) }, [])
  | some (.processed length accepted dropped) =>
    some ({ s with readers := s.readers.set index .returned },
      [.returned ⟨length, s.pool.taskCh.capacity, accepted, dropped, s.pool.processed⟩])
  | some .returned | none => none

/-- One atomic step. -/
def step (s : Monitored Ev) : StatsAct Ev → Option (Monitored Ev × List (StatsObs Ev))
  | .pool action =>
    (s.pool.step action).map fun result => ({ s with pool := result.1 }, result.2.map .pool)
  | .call => some ({ s with readers := s.readers ++ [.length] }, [])
  | .reader index => s.queueStats index

end Monitored

/-- The pool and the callers of `QueueStats` as a system. -/
def statsSystem (Ev : Type) : System (Monitored Ev) (StatsAct Ev) (StatsObs Ev) := ⟨Monitored.step⟩

/-- `NewPool` and `Start`, before any call of `QueueStats`. -/
def Monitored.start (numWorkers queueSize : Nat) : Monitored Ev := ⟨.start numWorkers queueSize, []⟩

/-! ### The order of the counts -/

/-- What a caller of `QueueStats` between its loads of `accepted` and `processed` has loaded. -/
def Reader.loaded : Reader → Option Nat
  | .dropped _ count | .processed _ count _ => some count
  | .length | .accepted _ | .returned => none

/-- It loads `accepted` next. -/
def Reader.loads : Reader → Bool
  | .accepted _ => true
  | .length | .dropped _ _ | .processed _ _ _ | .returned => false

/-- What is seen of the pool. -/
def StatsObs.ofPool : StatsObs Ev → List (Obs Ev)
  | .pool obs => [obs]
  | .returned _ => []

/-- One more step is taken. -/
def History.watch (h : History) (s : Monitored Ev) : StatsAct Ev → List (StatsObs Ev) → History
  | .pool action, out => h.pool s.pool action (out.flatMap StatsObs.ofPool)
  | .call, _ => h
  | .reader index, _ => if s.readers[index]?.any Reader.loads then h.load index else h

/-- When a call of `QueueStats` loads `accepted`, every event that is counted as processed is
counted as accepted, and until it loads `processed` the workers count only events as processed
that were counted as accepted by then. -/
def CountsInOrder (state : Monitored Ev × History) : StatsAct Ev → Prop
  | .pool action => state.1.pool.counts action = true →
    ∀ index ∈ List.range state.1.readers.length,
      state.1.readers[index]?.any (fun reader => reader.loaded.isSome) = true →
        state.2.ofWorker action.thread ∈ state.2.loaded index
  | .call => True
  | .reader index => state.1.readers[index]?.any Reader.loads = true →
    ∀ event ∈ state.2.processed, event ∈ state.2.accepted

instance (state : Monitored Ev × History) (action : StatsAct Ev) :
    Decidable (CountsInOrder state action) :=
  match action with
  | .pool action => inferInstanceAs (Decidable (state.1.pool.counts action = true →
    ∀ index ∈ List.range state.1.readers.length,
      state.1.readers[index]?.any (fun reader => reader.loaded.isSome) = true →
        state.2.ofWorker action.thread ∈ state.2.loaded index))
  | .call => inferInstanceAs (Decidable True)
  | .reader index => inferInstanceAs (Decidable
    (state.1.readers[index]?.any Reader.loads = true →
      ∀ event ∈ state.2.processed, event ∈ state.2.accepted))

/-- The pool and the callers of `QueueStats`, with the history, which no step reads. -/
def watchedStats (Ev : Type) : System (Monitored Ev × History) (StatsAct Ev) (StatsObs Ev) :=
  (statsSystem Ev).watched History.watch

/-! ### The numbers of the history -/

section Numbers

variable {s next : Monitored Ev} {index : Nat} {shown : List (StatsObs Ev)}

/-- What is shown of a step of the pool is what the pool shows. -/
theorem shown_ofPool (out : List (Obs Ev)) :
    (out.map StatsObs.pool).flatMap StatsObs.ofPool = out := by
  rw [List.flatMap_map]
  exact List.flatMap_singleton' out

/-- `QueueStats` leaves the pool alone. -/
theorem queueStats_pool (stepped : s.queueStats index = some (next, shown)) :
    next.pool = s.pool ∧ shown.flatMap StatsObs.ofPool = [] := by
  unfold Monitored.queueStats at stepped
  split at stepped
  case h_5 | h_6 => contradiction
  all_goals
    obtain ⟨rfl, rfl⟩ := Prod.mk.inj (Option.some.inj stepped)
    exact ⟨rfl, rfl⟩

/-- At the start there are no numbers. -/
theorem start_numbered (numWorkers queueSize : Nat) :
    Numbered [] (.start numWorkers queueSize : Pool Ev) .start := by
  refine ⟨rfl, rfl, fun index caller ev rest running => ?_, fun index worker ev running holds => ?_⟩
  · exact absurd (List.mem_of_getElem? running) List.not_mem_nil
  · obtain rfl : worker = .select := List.eq_of_mem_replicate (List.mem_of_getElem? running)
    simp at holds

/-- In every run the numbers in the history are those of the events that were sent. -/
theorem run_numbered {numWorkers queueSize : Nat}
    {guard : Monitored Ev × History → StatsAct Ev → Prop} {seen : List (StatsObs Ev)}
    {last : Monitored Ev × History}
    (run : (watchedStats Ev).Run guard (.start numWorkers queueSize, .start) seen last) :
    Numbered (seen.flatMap StatsObs.ofPool) last.1.pool last.2 := by
  refine (run.invariant (fun seen last =>
    (system Ev).AnyRun (.start numWorkers queueSize) (seen.flatMap StatsObs.ofPool) last.1.pool ∧
      Numbered (seen.flatMap StatsObs.ofPool) last.1.pool last.2)
    ?_ ?_).2
  · exact ⟨.start, start_numbered numWorkers queueSize⟩
  · rintro seen state action after out ⟨reached, numbered⟩ _ stepped
    obtain ⟨moved, same⟩ := System.watched_step stepped
    rw [same, List.flatMap_append]
    cases action with
    | pool action =>
      obtain ⟨⟨pool, shown⟩, step, result⟩ := Option.map_eq_some_iff.mp moved
      obtain ⟨here, rfl⟩ := Prod.mk.inj result
      obtain ⟨rest, flow⟩ := run_flow reached
      have left := step_numbered rest flow numbered step
      have next := reached.next trivial step
      rw [History.watch, shown_ofPool, ← here]
      exact ⟨next, left⟩
    | call =>
      obtain ⟨here, rfl⟩ := Prod.mk.inj (Option.some.inj moved)
      rw [List.flatMap_nil, List.append_nil, ← here]
      exact ⟨reached, numbered⟩
    | reader index =>
      obtain ⟨pool, silent⟩ := queueStats_pool moved
      rw [silent, List.append_nil, pool]
      refine ⟨reached, ?_⟩
      unfold History.watch
      dsimp only
      split
      · exact numbered.load index
      · exact numbered

end Numbers

/-! ### The statistics are consistent -/

/-- A call of `QueueStats` that has loaded `accepted` has counted every event that is counted as
processed. -/
def Reader.Sound (h : History) (index : Nat) (reader : Reader) : Prop :=
  ∀ count, reader.loaded = some count →
    (h.loaded index).length = count ∧ ∀ event ∈ h.processed, event ∈ h.loaded index

/-- What the loads of `QueueStats` rest on. -/
structure StatsInv (s : Monitored Ev) (h : History) : Prop where
  /-- The history is that of the counters. -/
  tracks : Tracks s.pool h
  /-- What the calls have loaded. -/
  sound : ∀ (index : Nat) (reader : Reader), s.readers[index]? = some reader →
    reader.Sound h index

section Steps

variable {s next : Monitored Ev} {h : History} {index : Nat} {shown : List (StatsObs Ev)}

/-- What is seen of the pool changes neither the processed events nor what the calls have loaded. -/
theorem observe_same (thread : Nat) (out : List (Obs Ev)) :
    (out.foldl (History.observe thread) h).processed = h.processed ∧
      (out.foldl (History.observe thread) h).loaded = h.loaded := by
  induction out generalizing h with
  | nil => exact ⟨rfl, rfl⟩
  | cons obs rest ih =>
    have one : (h.observe thread obs).processed = h.processed ∧
        (h.observe thread obs).loaded = h.loaded := by
      unfold History.observe
      split <;> exact ⟨rfl, rfl⟩
    rw [List.foldl_cons, ih.1, ih.2]
    exact one

/-- A step of the pool in order keeps the calls sound. -/
theorem pool_sound {action : Act Ev} {out : List (Obs Ev)} (inv : StatsInv s h)
    (ordered : CountsInOrder (s, h) (.pool action)) {reader : Reader}
    (here : s.readers[index]? = some reader) : reader.Sound (h.pool s.pool action out) index := by
  intro count loaded
  obtain ⟨length, counted⟩ := inv.sound index reader here count loaded
  unfold History.pool
  split
  · rename_i counts
    have inside : index ∈ List.range s.readers.length :=
      List.mem_range.mpr (List.getElem?_eq_some_iff.mp here).1
    have opened : s.readers[index]?.any (fun reader => reader.loaded.isSome) = true := by
      rw [here, Option.any_some, loaded]
      rfl
    have own : h.ofWorker action.thread ∈ h.loaded index := ordered counts index inside opened
    exact ⟨length, List.forall_mem_cons.mpr ⟨own, counted⟩⟩
  · obtain ⟨processed, same⟩ := observe_same (h := h) action.thread out
    rw [processed, same]
    exact ⟨length, counted⟩

/-- A step of one call keeps the other calls sound. -/
theorem set_sound {readers : List Reader} {new : Reader}
    (others : ∀ other reader, other ≠ index → readers[other]? = some reader →
      reader.Sound h other) (mine : new.Sound h index) (other : Nat) (reader : Reader)
    (here : (readers.set index new)[other]? = some reader) : reader.Sound h other := by
  rcases getElem?_set_cases here with ⟨rfl, rfl⟩ | ⟨different, found⟩
  · exact mine
  · exact others other reader different found

/-- What a call of `QueueStats` returns in order is consistent. -/
theorem reader_consistent (inv : StatsInv s h) (ordered : CountsInOrder (s, h) (.reader index))
    (stepped : s.queueStats index = some (next, shown)) :
    StatsInv next (h.watch s (.reader index) shown) ∧
      ∀ stats, .returned stats ∈ shown → stats.processed ≤ stats.accepted := by
  have others : ∀ other reader, other ≠ index → s.readers[other]? = some reader →
      reader.Sound h other := fun other reader _ => inv.sound other reader
  unfold Monitored.queueStats at stepped
  split at stepped
  · rename_i here
    obtain ⟨rfl, rfl⟩ := Prod.mk.inj (Option.some.inj stepped)
    have same : h.watch s (.reader index) [] = h := if_neg (by simp [here, Reader.loads])
    rw [same]
    refine ⟨⟨inv.tracks, set_sound others fun count loaded => ?_⟩, by simp⟩
    contradiction
  · rename_i length here
    obtain ⟨rfl, rfl⟩ := Prod.mk.inj (Option.some.inj stepped)
    have loading : s.readers[index]?.any Reader.loads = true := by simp [here, Reader.loads]
    have left : h.watch s (.reader index) [] = h.load index := if_pos loading
    have included : ∀ event ∈ h.processed, event ∈ h.accepted := ordered loading
    rw [left]
    refine ⟨⟨inv.tracks.load index, set_sound (fun other reader different found => ?_) ?_⟩,
      by simp⟩
    · intro count loaded
      rw [h.load_other different]
      exact others other reader different found count loaded
    · intro count loaded
      rw [h.load_self]
      obtain rfl := Option.some.inj loaded
      exact ⟨inv.tracks.accepted, included⟩
  · rename_i length accepted here
    obtain ⟨rfl, rfl⟩ := Prod.mk.inj (Option.some.inj stepped)
    have same : h.watch s (.reader index) [] = h := if_neg (by simp [here, Reader.loads])
    rw [same]
    refine ⟨⟨inv.tracks, set_sound others fun count loaded => ?_⟩, by simp⟩
    exact inv.sound index _ here count loaded
  · rename_i length accepted dropped here
    obtain ⟨rfl, rfl⟩ := Prod.mk.inj (Option.some.inj stepped)
    have same (out : List (StatsObs Ev)) : h.watch s (.reader index) out = h :=
      if_neg (by simp [here, Reader.loads])
    rw [same]
    refine ⟨⟨inv.tracks, set_sound others fun count loaded => ?_⟩, ?_⟩
    · contradiction
    · intro stats returned
      obtain rfl := StatsObs.returned.inj (List.mem_singleton.mp returned)
      -- No event is counted as processed twice, and each of them is among those loaded.
      obtain ⟨length, counted⟩ := inv.sound index _ here accepted rfl
      have fewer : h.processed.length ≤ (h.loaded index).length :=
        (List.subperm_of_subset inv.tracks.once counted).length_le
      show s.pool.processed ≤ accepted
      rw [← inv.tracks.processed, ← length]
      exact fewer
  · contradiction
  · contradiction

/-- Every step in order returns consistent statistics. -/
theorem step_consistent {step : StatsAct Ev} (inv : StatsInv s h)
    (ordered : CountsInOrder (s, h) step) (stepped : s.step step = some (next, shown)) :
    StatsInv next (h.watch s step shown) ∧
      ∀ stats, .returned stats ∈ shown → stats.processed ≤ stats.accepted := by
  cases step with
  | pool action =>
    obtain ⟨⟨after, out⟩, moved, same⟩ := Option.map_eq_some_iff.mp stepped
    obtain ⟨rfl, rfl⟩ := Prod.mk.inj same
    rw [History.watch, shown_ofPool]
    refine ⟨⟨step_tracks inv.tracks moved, fun _ _ here => pool_sound inv ordered here⟩, ?_⟩
    intro stats returned
    obtain ⟨obs, _, shown⟩ := List.mem_map.mp returned
    contradiction
  | call =>
    obtain ⟨rfl, rfl⟩ := Prod.mk.inj (Option.some.inj stepped)
    refine ⟨⟨inv.tracks, fun index reader here => ?_⟩, by simp⟩
    rcases getElem?_append_cases here with rfl | old
    · intro count loaded
      contradiction
    · exact inv.sound index reader old
  | reader index => exact reader_consistent inv ordered stepped

end Steps

/-- Before any call nothing is counted. -/
theorem start_consistent (numWorkers queueSize : Nat) :
    StatsInv (.start numWorkers queueSize : Monitored Ev) .start := by
  have idle (index : Nat) :
      ¬ Holding (List.replicate numWorkers (WorkerPc.select : WorkerPc Ev)) index := by
    rintro ⟨worker, running, uncounted⟩
    rw [List.eq_of_mem_replicate (List.mem_of_getElem? running)] at uncounted
    contradiction
  refine ⟨⟨rfl, rfl, List.nodup_nil, List.forall_mem_nil _, ?_, ?_⟩, by simp [Monitored.start]⟩
  · exact fun index holding => absurd holding (idle index)
  · exact fun one _ holding _ _ => absurd holding (idle one)

/-- Every call of `QueueStats` returns at most as many events processed as accepted, and their
difference does not wrap, if its load of `accepted` finds every event counted as accepted that is
counted as processed, and no other is counted as processed until its load of `processed`. The
numbers by which events are compared are those of the events sent. -/
theorem queueStats_consistent {numWorkers queueSize : Nat} {seen : List (StatsObs Ev)}
    {last : Monitored Ev × History}
    (run : (watchedStats Ev).Run CountsInOrder (.start numWorkers queueSize, .start) seen last) :
    Numbered (seen.flatMap StatsObs.ofPool) last.1.pool last.2 ∧
      ∀ stats, .returned stats ∈ seen → stats.processed ≤ stats.accepted ∧
        stats.backlog = .ofNat (stats.accepted - stats.processed) := by
  have kept : StatsInv last.1 last.2 ∧
      ∀ stats, .returned stats ∈ seen → stats.processed ≤ stats.accepted := by
    refine run.invariant (fun seen last => StatsInv last.1 last.2 ∧
      ∀ stats, .returned stats ∈ seen → stats.processed ≤ stats.accepted)
      ⟨start_consistent numWorkers queueSize, by simp⟩ ?_
    rintro seen state action after out ⟨inv, consistent⟩ ordered stepped
    obtain ⟨moved, same⟩ := System.watched_step stepped
    obtain ⟨kept, returned⟩ := step_consistent inv ordered moved
    rw [← same] at kept
    refine ⟨kept, fun stats member => ?_⟩
    rcases List.mem_append.mp member with old | new
    · exact consistent stats old
    · exact returned stats new
  refine ⟨run_numbered run, fun stats returned => ?_⟩
  have bound : stats.processed ≤ stats.accepted := kept.2 stats returned
  exact ⟨bound, (UInt64.ofNat_sub bound).symm⟩

/-- One event is processed between the loads, after it was accepted, while another is sent and not
yet counted. -/
theorem queueStats_consistent_two : ∃ seen last,
    (watchedStats Nat).Run CountsInOrder (.start 1 2, .start) seen last ∧
      .returned ⟨2, 2, 1, 0, 1⟩ ∈ seen ∧ 1 ≤ 1 ∧
      (QueueStats.mk 2 2 1 0 1).backlog = .ofNat (1 - 1) := by
  obtain ⟨seen, last, run, passed⟩ := System.exec_witness (watchedStats Nat) CountsInOrder
    (.start 1 2, .start)
    [.pool (.call [1]), .pool (.call [2]), .pool (.caller 0 none), .pool (.caller 0 none),
      .pool (.caller 0 none), .pool (.caller 1 none), .pool (.caller 1 none), .call, .reader 0,
      .reader 0, .pool (.select 0 .taskCh), .pool (.submit 0 true), .pool (.worker 0), .reader 0,
      .reader 0]
    (fun last => last.2.contains (.returned ⟨2, 2, 1, 0, 1⟩)) (by decide +kernel)
  have returned : .returned ⟨2, 2, 1, 0, 1⟩ ∈ seen := List.contains_iff_mem.mp passed
  have kept := (queueStats_consistent run).2 _ returned
  exact ⟨seen, last, run, returned, kept.1, kept.2⟩

/-- A worker counts an event as processed before its caller counts it as accepted, and
`QueueStats` returns between the two: the difference wraps. -/
theorem queueStats_wraps : ∃ (seen : List (StatsObs Nat)) (last : Monitored Nat)
    (stats : QueueStats), (statsSystem Nat).AnyRun (.start 1 1) seen last ∧ .returned stats ∈ seen ∧
      stats.accepted < stats.processed ∧ stats.backlog.toNat = 2 ^ 64 - 1 := by
  obtain ⟨seen, last, run, passed⟩ := System.exec_witness (statsSystem Nat) System.unguarded
    (.start 1 1)
    [.pool (.call [1]), .pool (.caller 0 none), .pool (.caller 0 none),
      .pool (.select 0 .taskCh), .pool (.submit 0 true), .pool (.worker 0), .call, .reader 0,
      .reader 0, .reader 0, .reader 0]
    (fun last => last.2.contains (.returned ⟨0, 1, 0, 0, 1⟩)) (by decide +kernel)
  have returned : .returned ⟨0, 1, 0, 0, 1⟩ ∈ seen := List.contains_iff_mem.mp passed
  exact ⟨seen, last, _, run, returned, Nat.zero_lt_one, by decide⟩

end IngestionEngine.Worker
