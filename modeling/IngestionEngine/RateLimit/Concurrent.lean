import IngestionEngine.RateLimit.Envelope
import IngestionEngine.Systems.Run
import IngestionEngine.Systems.Threads

/-!
# Concurrent calls of the keyed rate limiter

`KeyedRateLimiter.Allow` called by any number of goroutines. Each of its three critical sections
is one step, and the steps of different calls may come in any order. Every section reads the
clock under its own mutex, so the readings do not go back.
-/

namespace IngestionEngine.RateLimit

open Systems Bucket

namespace Concurrent

/-- Where a goroutine stands in `Allow`. -/
inductive AllowPc where
  /-- Before `k.globalLimit.Allow()`. -/
  | globalCheck
  /-- The global bucket admitted the call; before the critical section of `k.mu`. -/
  | lookup
  /-- It holds the bucket; before `bucket.Allow()`. -/
  | keyCheck (place : Nat)
  /-- It has returned. -/
  | returned (allowed : Bool)
  deriving DecidableEq

/-- A goroutine inside `Allow`. -/
structure Goroutine where
  /-- The client. -/
  key : String
  /-- Where it stands. -/
  pc : AllowPc
  deriving DecidableEq

/-- The limiter and its callers. -/
structure State where
  /-- The limiter. -/
  limiter : KeyedRateLimiter
  /-- The last reading of the clock. -/
  now : ℚ
  /-- The goroutines. -/
  goroutines : List Goroutine

/-- What an observer of the limiter sees. -/
inductive Obs where
  /-- The global bucket answered. -/
  | globalChecked (clock : ℚ) (passed : Bool)
  /-- A call of the key got a bucket from the map. -/
  | bound (key : String) (place : Nat)
  /-- The bucket of a call of the key answered. -/
  | keyChecked (key : String) (clock : ℚ) (passed : Bool)

/-- The steps of the goroutines. -/
inductive Act where
  /-- A goroutine calls `Allow`. -/
  | call (key : String)
  /-- A goroutine enters and leaves its next critical section. -/
  | enter (index : Nat) (clock : ℚ)

/-- `NewKeyedRateLimiter` -/
def State.start (ratePerSec capacity globalRate globalCap now : ℚ) : State where
  limiter := newKeyedRateLimiter ratePerSec capacity globalRate globalCap now
  now := now
  goroutines := []

/-- The next critical section of a goroutine. -/
def State.enter (s : State) (index : Nat) (g : Goroutine) (clock : ℚ) :
    Option (State × List Obs) :=
  match g.pc with
  | .globalCheck =>
    let (limiter, passed) := s.limiter.checkGlobal clock
    let pc := if passed then .lookup else .returned false
    some ({ limiter, now := clock, goroutines := s.goroutines.set index { g with pc } },
      [.globalChecked clock passed])
  | .lookup =>
    let limiter := s.limiter.lookupOrCreate g.key clock
    match limiter.buckets.index g.key with
    | none => none
    | some place =>
      some ({ limiter, now := clock,
              goroutines := s.goroutines.set index { g with pc := .keyCheck place } },
        [.bound g.key place])
  | .keyCheck place =>
    let (limiter, passed) := s.limiter.checkKey place clock
    some ({ limiter, now := clock,
            goroutines := s.goroutines.set index { g with pc := .returned passed } },
      [.keyChecked g.key clock passed])
  | .returned _ => none

/-- One atomic step. -/
def State.step (s : State) : Act → Option (State × List Obs)
  | .call key => some ({ s with goroutines := s.goroutines ++ [⟨key, .globalCheck⟩] }, [])
  | .enter index clock =>
    if clock < s.now then none
    else
      match s.goroutines[index]? with
      | none => none
      | some g => s.enter index g clock

/-- The concurrent calls as a system. -/
def system : System State Act Obs := ⟨State.step⟩

/-- Everything a step can do. -/
inductive Step (s : State) : Act → State → List Obs → Prop where
  /-- A goroutine starts. -/
  | call {key : String} :
      Step s (.call key) { s with goroutines := s.goroutines ++ [⟨key, .globalCheck⟩] } []
  /-- The global bucket is asked. -/
  | globalCheck {index : Nat} {g : Goroutine} {clock : ℚ} (running : s.goroutines[index]? = some g)
      (later : s.now ≤ clock) {pc : AllowPc} (next : ∀ place, pc ≠ .keyCheck place) :
      Step s (.enter index clock)
        { limiter := (s.limiter.checkGlobal clock).1, now := clock,
          goroutines := s.goroutines.set index { g with pc } }
        [.globalChecked clock (s.limiter.checkGlobal clock).2]
  /-- A bucket is looked up or created. -/
  | lookup {index : Nat} {g : Goroutine} {clock : ℚ} (running : s.goroutines[index]? = some g)
      (later : s.now ≤ clock) {place : Nat}
      (found : (s.limiter.lookupOrCreate g.key clock).buckets.index g.key = some place) :
      Step s (.enter index clock)
        { limiter := s.limiter.lookupOrCreate g.key clock, now := clock,
          goroutines := s.goroutines.set index { g with pc := .keyCheck place } }
        [.bound g.key place]
  /-- The bucket that was looked up is asked. -/
  | keyCheck {index : Nat} {g : Goroutine} {clock : ℚ} (running : s.goroutines[index]? = some g)
      (later : s.now ≤ clock) {place : Nat} (holds : g.pc = .keyCheck place) :
      Step s (.enter index clock)
        { limiter := (s.limiter.checkKey place clock).1, now := clock,
          goroutines := s.goroutines.set index
            { g with pc := .returned (s.limiter.checkKey place clock).2 } }
        [.keyChecked g.key clock (s.limiter.checkKey place clock).2]

/-- `State.step` does nothing else. -/
theorem step_cases {s after : State} {action : Act} {out : List Obs}
    (stepped : s.step action = some (after, out)) : Step s action after out := by
  cases action with
  | call key =>
    obtain ⟨rfl, rfl⟩ := Prod.mk.inj (Option.some.inj stepped)
    exact .call
  | enter index clock =>
    rw [State.step] at stepped
    split at stepped
    · contradiction
    · rename_i early
      have later : s.now ≤ clock := not_lt.mp early
      cases running : s.goroutines[index]? with
      | none =>
        rw [running] at stepped
        contradiction
      | some g =>
        rw [running] at stepped
        simp only [State.enter] at stepped
        cases holds : g.pc with
        | globalCheck =>
          rw [holds] at stepped
          obtain ⟨rfl, rfl⟩ := Prod.mk.inj (Option.some.inj stepped)
          apply Step.globalCheck running later
          intro place
          split <;> simp
        | lookup =>
          rw [holds] at stepped
          cases found : (s.limiter.lookupOrCreate g.key clock).buckets.index g.key with
          | none =>
            simp only [found] at stepped
            contradiction
          | some place =>
            simp only [found] at stepped
            obtain ⟨rfl, rfl⟩ := Prod.mk.inj (Option.some.inj stepped)
            exact .lookup running later found
        | keyCheck place =>
          rw [holds] at stepped
          obtain ⟨rfl, rfl⟩ := Prod.mk.inj (Option.some.inj stepped)
          exact .keyCheck running later holds
        | returned allowed =>
          rw [holds] at stepped
          contradiction

/-! ### A call that is not interrupted -/

/-- A schedule of the next section of the last goroutine. -/
theorem exec_last (limiter : KeyedRateLimiter) (now : ℚ) (goroutines : List Goroutine)
    (g : Goroutine) {clock : ℚ} (later : now ≤ clock) {after : State} {out : List Obs}
    (entered : State.enter ⟨limiter, now, goroutines ++ [g]⟩ goroutines.length g clock =
      some (after, out)) :
    system.exec System.unguarded ⟨limiter, now, goroutines ++ [g]⟩
      [.enter goroutines.length clock] = some (after, out) := by
  apply System.exec_one trivial
  show State.step ⟨limiter, now, goroutines ++ [g]⟩ (.enter goroutines.length clock) = _
  rw [State.step, if_neg (not_lt.mpr later)]
  simp only [List.getElem?_concat_length]
  exact entered

/-- It replaces its own entry. -/
theorem set_last (goroutines : List Goroutine) (old new : Goroutine) :
    (goroutines ++ [old]).set goroutines.length new = goroutines ++ [new] := by
  rw [List.set_append_right _ _ (Nat.le_refl _), Nat.sub_self]
  rfl

/-- A call whose sections are not interrupted does what `allow` does. -/
theorem uninterrupted_allow (s : State) (key : String) (at_ : Readings)
    (later : s.now ≤ at_.globalAt) :
    ∃ schedule after seen, system.exec System.unguarded s schedule = some (after, seen) ∧
      after.limiter = (s.limiter.allow key at_).1 ∧
      after.goroutines =
        s.goroutines ++ [⟨key, .returned (s.limiter.allow key at_).2.result⟩] := by
  have called : system.exec System.unguarded s [.call key] =
      some ({ s with goroutines := s.goroutines ++ [⟨key, .globalCheck⟩] }, []) := rfl
  cases first : s.limiter.checkGlobal at_.globalAt with | mk limiter passed
  have entered : State.enter ⟨s.limiter, s.now, s.goroutines ++ [⟨key, .globalCheck⟩]⟩
      s.goroutines.length ⟨key, .globalCheck⟩ at_.globalAt =
        some (⟨limiter, at_.globalAt,
          s.goroutines ++ [⟨key, if passed then .lookup else .returned false⟩]⟩,
          [.globalChecked at_.globalAt passed]) := by
    simp only [State.enter, first, set_last]
  have asked := exec_last s.limiter s.now s.goroutines ⟨key, .globalCheck⟩ later entered
  have begun := System.exec_append called asked
  unfold KeyedRateLimiter.allow
  simp only [first]
  cases passed with
  | false => exact ⟨_, _, _, begun, rfl, rfl⟩
  | true =>
    obtain ⟨place, bound⟩ : ∃ place,
        (limiter.lookupOrCreate key at_.createdAt).buckets.index key = some place :=
      Table.index_ensure _ _ _
    have created : State.enter ⟨limiter, at_.globalAt, s.goroutines ++ [⟨key, .lookup⟩]⟩
        s.goroutines.length ⟨key, .lookup⟩ at_.createdAt =
          some (⟨limiter.lookupOrCreate key at_.createdAt, at_.createdAt,
            s.goroutines ++ [⟨key, .keyCheck place⟩]⟩, [.bound key place]) := by
      simp only [State.enter, bound, set_last]
    have found := exec_last limiter at_.globalAt s.goroutines ⟨key, .lookup⟩ at_.ordered.1 created
    cases last : (limiter.lookupOrCreate key at_.createdAt).checkKey place at_.keyAt with
      | mk final answer
    have ended : State.enter
        ⟨limiter.lookupOrCreate key at_.createdAt, at_.createdAt,
          s.goroutines ++ [⟨key, .keyCheck place⟩]⟩
        s.goroutines.length ⟨key, .keyCheck place⟩ at_.keyAt =
          some (⟨final, at_.keyAt, s.goroutines ++ [⟨key, .returned answer⟩]⟩,
            [.keyChecked key at_.keyAt answer]) := by
      simp only [State.enter, last, set_last]
    have checked := exec_last (limiter.lookupOrCreate key at_.createdAt) at_.createdAt
      s.goroutines ⟨key, .keyCheck place⟩ at_.ordered.2 ended
    simp only [bound, last]
    have executed := System.exec_append (System.exec_append begun found) checked
    cases answer with
    | false => exact ⟨_, _, _, executed, rfl, rfl⟩
    | true => exact ⟨_, _, _, executed, rfl, rfl⟩

/-! ### Keys and their buckets -/

/-- A bucket that is bound to a key is the one that the check of that key charges. -/
theorem checkKey_bound {k : KeyedRateLimiter} {key : String} {place : Nat}
    (bound : k.buckets.index key = some place) (clock : ℚ) :
    ∃ bucket, k.buckets.lookup key = some bucket ∧
      k.checkKey place clock =
        ({ k with buckets := k.buckets.set place (bucket.allow clock).1 },
          (bucket.allow clock).2) := by
  obtain ⟨bucket, held⟩ := Table.lookup_some bound
  have cell : k.buckets.cells[place]? = some bucket := by
    rw [Table.lookup, bound] at held
    exact held
  refine ⟨bucket, held, ?_⟩
  rw [KeyedRateLimiter.checkKey, cell]

/-- What is bound stays bound, as far as anybody has seen. -/
structure Bindings (seen : List Obs) (s : State) : Prop where
  /-- A goroutine holds the bucket of its key. -/
  held : ∀ g ∈ s.goroutines, ∀ place, g.pc = .keyCheck place →
    s.limiter.buckets.index g.key = some place
  /-- Every bucket that was given out is still the one of its key. -/
  shown : ∀ key place, .bound key place ∈ seen → s.limiter.buckets.index key = some place

/-- A section that binds no other bucket keeps the bindings. -/
theorem Bindings.keep {seen out : List Obs} {s after : State} {index : Nat} {g : Goroutine}
    (bindings : Bindings seen s)
    (stays : ∀ key place, s.limiter.buckets.index key = some place →
      after.limiter.buckets.index key = some place)
    (moves : after.goroutines = s.goroutines.set index g)
    (holds : ∀ place, g.pc = .keyCheck place → after.limiter.buckets.index g.key = some place)
    (gives : ∀ key place, .bound key place ∈ out → after.limiter.buckets.index key = some place) :
    Bindings (seen ++ out) after where
  held := by
    rw [moves]
    apply forall_mem_set
    · intro other member place standing
      exact stays _ _ (bindings.held other member place standing)
    · exact holds
  shown := by
    intro key place member
    rcases List.mem_append.mp member with old | new
    · exact stays _ _ (bindings.shown key place old)
    · exact gives key place new

/-- Every step keeps the bindings. -/
theorem step_bindings {seen out : List Obs} {s after : State} {action : Act}
    (bindings : Bindings seen s) (stepped : s.step action = some (after, out)) :
    Bindings (seen ++ out) after := by
  cases step_cases stepped with
  | call =>
    constructor
    · intro g member place standing
      rcases List.mem_append.mp member with old | new
      · exact bindings.held g old place standing
      · rw [List.mem_singleton.mp new] at standing
        contradiction
    · rw [List.append_nil]
      exact bindings.shown
  | globalCheck running later next =>
    refine bindings.keep (fun _ _ bound => bound) rfl ?_ ?_
    · intro place standing
      exact absurd standing (next place)
    · simp
  | @lookup index g clock running later place found =>
    refine bindings.keep (fun _ _ bound => Table.index_ensure_kept bound _) rfl ?_ ?_
    · intro other standing
      rw [← AllowPc.keyCheck.inj standing]
      exact found
    · intro key other given
      have same := List.mem_singleton.mp given
      rw [Obs.bound.injEq] at same
      rw [same.1, same.2]
      exact found
  | @keyCheck index g clock running later place holds =>
    have bound := bindings.held g (List.mem_of_getElem? running) place holds
    obtain ⟨bucket, _, checked⟩ := checkKey_bound bound clock
    rw [checked]
    refine bindings.keep (fun _ _ bound => bound) rfl ?_ ?_
    · intro other standing
      contradiction
    · simp

/-- So does every run. -/
theorem run_bindings {ratePerSec capacity globalRate globalCap created : ℚ} {seen : List Obs}
    {s : State} (run : system.AnyRun (.start ratePerSec capacity globalRate globalCap created)
      seen s) : Bindings seen s := by
  apply run.invariant Bindings
  · exact ⟨nofun, nofun⟩
  · intro seen s action after out bindings _ stepped
    exact step_bindings bindings stepped

/-! ### What passes in a window -/

/-- The time lies in the window. -/
def Within (start stop clock : ℚ) : Prop := start ≤ clock ∧ clock ≤ stop

instance (start stop clock : ℚ) : Decidable (Within start stop clock) :=
  inferInstanceAs (Decidable (_ ∧ _))

/-- When a call passed the global bucket. -/
def Obs.globalPass : Obs → List ℚ
  | .globalChecked clock true => [clock]
  | .globalChecked _ false | .bound _ _ | .keyChecked _ _ _ => []

/-- When a call of the key passed its bucket. -/
def Obs.keyPass (key : String) : Obs → List ℚ
  | .keyChecked other clock true => if other = key then [clock] else []
  | .keyChecked _ _ false | .globalChecked _ _ | .bound _ _ => []

/-- How many of some observations fall into a window. -/
def countWithin (start stop : ℚ) (read : Obs → List ℚ) (seen : List Obs) : Nat :=
  (seen.flatMap read).countP fun clock => Within start stop clock

/-- Later observations are counted on top. -/
theorem countWithin_append (start stop : ℚ) (read : Obs → List ℚ) (seen out : List Obs) :
    countWithin start stop read (seen ++ out) =
      countWithin start stop read seen + countWithin start stop read out := by
  unfold countWithin
  rw [List.flatMap_append, List.countP_append]

/-- An answer counts when it lets the call pass in the window. -/
theorem countWithin_answer (start stop clock : ℚ) {read : Obs → List ℚ} {passed : Bool} {obs : Obs}
    (reads : read obs = if passed then [clock] else []) :
    (countWithin start stop read [obs] : ℚ) =
      if passed = true ∧ start ≤ clock ∧ clock ≤ stop then 1 else 0 := by
  have same : countWithin start stop read [obs] =
      if passed = true ∧ Within start stop clock then 1 else 0 := by
    unfold countWithin
    rw [List.flatMap_singleton, reads]
    cases passed with
    | true => simp [List.countP_singleton]
    | false => simp
  rw [same]
  unfold Within
  push_cast
  rfl

/-- The accounts of the global bucket and of every key's bucket over a window. -/
structure Accounts (ratePerSec capacity globalRate globalCap start stop : ℚ) (seen : List Obs)
    (s : State) : Prop where
  /-- The limits of the keys' buckets. -/
  limits : s.limiter.ratePerSec = ratePerSec ∧ s.limiter.capacity = capacity
  /-- The global bucket. -/
  overall : Funded globalCap globalRate start stop s.now
    (countWithin start stop Obs.globalPass seen) s.limiter.globalLimit
  /-- A key whose bucket does not exist has let nothing pass. -/
  missing : ∀ key, s.limiter.buckets.lookup key = none →
    countWithin start stop (Obs.keyPass key) seen = 0
  /-- The bucket of a key. -/
  own : ∀ key bucket, s.limiter.buckets.lookup key = some bucket →
    Funded capacity ratePerSec start stop s.now
      (countWithin start stop (Obs.keyPass key) seen) bucket

/-- What shows no passing call is not counted. -/
theorem countWithin_quiet (start stop : ℚ) {read : Obs → List ℚ} (seen : List Obs) {out : List Obs}
    (quiet : ∀ obs ∈ out, read obs = []) :
    countWithin start stop read (seen ++ out) = countWithin start stop read seen := by
  rw [countWithin_append]
  unfold countWithin
  rw [List.flatMap_eq_nil_iff.mpr quiet, List.countP_nil, Nat.add_zero]

section Steps

variable {ratePerSec capacity globalRate globalCap start stop : ℚ} {seen : List Obs} {s : State}

/-- The global check charges the account of the global bucket. -/
theorem Accounts.globalCheck (nonneg : 0 ≤ globalRate)
    (accounts : Accounts ratePerSec capacity globalRate globalCap start stop seen s) {clock : ℚ}
    (later : s.now ≤ clock) (goroutines : List Goroutine) :
    Accounts ratePerSec capacity globalRate globalCap start stop
      (seen ++ [.globalChecked clock (s.limiter.checkGlobal clock).2])
      { limiter := (s.limiter.checkGlobal clock).1, now := clock, goroutines } := by
  have others (key : String) : countWithin start stop (Obs.keyPass key)
      (seen ++ [.globalChecked clock (s.limiter.checkGlobal clock).2]) =
        countWithin start stop (Obs.keyPass key) seen := by
    apply countWithin_quiet
    intro obs member
    rw [List.mem_singleton.mp member]
    rfl
  constructor
  · exact accounts.limits
  · have charged := accounts.overall.allow nonneg later
    have reads : Obs.globalPass (.globalChecked clock (s.limiter.checkGlobal clock).2) =
        if (s.limiter.checkGlobal clock).2 then [clock] else [] := by
      cases (s.limiter.checkGlobal clock).2 <;> rfl
    rw [countWithin_append, Nat.cast_add, countWithin_answer start stop clock reads]
    exact charged
  · intro key unbound
    rw [others key]
    exact accounts.missing key unbound
  · intro key bucket held
    rw [others key]
    exact (accounts.own key bucket held).later later

/-- A new bucket opens the account of its key. -/
theorem Accounts.lookup (nonneg : 0 ≤ ratePerSec) (positive : 0 ≤ capacity) (window : start ≤ stop)
    (accounts : Accounts ratePerSec capacity globalRate globalCap start stop seen s) {clock : ℚ}
    (later : s.now ≤ clock) (goroutines : List Goroutine) (key : String) (place : Nat) :
    Accounts ratePerSec capacity globalRate globalCap start stop (seen ++ [.bound key place])
      { limiter := s.limiter.lookupOrCreate key clock, now := clock, goroutines } := by
  have same (read : Obs → List ℚ) (quiet : read (.bound key place) = []) :
      countWithin start stop read (seen ++ [.bound key place]) =
        countWithin start stop read seen := by
    apply countWithin_quiet
    intro obs member
    rw [List.mem_singleton.mp member]
    exact quiet
  have created := Table.lookup_ensure_same s.limiter.buckets key
    (newTokenBucket s.limiter.ratePerSec s.limiter.capacity clock)
  constructor
  · exact accounts.limits
  · rw [same _ rfl]
    exact accounts.overall.later later
  · intro other unbound
    rw [same _ rfl]
    apply accounts.missing other
    by_cases own : other = key
    · subst own
      rw [KeyedRateLimiter.lookupOrCreate, created] at unbound
      contradiction
    · rw [KeyedRateLimiter.lookupOrCreate, Table.lookup_ensure_other _ own] at unbound
      exact unbound
  · intro other bucket held
    rw [same _ rfl]
    by_cases own : other = key
    · subst own
      rw [KeyedRateLimiter.lookupOrCreate, created] at held
      cases before : s.limiter.buckets.lookup other with
      | none =>
        rw [before, Option.getD_none] at held
        rw [← Option.some.inj held, accounts.missing other before, accounts.limits.1,
          accounts.limits.2, Nat.cast_zero]
        exact Funded.fresh nonneg positive window clock
      | some old =>
        rw [before, Option.getD_some] at held
        rw [← Option.some.inj held]
        exact (accounts.own other old before).later later
    · rw [KeyedRateLimiter.lookupOrCreate, Table.lookup_ensure_other _ own] at held
      exact (accounts.own other bucket held).later later

/-- The check of a key charges the account of that key. -/
theorem Accounts.keyCheck (nonneg : 0 ≤ ratePerSec)
    (accounts : Accounts ratePerSec capacity globalRate globalCap start stop seen s) {clock : ℚ}
    (later : s.now ≤ clock) (goroutines : List Goroutine) {key : String} {place : Nat}
    (bound : s.limiter.buckets.index key = some place) :
    Accounts ratePerSec capacity globalRate globalCap start stop
      (seen ++ [.keyChecked key clock (s.limiter.checkKey place clock).2])
      { limiter := (s.limiter.checkKey place clock).1, now := clock, goroutines } := by
  obtain ⟨bucket, held, checked⟩ := checkKey_bound bound clock
  rw [checked]
  have others (other : String) (different : other ≠ key) :
      countWithin start stop (Obs.keyPass other)
          (seen ++ [.keyChecked key clock (bucket.allow clock).2]) =
        countWithin start stop (Obs.keyPass other) seen := by
    apply countWithin_quiet
    intro obs member
    rw [List.mem_singleton.mp member]
    cases (bucket.allow clock).2 with
    | true => exact if_neg (Ne.symm different)
    | false => rfl
  constructor
  · exact accounts.limits
  · have same : countWithin start stop Obs.globalPass
        (seen ++ [.keyChecked key clock (bucket.allow clock).2]) =
          countWithin start stop Obs.globalPass seen := by
      apply countWithin_quiet
      intro obs member
      rw [List.mem_singleton.mp member]
      cases (bucket.allow clock).2 <;> rfl
    rw [same]
    exact accounts.overall.later later
  · intro other unbound
    by_cases own : other = key
    · subst own
      rw [Table.lookup_set_same bound] at unbound
      contradiction
    · rw [others other own]
      rw [Table.lookup_set_other bound own] at unbound
      exact accounts.missing other unbound
  · intro other found here
    by_cases own : other = key
    · subst own
      rw [Table.lookup_set_same bound] at here
      rw [← Option.some.inj here]
      have charged := (accounts.own other bucket held).allow nonneg later
      have reads : Obs.keyPass other (.keyChecked other clock (bucket.allow clock).2) =
          if (bucket.allow clock).2 then [clock] else [] := by
        cases (bucket.allow clock).2 with
        | true => exact if_pos rfl
        | false => rfl
      rw [countWithin_append, Nat.cast_add, countWithin_answer start stop clock reads]
      exact charged
    · rw [others other own]
      rw [Table.lookup_set_other bound own] at here
      exact (accounts.own other found here).later later

/-- Every step keeps the accounts. -/
theorem step_accounts (rates : 0 ≤ ratePerSec ∧ 0 ≤ globalRate) (positive : 0 ≤ capacity)
    (window : start ≤ stop) {after : State} {action : Act} {out : List Obs}
    (bindings : Bindings seen s)
    (accounts : Accounts ratePerSec capacity globalRate globalCap start stop seen s)
    (stepped : s.step action = some (after, out)) :
    Accounts ratePerSec capacity globalRate globalCap start stop (seen ++ out) after := by
  cases step_cases stepped with
  | call =>
    rw [List.append_nil]
    exact ⟨accounts.limits, accounts.overall, accounts.missing, accounts.own⟩
  | globalCheck running later next => exact accounts.globalCheck rates.2 later _
  | lookup running later found => exact accounts.lookup rates.1 positive window later _ _ _
  | keyCheck running later holds =>
    have bound := bindings.held _ (List.mem_of_getElem? running) _ holds
    exact accounts.keyCheck rates.1 later _ bound

end Steps

/-- Every run keeps the accounts over every window. -/
theorem run_accounts {ratePerSec capacity globalRate globalCap created start stop : ℚ}
    (rates : 0 ≤ ratePerSec ∧ 0 ≤ globalRate) (capacities : 0 ≤ capacity ∧ 0 ≤ globalCap)
    (window : start ≤ stop) {seen : List Obs} {s : State}
    (run : system.AnyRun (.start ratePerSec capacity globalRate globalCap created) seen s) :
    Accounts ratePerSec capacity globalRate globalCap start stop seen s := by
  have both : Bindings seen s ∧
      Accounts ratePerSec capacity globalRate globalCap start stop seen s := by
    apply run.invariant fun seen s =>
      Bindings seen s ∧ Accounts ratePerSec capacity globalRate globalCap start stop seen s
    · constructor
      · exact ⟨nofun, nofun⟩
      · constructor
        · exact ⟨rfl, rfl⟩
        · exact Funded.fresh rates.2 capacities.2 window created
        · exact fun _ _ => rfl
        · exact nofun
    · intro seen s action after out kept _ stepped
      exact ⟨step_bindings kept.1 stepped,
        step_accounts rates capacities.1 window kept.1 kept.2 stepped⟩
  exact both.2

end Concurrent

open Concurrent

/-- However the critical sections of concurrent calls interleave, no key gets two buckets, and
in every window at most the capacity and what the rate adds passes the bucket of a key, and the
global bucket likewise. -/
theorem concurrent_envelopes {ratePerSec capacity globalRate globalCap created : ℚ}
    (rates : 0 ≤ ratePerSec ∧ 0 ≤ globalRate) (capacities : 0 ≤ capacity ∧ 0 ≤ globalCap)
    {seen : List Obs} {s : State}
    (run : Concurrent.system.AnyRun (.start ratePerSec capacity globalRate globalCap created)
      seen s) :
    (∀ key first second, .bound key first ∈ seen → .bound key second ∈ seen → first = second) ∧
      ∀ start stop, start ≤ stop →
        (∀ key, (countWithin start stop (Obs.keyPass key) seen : ℚ) ≤
          capacity + ratePerSec * (stop - start)) ∧
        (countWithin start stop Obs.globalPass seen : ℚ) ≤
          globalCap + globalRate * (stop - start) := by
  constructor
  · intro key first second one two
    have bindings := run_bindings run
    have same := (bindings.shown key first one).symm.trans (bindings.shown key second two)
    exact Option.some.inj same
  · intro start stop window
    have accounts := run_accounts rates capacities window run
    constructor
    · intro key
      cases held : s.limiter.buckets.lookup key with
      | none =>
        have gained := mul_nonneg rates.1 (sub_nonneg.mpr window)
        rw [accounts.missing key held, Nat.cast_zero]
        linarith only [gained, capacities.1]
      | some bucket => exact (accounts.own key bucket held).2.2.2.bounded
    · exact accounts.overall.2.2.2.bounded

/-- Two first calls of one key, and one of another key between their sections: both calls find
the bucket that the first created, and one of them passes it. -/
theorem concurrent_envelopes_race :
    ∃ seen s, Concurrent.system.AnyRun (.start 1 1 1 3 0) seen s ∧
      countWithin 0 0 (Obs.keyPass "a") seen = 1 ∧
      countWithin 0 0 Obs.globalPass seen = 3 ∧
      ∀ first second, .bound "a" first ∈ seen → .bound "a" second ∈ seen → first = second := by
  obtain ⟨seen, s, run, passed⟩ := System.exec_witness Concurrent.system System.unguarded
    (.start 1 1 1 3 0)
    [.call "a", .call "a", .call "b", .enter 0 0, .enter 1 0, .enter 1 0, .enter 2 0, .enter 2 0,
      .enter 0 0, .enter 0 0, .enter 2 0, .enter 1 0]
    (fun (_, seen) => countWithin 0 0 (Obs.keyPass "a") seen = 1 &&
      countWithin 0 0 Obs.globalPass seen = 3) (by decide +kernel)
  simp only [Bool.and_eq_true, decide_eq_true_eq] at passed
  have envelopes := concurrent_envelopes (by decide +kernel) (by decide +kernel) run
  exact ⟨seen, s, run, passed.1, passed.2, envelopes.1 "a"⟩

end IngestionEngine.RateLimit
