import IngestionEngine.RateLimit.Exactness
import IngestionEngine.Router.Admission
import IngestionEngine.Systems.Reordering

/-!
# Who is refused

A request is answered with 429 only when a bucket has refused it, and a bucket refuses a call only
when more calls have come to it over some time than its capacity and its rate allow. So a client
whose requests keep to the limits of its bucket is never refused, as long as all requests together
keep to those of the global bucket. A bucket is made for every address that a request names and
never removed, but no faster than the global bucket lets calls pass.
-/

namespace IngestionEngine.RateLimit.Concurrent

open Systems Bucket

/-- When the global bucket was asked. -/
def Obs.globalAsk : Obs → List ℚ
  | .globalChecked clock _ => [clock]
  | .bound _ _ | .keyChecked _ _ _ => []

/-- When the bucket of a key was asked. -/
def Obs.keyAsk (key : String) : Obs → List ℚ
  | .keyChecked other clock _ => if other = key then [clock] else []
  | .globalChecked _ _ | .bound _ _ => []

/-- When a bucket was asked. -/
def Obs.asked : Obs → List ℚ
  | .globalChecked clock _ | .keyChecked _ clock _ => [clock]
  | .bound _ _ => []

/-- When the global bucket was asked, a bucket was asked. -/
theorem globalAsk_asked (obs : Obs) : obs.globalAsk.Sublist obs.asked := by
  cases obs with
  | globalChecked | bound => exact List.Sublist.refl _
  | keyChecked => exact List.nil_sublist _

/-- When the bucket of a key was asked, a bucket was asked. -/
theorem keyAsk_asked (key : String) (obs : Obs) : (obs.keyAsk key).Sublist obs.asked := by
  cases obs with
  | globalChecked => exact List.nil_sublist _
  | bound => exact List.Sublist.refl _
  | keyChecked other clock passed =>
    simp only [Obs.keyAsk, Obs.asked]
    split
    · exact List.Sublist.refl _
    · exact List.nil_sublist _

/-- A call that the global bucket lets pass has asked it. -/
theorem globalPass_ask (obs : Obs) : obs.globalPass.Sublist obs.globalAsk := by
  cases obs with
  | bound | keyChecked => exact List.Sublist.refl _
  | globalChecked clock passed =>
    cases passed with
    | true => exact List.Sublist.refl _
    | false => exact List.nil_sublist _

/-- A call that the bucket of a key lets pass has asked it. -/
theorem keyPass_ask (key : String) (obs : Obs) : (obs.keyPass key).Sublist (obs.keyAsk key) := by
  cases obs with
  | globalChecked | bound => exact List.nil_sublist _
  | keyChecked other clock passed =>
    cases passed with
    | true => exact List.Sublist.refl _
    | false => exact List.nil_sublist _

/-- In no window more calls come than the capacity and what the rate adds. -/
def Conforms (capacity rate : ℚ) (asks : List ℚ) : Prop :=
  ∀ start stop, start ≤ stop →
    (asks.countP (fun clock => Within start stop clock) : ℚ) ≤ capacity + rate * (stop - start)

/-- Where no more calls come, each of them fits. -/
theorem Conforms.fits {capacity rate clock : ℚ} {asks more passes : List ℚ}
    (conforms : Conforms capacity rate (asks ++ clock :: more)) (part : passes.Sublist asks)
    (ordered : ∀ earlier ∈ asks, earlier ≤ clock) : Fits capacity rate passes clock := by
  intro start before
  have window := conforms start clock before
  have fewer : since start passes ≤ since start asks := part.countP_le
  have same : asks.countP (fun earlier => Within start clock earlier) = since start asks := by
    apply List.countP_congr
    intro earlier member
    have early := ordered earlier member
    rw [decide_eq_true_eq, decide_eq_true_eq]
    exact ⟨fun within => within.1, fun after => ⟨after, early⟩⟩
  have here : Within start clock clock := ⟨before, le_rfl⟩
  rw [List.countP_append, List.countP_cons, same, if_pos (decide_eq_true here)] at window
  have counted : ((since start passes + 1 : Nat) : ℚ) ≤ capacity + rate * (clock - start) := by
    refine le_trans (Nat.cast_le.mpr ?_) window
    omega
  push_cast at counted
  exact counted

variable {ratePerSec capacity globalRate globalCap created : ℚ} {seen out : List Obs}
  {s after : State} {action : Act}

/-- A bucket is asked at a time that is not before the last reading of the clock. -/
theorem step_asked (stepped : s.step action = some (after, out)) :
    s.now ≤ after.now ∧ ∀ clock ∈ out.flatMap Obs.asked, clock = after.now := by
  cases step_cases stepped with
  | call => simp
  | globalCheck running later | lookup running later | keyCheck running later =>
    exact ⟨later, by simp [Obs.asked]⟩

/-- When the buckets were asked since the start. -/
structure Asked (created : ℚ) (seen : List Obs) (s : State) : Prop where
  /-- The clock does not go back. -/
  later : created ≤ s.now
  /-- No bucket was asked before another that was asked at an earlier time. -/
  ordered : (seen.flatMap Obs.asked).Pairwise (· ≤ ·)
  /-- Each was asked since the start. -/
  within : ∀ clock ∈ seen.flatMap Obs.asked, Within created s.now clock

/-- In every run the buckets are asked at times that do not go back. -/
theorem run_asked
    (run : system.AnyRun (.start ratePerSec capacity globalRate globalCap created) seen s) :
    Asked created seen s := by
  apply run.invariant (Asked created)
  · exact ⟨le_refl _, List.Pairwise.nil, List.forall_mem_nil _⟩
  · intro seen s action after out asked _ stepped
    obtain ⟨opened, ordered, within⟩ := asked
    obtain ⟨later, shown⟩ := step_asked stepped
    refine ⟨opened.trans later, ?_, ?_⟩
    · rw [List.flatMap_append]
      refine List.pairwise_append.mpr ⟨ordered, ?_, ?_⟩
      · apply List.pairwise_of_forall_mem_list
        intro first member second other
        rw [shown first member, shown second other]
      · intro first member second other
        rw [shown second other]
        exact (within first member).2.trans later
    · rw [List.flatMap_append]
      intro clock member
      rcases List.mem_append.mp member with old | new
      · exact ⟨(within clock old).1, (within clock old).2.trans later⟩
      · rw [shown clock new]
        exact ⟨opened.trans later, le_refl _⟩

/-- Nothing was asked later than what follows. -/
theorem asked_before
    (run : system.AnyRun (.start ratePerSec capacity globalRate globalCap created) seen s)
    {before rest : List Obs} {obs : Obs} (split : seen = before ++ obs :: rest) {clock : ℚ}
    (here : clock ∈ obs.asked) : ∀ earlier ∈ before.flatMap Obs.asked, earlier ≤ clock := by
  have ordered := (run_asked run).ordered
  rw [split, List.flatMap_append, List.flatMap_cons] at ordered
  intro earlier member
  exact (List.pairwise_append.mp ordered).2.2 earlier member clock (List.mem_append_left _ here)

/-- Where no more calls come than the limits allow, to all buckets together and to that of a key, no
call of the key is refused. -/
theorem conforming_passes (rates : 0 ≤ ratePerSec ∧ 0 ≤ globalRate) {key : String}
    (run : system.AnyRun (.start ratePerSec capacity globalRate globalCap created) seen s)
    (overall : Conforms globalCap globalRate (seen.flatMap Obs.globalAsk))
    (own : Conforms capacity ratePerSec (seen.flatMap (Obs.keyAsk key))) :
    ∀ obs ∈ seen, obs.refuses key = false := by
  intro obs member
  obtain ⟨before, rest, split⟩ := List.append_of_mem member
  have explained := run_explained rates run split
  have ordered (clock : ℚ) (here : clock ∈ obs.asked) := asked_before run split here
  rw [split, List.flatMap_append, List.flatMap_cons] at overall own
  cases obs with
  | bound => rfl
  | globalChecked clock passed =>
    have passes : passed = true := by
      apply explained.mpr
      apply overall.fits (List.Sublist.flatMap_right before fun obs _ => globalPass_ask obs)
      intro earlier inside
      apply ordered clock (List.mem_singleton_self clock) earlier
      exact (List.Sublist.flatMap_right before fun obs _ => globalAsk_asked obs).subset inside
    rw [Obs.refuses, passes]
    rfl
  | keyChecked other clock passed =>
    by_cases same : other = key
    · have asks : Obs.keyAsk key (.keyChecked other clock passed) = [clock] := if_pos same
      have passes : passed = true := by
        rw [asks] at own
        rw [Obs.Explained, same] at explained
        apply explained.mpr
        apply own.fits (List.Sublist.flatMap_right before fun obs _ => keyPass_ask key obs)
        intro earlier inside
        apply ordered clock (List.mem_singleton_self clock) earlier
        exact (List.Sublist.flatMap_right before fun obs _ => keyAsk_asked key obs).subset inside
      rw [Obs.refuses, passes, Bool.not_true, Bool.and_false]
    · rw [Obs.refuses, decide_eq_false same, Bool.false_and]

/-- A call that has returned false was refused by a bucket. -/
theorem run_refused
    (run : system.AnyRun (.start ratePerSec capacity globalRate globalCap created) seen s) :
    ∀ g ∈ s.goroutines, g.pc = .returned false → ∃ obs ∈ seen, obs.refuses g.key = true := by
  apply run.invariant fun seen s =>
    ∀ g ∈ s.goroutines, g.pc = .returned false → ∃ obs ∈ seen, obs.refuses g.key = true
  · exact List.forall_mem_nil _
  · intro seen s action after out held _ stepped
    have kept : ∀ g ∈ s.goroutines, g.pc = .returned false →
        ∃ obs ∈ seen ++ out, obs.refuses g.key = true := by
      intro g member returned
      obtain ⟨obs, old, refuses⟩ := held g member returned
      exact ⟨obs, List.mem_append_left out old, refuses⟩
    cases action with
    | call key =>
      obtain ⟨rfl, rfl⟩ := Prod.mk.inj (Option.some.inj stepped)
      intro g member returned
      rcases List.mem_append.mp member with old | new
      · exact kept g old returned
      · rw [List.mem_singleton.mp new] at returned
        contradiction
    | enter index clock =>
      obtain ⟨g, pc, running, _, _, goroutines, part⟩ := enter_section stepped
      rw [goroutines]
      apply forall_mem_set kept
      intro returned
      cases part with
      | admitted | lookup => contradiction
      | refused => exact ⟨_, List.mem_append_right seen (List.mem_singleton_self _), rfl⟩
      | @keyCheck place allowed =>
        obtain rfl : allowed = false := AllowPc.returned.inj returned
        refine ⟨_, List.mem_append_right seen (List.mem_singleton_self _), ?_⟩
        rw [Obs.refuses, decide_eq_true rfl]
        rfl

/-! ### The map of buckets -/

/-- A call got a bucket from the map. -/
def Obs.binds : Obs → Bool
  | .bound _ _ => true
  | .globalChecked _ _ | .keyChecked _ _ _ => false

/-- The call waits for its bucket. -/
def Goroutine.looks (g : Goroutine) : Nat := if g.pc = .lookup then 1 else 0

/-- There are no more buckets than calls that got one, and each of these has passed the global
bucket. -/
structure Bound (seen : List Obs) (s : State) : Prop where
  /-- A bucket is made for a call that gets one. -/
  made : s.limiter.buckets.cells.length ≤ seen.countP Obs.binds
  /-- A call that has passed the global bucket gets a bucket, or waits for one. -/
  passed : seen.countP Obs.binds + total Goroutine.looks s.goroutines =
    (seen.flatMap Obs.globalPass).length

/-- A step makes a bucket only for a call that gets one. -/
theorem step_made (stepped : s.step action = some (after, out)) :
    after.limiter.buckets.cells.length ≤ s.limiter.buckets.cells.length + out.countP Obs.binds := by
  cases step_cases stepped with
  | call | globalCheck => exact Nat.le_add_right _ _
  | @lookup index g clock running later place found =>
    unfold KeyedRateLimiter.lookupOrCreate Table.ensure
    cases s.limiter.buckets.index g.key with
    | some place => exact Nat.le_add_right _ _
    | none => exact (List.length_append).le
  | @keyCheck index g clock running later place holds =>
    unfold KeyedRateLimiter.checkKey
    split
    · exact (List.length_set).le.trans (Nat.le_add_right _ _)
    · exact Nat.le_add_right _ _

/-- In every run there are no more buckets than calls that passed the global bucket. -/
theorem run_bound
    (run : system.AnyRun (.start ratePerSec capacity globalRate globalCap created) seen s) :
    Bound seen s := by
  apply run.invariant Bound
  · exact ⟨Nat.le_refl _, rfl⟩
  · intro seen s action after out bound _ stepped
    obtain ⟨made, passed⟩ := bound
    have more := step_made stepped
    constructor
    · rw [List.countP_append]
      omega
    · rw [List.countP_append, List.flatMap_append, List.length_append, ← passed]
      cases action with
      | call key =>
        obtain ⟨rfl, rfl⟩ := Prod.mk.inj (Option.some.inj stepped)
        rw [total_append]
        rfl
      | enter index clock =>
        obtain ⟨g, pc, running, _, _, goroutines, part⟩ := enter_section stepped
        have traded := total_set Goroutine.looks running { g with pc }
        rw [goroutines]
        cases part with
        | admitted here | refused here | lookup here =>
          simp [Goroutine.looks, here, Obs.binds, Obs.globalPass] at traded ⊢
          omega
        | @keyCheck place allowed here =>
          simp [Goroutine.looks, here, Obs.binds, Obs.globalPass] at traded ⊢
          omega

/-- In every run there are no more buckets than the global bucket allows calls. -/
theorem run_buckets_le (rates : 0 ≤ ratePerSec ∧ 0 ≤ globalRate)
    (capacities : 0 ≤ capacity ∧ 0 ≤ globalCap)
    (run : system.AnyRun (.start ratePerSec capacity globalRate globalCap created) seen s) :
    (s.limiter.buckets.cells.length : ℚ) ≤ globalCap + globalRate * (s.now - created) := by
  have asked := run_asked run
  have bound := run_bound run
  have accounts := run_accounts rates capacities asked.later run
  have all : (seen.flatMap Obs.globalPass).length =
      countWithin created s.now Obs.globalPass seen := by
    symm
    apply List.countP_eq_length.mpr
    intro clock member
    apply decide_eq_true
    apply asked.within clock
    have part : ∀ obs ∈ seen, (obs.globalPass).Sublist obs.asked :=
      fun obs _ => (globalPass_ask obs).trans (globalAsk_asked obs)
    exact (List.Sublist.flatMap_right seen part).subset member
  have fewer : s.limiter.buckets.cells.length ≤
      countWithin created s.now Obs.globalPass seen := by
    have made := bound.made
    have passed := bound.passed
    omega
  exact (Nat.cast_le.mpr fewer).trans accounts.overall.2.2.2.bounded

end IngestionEngine.RateLimit.Concurrent

namespace IngestionEngine.Router

open Systems Event Worker RateLimit

namespace Server

variable {describe : DecodeError → String} {s after : Server} {index : Nat} {h : Handler}
  {next : Move} {workerCount queueCap batchThreshold : Nat}
  {ratePerSec capacity globalRate globalCap now : ℚ} {seen : List Obs}

/-- A handler answers 429 only when its call of `Allow` has returned false. -/
theorem moves_limited (moves : Moves describe s index h next)
    (limited : next.pc = .responded .limited) :
    ∃ call g, h.pc = .allowing call ∧ s.limiter.goroutines[call]? = some g ∧
      g.pc = .returned false := by
  cases moves with
  | limited here calling refused => exact ⟨_, _, here, calling, refused⟩
  | @answered posted => cases posted <;> simp [answers, Posted.answer] at limited
  | rejected | healthz | metrics => simp [answers] at limited
  | asks | admitted | posted | enqueues | loads | measured | locks | unlocks | flushed | batches =>
    contradiction

/-- Where a handler has answered 429, a bucket has refused a call, and it may be one of its
client. -/
theorem run_limited (run : (system describe).AnyRun
      (.start workerCount queueCap batchThreshold ratePerSec capacity globalRate globalCap now)
      seen s) :
    ∀ h ∈ s.handlers, h.pc = .responded .limited →
      ∃ obs ∈ seen.flatMap Obs.ofLimiter, obs.refuses h.request.client.clientIP = true := by
  induction run with
  | start => exact List.forall_mem_nil _
  | @next seen out s after action before _ stepped ih =>
    have kept : ∀ h ∈ s.handlers, h.pc = .responded .limited →
        ∃ obs ∈ (seen ++ out).flatMap Obs.ofLimiter,
          obs.refuses h.request.client.clientIP = true := by
      intro h member limited
      obtain ⟨obs, old, refuses⟩ := ih h member limited
      rw [List.flatMap_append]
      exact ⟨obs, List.mem_append_left _ old, refuses⟩
    cases step_cases stepped with
    | post | get =>
      intro h member limited
      rcases List.mem_append.mp member with old | new
      · exact kept h old limited
      · rw [List.mem_singleton.mp new] at limited
        contradiction
    | engine => exact kept
    | @handle index _ _ _ h next running moves =>
      apply forall_mem_set kept
      intro limited
      obtain ⟨call, g, here, calling, returned⟩ := moves_limited moves limited
      have refused := Concurrent.run_refused (run_limiter before) g (List.mem_of_getElem? calling)
        returned
      have key := (run_admissions (fun _ => true) before).keyed h (List.mem_of_getElem? running)
        call g here calling
      obtain ⟨obs, old, refuses⟩ := refused
      rw [List.flatMap_append]
      exact ⟨obs, List.mem_append_left _ old, key ▸ refuses⟩

end Server

/-- Over exact arithmetic, a client is never answered with 429 as long as its requests keep to the
capacity and the rate of its bucket in every window, and all requests together to those of the
global bucket, however the requests of all clients interleave. -/
theorem conforming_served {describe : DecodeError → String}
    {workerCount queueCap batchThreshold : Nat}
    {ratePerSec capacity globalRate globalCap now : ℚ} (rates : 0 ≤ ratePerSec ∧ 0 ≤ globalRate)
    {seen : List Server.Obs} {s : Server}
    (run : (Server.system describe).AnyRun
      (.start workerCount queueCap batchThreshold ratePerSec capacity globalRate globalCap now)
      seen s)
    {key : String}
    (overall : Concurrent.Conforms globalCap globalRate
      ((seen.flatMap Server.Obs.ofLimiter).flatMap Concurrent.Obs.globalAsk))
    (own : Concurrent.Conforms capacity ratePerSec
      ((seen.flatMap Server.Obs.ofLimiter).flatMap (Concurrent.Obs.keyAsk key))) :
    ∀ h ∈ s.handlers, h.request.client.clientIP = key → h.pc ≠ .responded .limited := by
  intro h member client limited
  obtain ⟨obs, inside, refuses⟩ := Server.run_limited run h member limited
  rw [client, Concurrent.conforming_passes rates (Server.run_limiter run) overall own obs inside]
    at refuses
  contradiction

/-- Few calls conform. -/
theorem conforms_few {capacity rate : ℚ} {asks : List ℚ} (nonneg : 0 ≤ rate)
    (few : (asks.length : ℚ) ≤ capacity) : Concurrent.Conforms capacity rate asks := by
  intro start stop window
  have fewer : (asks.countP (fun clock => Concurrent.Within start stop clock) : ℚ) ≤ asks.length :=
    Nat.cast_le.mpr List.countP_le_length
  have gained := mul_nonneg nonneg (sub_nonneg.mpr window)
  linarith only [few, fewer, gained]

/-- Of two clients the one whose bucket holds two tokens sends two requests, and both are served. -/
theorem conforming_served_two :
    ∃ seen s, (Server.system fun _ => "").AnyRun (.start 1 1 1 0 2 0 3 0) seen s ∧
      s.handlers.length = 3 ∧ s.handlers.all (·.pc.done) = true ∧
      ∀ h ∈ s.handlers, h.request.client.clientIP = "a" → h.pc ≠ .responded .limited := by
  obtain ⟨seen, s, run, passed⟩ := System.exec_witness (Server.system fun _ => "")
    System.unguarded (.start 1 1 1 0 2 0 3 0)
    ([emptyEvent "a", emptyEvent "a", emptyEvent "b"] ++
      List.replicate 5 (.handle 0 0 newYear none) ++ List.replicate 5 (.handle 1 0 newYear none) ++
      List.replicate 5 (.handle 2 0 newYear none))
    (fun (s, seen) => s.handlers.length = 3 && s.handlers.all (·.pc.done) &&
      ((seen.flatMap Server.Obs.ofLimiter).flatMap Concurrent.Obs.globalAsk).length = 3 &&
      ((seen.flatMap Server.Obs.ofLimiter).flatMap (Concurrent.Obs.keyAsk "a")).length = 2)
    (by decide +kernel)
  simp only [Bool.and_eq_true, decide_eq_true_eq] at passed
  obtain ⟨⟨⟨arrived, done⟩, overall⟩, own⟩ := passed
  have served := conforming_served (by decide +kernel) run
    (conforms_few le_rfl (by rw [overall]; norm_num)) (conforms_few le_rfl (by rw [own]; norm_num))
  exact ⟨seen, s, run, arrived, done, served⟩

/-- Every client that has got a bucket keeps it, so the map of buckets only grows; but over
exact arithmetic there are never more buckets than the capacity of the global bucket and what its
rate has added since the start, however many addresses the requests name. -/
theorem limiter_memory_bounded {describe : DecodeError → String}
    {workerCount queueCap batchThreshold : Nat}
    {ratePerSec capacity globalRate globalCap now : ℚ} (rates : 0 ≤ ratePerSec ∧ 0 ≤ globalRate)
    (capacities : 0 ≤ capacity ∧ 0 ≤ globalCap) {seen : List Server.Obs} {s : Server}
    (run : (Server.system describe).AnyRun
      (.start workerCount queueCap batchThreshold ratePerSec capacity globalRate globalCap now)
      seen s) :
    (∀ key place, .limiter (.bound key place) ∈ seen →
      s.limiter.limiter.buckets.index key = some place) ∧
      (s.limiter.limiter.buckets.cells.length : ℚ) ≤
        globalCap + globalRate * (s.limiter.now - now) := by
  have limiter := Server.run_limiter run
  refine ⟨?_, Concurrent.run_buckets_le rates capacities limiter⟩
  intro key place member
  apply (Concurrent.run_bindings limiter).shown key place
  exact List.mem_flatMap.mpr ⟨_, member, List.mem_singleton_self _⟩

/-- Three clients come where the global bucket holds two tokens, and two of them get a bucket. -/
theorem limiter_memory_bounded_two :
    ∃ seen s, (Server.system fun _ => "").AnyRun (.start 1 1 1 0 1 0 2 0) seen s ∧
      s.handlers.length = 3 ∧ s.limiter.limiter.buckets.cells.length = 2 ∧
      (s.limiter.limiter.buckets.cells.length : ℚ) ≤ 2 + 0 * (s.limiter.now - 0) := by
  obtain ⟨seen, s, run, passed⟩ := System.exec_witness (Server.system fun _ => "")
    System.unguarded (.start 1 1 1 0 1 0 2 0)
    ([emptyEvent "a", emptyEvent "b", emptyEvent "c"] ++
      List.replicate 2 (.handle 0 0 newYear none) ++ List.replicate 2 (.handle 1 0 newYear none) ++
      List.replicate 2 (.handle 2 0 newYear none))
    (fun (s, _) => s.handlers.length = 3 && s.limiter.limiter.buckets.cells.length = 2)
    (by decide +kernel)
  simp only [Bool.and_eq_true, decide_eq_true_eq] at passed
  have bounded := limiter_memory_bounded (by decide +kernel) (by decide +kernel) run
  exact ⟨seen, s, run, passed.1, passed.2, bounded.2⟩

end IngestionEngine.Router
