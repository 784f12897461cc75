import IngestionEngine.Server.Frame
import IngestionEngine.Systems.Rank

/-!
# The percentiles of the latencies

`getPercentiles` sorts a copy of the latencies and selects the sample at a share of their number,
rounded down. That is the sample of this rank, and rounding to three decimals keeps the order of
the three.
-/

namespace IngestionEngine.Server

open Systems Program

/-! ### Rounding -/

/-- Rounding a half up keeps the order. -/
theorem scaled_mono (digits : Nat) {small large : ℚ} (ordered : small ≤ large) :
    (⌊small * 10 ^ digits + 1 / 2⌋ : ℚ) / 10 ^ digits ≤
      (⌊large * 10 ^ digits + 1 / 2⌋ : ℚ) / 10 ^ digits := by
  have scale : (0 : ℚ) < 10 ^ digits := by positivity
  have floors : ⌊small * 10 ^ digits + 1 / 2⌋ ≤ ⌊large * 10 ^ digits + 1 / 2⌋ := by
    apply Int.floor_mono
    gcongr
  have cast : (⌊small * 10 ^ digits + 1 / 2⌋ : ℚ) ≤ ⌊large * 10 ^ digits + 1 / 2⌋ := by
    exact_mod_cast floors
  exact div_le_div_of_nonneg_right cast scale.le

/-- What is not negative is not negative when it is rounded. -/
theorem scaled_nonneg (digits : Nat) {value : ℚ} (nonneg : 0 ≤ value) :
    (0 : ℚ) ≤ (⌊value * 10 ^ digits + 1 / 2⌋ : ℚ) / 10 ^ digits := by
  have zero : ⌊(0 : ℚ) * 10 ^ digits + 1 / 2⌋ = 0 := by
    rw [zero_mul, zero_add]
    norm_num
  calc (0 : ℚ) = (⌊(0 : ℚ) * 10 ^ digits + 1 / 2⌋ : ℚ) / 10 ^ digits := by
        rw [zero, Int.cast_zero, zero_div]
    _ ≤ (⌊value * 10 ^ digits + 1 / 2⌋ : ℚ) / 10 ^ digits := scaled_mono digits nonneg

/-- Rounding to some decimals keeps the order. -/
theorem roundTo_mono (digits : Nat) {small large : ℚ} (ordered : small ≤ large) :
    JsNum.roundTo digits small ≤ JsNum.roundTo digits large := by
  unfold JsNum.roundTo
  by_cases negative : small < 0
  · rw [if_pos negative]
    by_cases both : large < 0
    · rw [if_pos both]
      exact neg_le_neg (scaled_mono digits (neg_le_neg ordered))
    · rw [if_neg both]
      have left := scaled_nonneg digits (neg_nonneg.mpr negative.le)
      have right := scaled_nonneg digits (not_lt.mp both)
      linarith
  · have both : ¬ large < 0 := by linarith
    rw [if_neg negative, if_neg both]
    exact scaled_mono digits ordered

/-! ### The samples -/

/-- The shares of the latencies that `getPercentiles` reports. -/
def shares : List ℚ := [1 / 2, 95 / 100, 99 / 100]

/-- The sample that `getPercentiles` selects for a share of the latencies. -/
def selectedSample (latencies : List ℚ) (q : ℚ) : ℚ :=
  latencies.mergeSort.getD ⌊(latencies.length : ℚ) * q⌋.toNat 0

/-- The percentiles are the selected samples, to three decimals. -/
theorem getPercentiles_selects {latencies : List ℚ} (filled : latencies ≠ []) :
    getPercentiles latencies =
      { p50 := JsNum.roundTo 3 (selectedSample latencies (1 / 2))
        p95 := JsNum.roundTo 3 (selectedSample latencies (95 / 100))
        p99 := JsNum.roundTo 3 (selectedSample latencies (99 / 100)) } := by
  have some : latencies.length ≠ 0 := by
    intro none
    exact filled (List.length_eq_zero_iff.mp none)
  rw [getPercentiles, if_neg some]
  rfl

/-- A share of the latencies that is less than all of them has a rank below their number. -/
theorem rank_inside {latencies : List ℚ} (filled : latencies ≠ []) {q : ℚ} (part : q < 1) :
    ⌊(latencies.length : ℚ) * q⌋.toNat < latencies.length := by
  have some : 0 < latencies.length := List.length_pos_iff.mpr filled
  have cast : (0 : ℚ) < latencies.length := by exact_mod_cast some
  have below : (latencies.length : ℚ) * q < (latencies.length : ℤ) := by
    calc (latencies.length : ℚ) * q < latencies.length * 1 := by gcongr
      _ = ((latencies.length : ℤ) : ℚ) := by push_cast; ring
  have floor : ⌊(latencies.length : ℚ) * q⌋ < (latencies.length : ℤ) := Int.floor_lt.mpr below
  omega

/-- The selected sample has the rank of its share. -/
theorem selectedSample_ranked {latencies : List ℚ} (filled : latencies ≠ []) {q : ℚ}
    (part : q < 1) : HasRank latencies ⌊(latencies.length : ℚ) * q⌋.toNat
      (selectedSample latencies q) := by
  have inside : ⌊(latencies.length : ℚ) * q⌋.toNat < latencies.mergeSort.length := by
    rw [List.length_mergeSort]
    exact rank_inside filled part
  rw [selectedSample, ← List.getElem_eq_getD (h := inside)]
  exact HasRank.mergeSort latencies inside

/-- A larger share selects no smaller sample. -/
theorem selectedSample_mono {latencies : List ℚ} (filled : latencies ≠ []) {q r : ℚ}
    (ordered : q ≤ r) (part : r < 1) :
    selectedSample latencies q ≤ selectedSample latencies r := by
  have first := selectedSample_ranked filled (lt_of_le_of_lt ordered part)
  have second := selectedSample_ranked filled part
  apply first.mono second
  apply Int.toNat_le_toNat
  apply Int.floor_mono
  gcongr

/-- The selected sample does not depend on the order of the latencies. -/
theorem selectedSample_perm {latencies others : List ℚ} (same : others.Perm latencies) (q : ℚ) :
    selectedSample others q = selectedSample latencies q := by
  have sorted (samples : List ℚ) : samples.mergeSort.Pairwise (· ≤ ·) :=
    List.pairwise_mergeSort' (· ≤ ·) samples
  have equal : others.mergeSort = latencies.mergeSort := by
    have permuted := (List.mergeSort_perm others (· ≤ ·)).trans
      (same.trans (List.mergeSort_perm latencies (· ≤ ·)).symm)
    exact permuted.eq_of_pairwise' (sorted others) (sorted latencies)
  rw [selectedSample, selectedSample, equal, same.length_eq]

/-- Neither do the percentiles. -/
theorem getPercentiles_perm {latencies others : List ℚ} (same : others.Perm latencies) :
    getPercentiles others = getPercentiles latencies := by
  by_cases filled : latencies = []
  · subst filled
    rw [same.eq_nil]
  · have others_filled : others ≠ [] := by
      rintro rfl
      exact filled same.symm.eq_nil
    rw [getPercentiles_selects others_filled, getPercentiles_selects filled]
    simp only [selectedSample_perm same]

/-- The percentiles are in order, those of no latencies too. -/
theorem getPercentiles_ordered (latencies : List ℚ) :
    (getPercentiles latencies).p50 ≤ (getPercentiles latencies).p95 ∧
      (getPercentiles latencies).p95 ≤ (getPercentiles latencies).p99 := by
  by_cases filled : latencies = []
  · subst filled
    have none : getPercentiles [] = { p50 := 12 / 100, p95 := 45 / 100, p99 := 12 / 10 } := rfl
    rw [none]
    norm_num
  · rw [getPercentiles_selects filled]
    constructor
    · exact roundTo_mono 3 (selectedSample_mono filled (by norm_num) (by norm_num))
    · exact roundTo_mono 3 (selectedSample_mono filled (by norm_num) (by norm_num))

/-- `getMetrics` leaves the latencies as they are. -/
theorem getMetrics_latencies (env : Env) (p : Process) :
    ((getMetrics env).run p).state.engine.latencies = p.engine.latencies := by
  have kept := view_kept (fun _ => keeps_getMetrics env) p
  exact congrArg (fun q => q.engine.latencies) kept

/-- Of latencies that are not empty, each share selects a sample, which more than this share of the
samples do not exceed and at most this share are below. The percentiles, which are these samples to
three decimals, depend neither on the order of the latencies nor change them, and are in order
whether there are latencies or not. -/
theorem percentiles_correct (latencies : List ℚ) :
    (latencies ≠ [] →
      (∀ q ∈ shares, selectedSample latencies q ∈ latencies ∧
        q * latencies.length < latencies.countP (· ≤ selectedSample latencies q) ∧
        (latencies.countP (· < selectedSample latencies q) : ℚ) ≤ q * latencies.length) ∧
      getPercentiles latencies =
        { p50 := JsNum.roundTo 3 (selectedSample latencies (1 / 2))
          p95 := JsNum.roundTo 3 (selectedSample latencies (95 / 100))
          p99 := JsNum.roundTo 3 (selectedSample latencies (99 / 100)) }) ∧
    (∀ others : List ℚ, others.Perm latencies →
      (∀ q ∈ shares, selectedSample others q = selectedSample latencies q) ∧
        getPercentiles others = getPercentiles latencies) ∧
    (∀ (env : Env) (p : Process), p.engine.latencies = latencies →
      ((getMetrics env).run p).state.engine.latencies = latencies) ∧
    (getPercentiles latencies).p50 ≤ (getPercentiles latencies).p95 ∧
    (getPercentiles latencies).p95 ≤ (getPercentiles latencies).p99 := by
  refine ⟨fun filled => ⟨fun q share => ?_, getPercentiles_selects filled⟩, ?_, ?_,
    getPercentiles_ordered latencies⟩
  · have range : 0 ≤ q ∧ q < 1 := by
      simp only [shares, List.mem_cons, List.not_mem_nil, or_false] at share
      rcases share with rfl | rfl | rfl <;> norm_num
    have ranked := selectedSample_ranked filled range.2
    have positive : (0 : ℚ) ≤ latencies.length * q := mul_nonneg (Nat.cast_nonneg _) range.1
    obtain ⟨below, within⟩ := ranked.share positive
    rw [mul_comm q]
    exact ⟨ranked.mem, within, below⟩
  · intro others same
    exact ⟨fun q _ => selectedSample_perm same q, getPercentiles_perm same⟩
  · rintro env p rfl
    exact getMetrics_latencies env p

/-- Of the latencies 3, 1, 2 and 2 the median is 2. -/
theorem percentiles_correct_median : selectedSample [3, 1, 2, 2] (1 / 2) = 2 ∧
    (1 / 2 : ℚ) * ([3, 1, 2, 2] : List ℚ).length <
      ([3, 1, 2, 2] : List ℚ).countP (· ≤ selectedSample [3, 1, 2, 2] (1 / 2)) ∧
    getPercentiles [2, 3, 2, 1] = getPercentiles [3, 1, 2, 2] := by
  have filled : ([3, 1, 2, 2] : List ℚ) ≠ [] := List.cons_ne_nil 3 [1, 2, 2]
  have share : (1 / 2 : ℚ) ∈ shares := List.mem_cons_self
  obtain ⟨selects, orderless, _⟩ := percentiles_correct [3, 1, 2, 2]
  obtain ⟨_, within, _⟩ := (selects filled).1 (1 / 2) share
  have ranked := selectedSample_ranked filled (q := 1 / 2) (by norm_num)
  have median : HasRank ([3, 1, 2, 2] : List ℚ) ⌊((4 : Nat) : ℚ) * (1 / 2)⌋.toNat 2 :=
    ⟨by decide +kernel, by decide +kernel⟩
  exact ⟨ranked.unique median, within, (orderless [2, 3, 2, 1] (by decide +kernel)).2⟩

end IngestionEngine.Server
