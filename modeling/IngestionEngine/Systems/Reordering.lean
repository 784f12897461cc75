import Mathlib.Data.List.Nodup
import Mathlib.Data.List.Range
import Mathlib.Data.List.Sort
import Mathlib.Data.List.Sublists

/-!
# Lists that are nearly in order

Elements wait in a row, and one of the first few is taken at a time. What has been taken is then
nearly in the order of the row: of the elements that were taken after one, only a few stood in
front of it.
-/

namespace Systems

variable {α : Type} {width : Nat} {row taken rest out : List α}

/-- From the row one of the first `width` elements that wait is taken at a time. -/
inductive Taken (width : Nat) (row : List α) : List α → List α → Prop where
  /-- Nothing has been taken. -/
  | none : Taken width row [] row
  /-- One of the first elements is taken. -/
  | next {taken front back : List α} {x : α} (before : Taken width row taken (front ++ x :: back))
      (near : front.length < width) : Taken width row (taken ++ [x]) (front ++ back)

/-- The places of a row, one after the other, hold the row. -/
theorem read_range (row : List α) :
    ((List.range row.length).map fun place => row[place]?) = row.map some := by
  apply List.ext_getElem
  · simp
  · intro place inside _
    simp at inside
    simp [inside]

namespace Taken

/-- The row may grow at its end. -/
theorem grow (before : Taken width row taken rest) (more : List α) :
    Taken width (row ++ more) taken (rest ++ more) := by
  induction before with
  | none => exact .none
  | next _ near ih =>
    rw [List.append_assoc, List.cons_append] at ih
    rw [List.append_assoc]
    exact .next ih near

/-- What waits is in the order of the row. -/
theorem sublist (before : Taken width row taken rest) : rest.Sublist row := by
  induction before with
  | none => exact List.Sublist.refl _
  | @next taken front back x _ _ ih =>
    have fewer : (front ++ back).Sublist (front ++ x :: back) :=
      (List.Sublist.refl front).append (List.sublist_cons_self x back)
    exact fewer.trans ih

/-- Nothing is lost, and nothing is taken twice. -/
theorem perm (before : Taken width row taken rest) : (taken ++ rest).Perm row := by
  induction before with
  | none => exact .refl _
  | @next taken front back x _ _ ih =>
    have moved : (x :: (front ++ back)).Perm (front ++ x :: back) := List.perm_middle.symm
    rw [List.append_assoc, List.singleton_append]
    exact (moved.append_left taken).trans ih

/-- The places of the row are taken in the same way. -/
theorem places (before : Taken width row taken rest) :
    ∃ chosen left, Taken width (List.range row.length) chosen left ∧
      taken.map some = chosen.map (fun place => row[place]?) ∧
      rest.map some = left.map fun place => row[place]? := by
  induction before with
  | none =>
    exact ⟨[], List.range row.length, .none, rfl, (read_range row).symm⟩
  | @next taken front back x _ near ih =>
    obtain ⟨chosen, left, sofar, read, waiting⟩ := ih
    rw [List.map_append, List.map_cons] at waiting
    obtain ⟨first, second, rfl, fronts, others⟩ := List.map_eq_append_iff.mp waiting.symm
    obtain ⟨place, last, rfl, own, backs⟩ := List.map_eq_cons_iff.mp others
    have length : first.length = front.length := by simpa using congrArg List.length fronts
    refine ⟨chosen ++ [place], first ++ last, .next sofar (length ▸ near), ?_, ?_⟩
    · simp [read, own]
    · rw [List.map_append, List.map_append, fronts, backs]

/-- In an increasing row, fewer than `width` of what is taken after an element, or waits, is less
than the element. -/
theorem overtakes {row taken rest : List Nat} (before : Taken width row taken rest)
    (increasing : row.Pairwise (· < ·)) {earlier later : List Nat} {place : Nat}
    (split : taken = earlier ++ place :: later) :
    ((later ++ rest).countP fun other => other < place) < width := by
  induction before generalizing later with
  | none => simp at split
  | @next taken front back x sofar near ih =>
    rcases List.eq_nil_or_concat later with rfl | ⟨sooner, last, rfl⟩
    · obtain ⟨_, same⟩ := List.append_inj' split rfl
      obtain rfl : x = place := List.singleton_inj.mp same
      have ordered : (front ++ x :: back).Pairwise (· < ·) := increasing.sublist sofar.sublist
      have behind : back.countP (fun other => other < x) = 0 := by
        apply List.countP_eq_zero.mpr
        intro other member
        have above : x < other :=
          (List.pairwise_cons.mp (List.pairwise_append.mp ordered).2.1).1 other member
        simp only [decide_eq_true_eq]
        omega
      have ahead : front.countP (fun other => other < x) ≤ front.length := List.countP_le_length
      rw [List.nil_append, List.countP_append, behind]
      omega
    · rw [List.concat_eq_append, ← List.cons_append, ← List.append_assoc] at split
      obtain ⟨here, same⟩ := List.append_inj' split rfl
      obtain rfl : x = last := List.singleton_inj.mp same
      have fewer := ih here
      rw [List.countP_append, List.countP_append, List.countP_cons] at fewer
      rw [List.concat_eq_append, List.countP_append, List.countP_append, List.countP_append,
        List.countP_singleton]
      omega

end Taken

/-- The elements come from different places of the row, and of those that follow one of them fewer
than `width` come from places in front of its own. -/
def NearlyInOrder (width : Nat) (row out : List α) : Prop :=
  ∃ places : List Nat, places.Nodup ∧ out.map some = places.map (fun place => row[place]?) ∧
    ∀ earlier place later, places = earlier ++ place :: later →
      (later.countP fun other => other < place) < width

/-- What is taken from among the first elements is nearly in order. -/
theorem Taken.nearlyInOrder (before : Taken width row taken rest) :
    NearlyInOrder width row taken := by
  obtain ⟨chosen, left, sofar, read, _⟩ := before.places
  refine ⟨chosen, ?_, read, ?_⟩
  · have once : (chosen ++ left).Nodup := sofar.perm.nodup_iff.mpr List.nodup_range
    exact once.of_append_left
  · intro earlier place later split
    have fewer := sofar.overtakes List.pairwise_lt_range split
    rw [List.countP_append] at fewer
    omega

namespace NearlyInOrder

/-- What is left of a list is as nearly in order as the list. -/
theorem sublist {fewer : List α} (near : NearlyInOrder width row out)
    (kept : fewer.Sublist out) : NearlyInOrder width row fewer := by
  obtain ⟨places, once, read, behind⟩ := near
  have mapped : (fewer.map some).Sublist (places.map fun place => row[place]?) :=
    read ▸ kept.map some
  obtain ⟨others, part, same⟩ := List.sublist_map_iff.mp mapped
  refine ⟨others, once.sublist part, same, ?_⟩
  rintro earlier place later rfl
  obtain ⟨first, second, rfl, _, tail⟩ := List.append_sublist_iff.mp part
  obtain ⟨middle, last, rfl, member, rests⟩ := List.cons_sublist_iff.mp tail
  obtain ⟨left, right, rfl⟩ := List.append_of_mem member
  have bounded := behind (first ++ left) place (right ++ last) (by simp)
  have below : (later.countP fun other => other < place) ≤
      ((right ++ last).countP fun other => other < place) :=
    (rests.trans (List.sublist_append_right right last)).countP_le
  omega

/-- Where nothing is overtaken, the elements are in the order of the row. -/
theorem in_order (near : NearlyInOrder 1 row out) : out.Sublist row := by
  obtain ⟨places, once, read, behind⟩ := near
  have increasing : places.Pairwise (· < ·) := by
    apply List.pairwise_iff_forall_sublist.mpr
    intro place other pair
    obtain ⟨first, second, rfl, member, rests⟩ := List.cons_sublist_iff.mp pair
    obtain ⟨left, right, rfl⟩ := List.append_of_mem member
    have none := behind left place (right ++ second) (by simp)
    have follows : other ∈ right ++ second :=
      List.mem_append_right right (List.singleton_sublist.mp rests)
    have above := List.countP_eq_zero.mp (Nat.lt_one_iff.mp none) other follows
    have different : place ≠ other := List.pairwise_iff_forall_sublist.mp once pair
    simp only [decide_eq_true_eq] at above
    omega
  have inside : places ⊆ List.range row.length := by
    intro place member
    have found : row[place]? ∈ out.map some := by
      rw [read]
      exact List.mem_map_of_mem member
    obtain ⟨x, _, held⟩ := List.mem_map.mp found
    exact List.mem_range.mpr (List.getElem?_eq_some_iff.mp held.symm).1
  have part : places.Sublist (List.range row.length) := by
    apply List.sublist_of_subperm_of_pairwise (List.subperm_of_subset once inside) increasing
    exact List.pairwise_lt_range
  have lifted := part.map fun place => row[place]?
  rw [← read, read_range] at lifted
  simpa using lifted.filterMap id

end NearlyInOrder

end Systems
