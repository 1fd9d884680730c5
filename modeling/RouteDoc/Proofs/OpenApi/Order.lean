import Mathlib.Data.List.Nodup
import Mathlib.Data.List.Perm.Basic
import RouteDoc.OpenApi.Document
import RouteDoc.Proofs.Text.Order

/-!
# Texts in order

* `sortedDistinct_pairwise`, `mem_sortedDistinct`: the texts of a list in
  strictly increasing order;
* `sortedDistinct_congr`, `tally_congr`: neither the order of a list nor, for
  the first, how often a text stands in it makes a difference.
-/

namespace RouteDoc.OpenApi

/-- Two lists with the same elements in strictly increasing order are equal. -/
theorem eq_of_pairwise_lt {xs ys : List String} (hx : xs.Pairwise (· < ·))
    (hy : ys.Pairwise (· < ·)) (h : ∀ x, x ∈ xs ↔ x ∈ ys) : xs = ys := by
  have nodup : ∀ {zs : List String}, zs.Pairwise (· < ·) → zs.Nodup :=
    fun h => h.imp String.ne_of_lt
  refine List.Perm.eq_of_pairwise (fun a b _ _ hab hba => ?_) hx hy
    ((List.perm_ext_iff_of_nodup (nodup hx) (nodup hy)).mpr h)
  exact absurd hba (String.lt_asymm hab)

theorem mem_eraseRepsBy_loop {a x : String} {xs acc : List String} :
    x ∈ List.eraseRepsBy.loop (· == ·) a xs acc ↔ x ∈ acc ∨ x = a ∨ x ∈ xs := by
  induction xs generalizing a acc with
  | nil => simp [List.eraseRepsBy.loop, or_comm]
  | cons b xs ih =>
    rw [List.eraseRepsBy.loop]
    split
    · rename_i h
      rw [ih, beq_iff_eq.mp h]
      simp
    · rw [ih]
      simp [or_assoc, or_left_comm]

/-- Erasing repetitions in an ordered list: `acc` holds what was kept before
`a`, the nearest first. -/
theorem pairwise_eraseRepsBy_loop {a : String} {xs acc : List String}
    (hacc : (a :: acc).Pairwise fun x y => y < x) (hxs : (a :: xs).Pairwise (· ≤ ·)) :
    (List.eraseRepsBy.loop (· == ·) a xs acc).Pairwise (· < ·) := by
  induction xs generalizing a acc with
  | nil => exact List.pairwise_reverse.mpr hacc
  | cons b xs ih =>
    obtain ⟨ha, hb⟩ := List.pairwise_cons.mp hxs
    rw [List.eraseRepsBy.loop]
    split
    · rename_i h
      exact ih hacc (beq_iff_eq.mp h ▸ hb)
    · rename_i h
      have hlt : a < b := Std.lt_of_le_of_ne (ha b List.mem_cons_self) (beq_eq_false_iff_ne.mp h)
      refine ih (List.pairwise_cons.mpr ⟨fun y hy => ?_, hacc⟩) hb
      rcases List.mem_cons.mp hy with rfl | hy
      · exact hlt
      · exact String.lt_trans ((List.pairwise_cons.mp hacc).1 y hy) hlt

theorem mem_sortedDistinct {xs : List String} {x : String} : x ∈ sortedDistinct xs ↔ x ∈ xs := by
  rw [sortedDistinct, ← (List.mergeSort_perm xs fun a b => decide (a ≤ b)).mem_iff]
  cases xs.mergeSort fun a b => decide (a ≤ b) with
  | nil => rfl
  | cons a ys =>
    rw [List.eraseReps, List.eraseRepsBy, mem_eraseRepsBy_loop, List.mem_cons]
    simp

theorem sortedDistinct_pairwise (xs : List String) : (sortedDistinct xs).Pairwise (· < ·) := by
  have sorted : (xs.mergeSort fun a b => a ≤ b).Pairwise (· ≤ ·) := pairwise_mergeSort_text id xs
  rw [sortedDistinct]
  cases hs : xs.mergeSort fun a b => decide (a ≤ b) with
  | nil => exact .nil
  | cons a ys =>
    rw [hs] at sorted
    exact pairwise_eraseRepsBy_loop (List.pairwise_singleton _ a) sorted

theorem sortedDistinct_congr {xs ys : List String} (h : ∀ x, x ∈ xs ↔ x ∈ ys) :
    sortedDistinct xs = sortedDistinct ys :=
  eq_of_pairwise_lt (sortedDistinct_pairwise xs) (sortedDistinct_pairwise ys) fun x => by
    rw [mem_sortedDistinct, mem_sortedDistinct, h]

theorem sortedDistinct_eq {xs ys : List String} (hlt : ys.Pairwise (· < ·)) (h : ys.Perm xs) :
    sortedDistinct xs = ys :=
  eq_of_pairwise_lt (sortedDistinct_pairwise xs) hlt fun x => by rw [mem_sortedDistinct, h.mem_iff]

/-- Counts do not depend on the order. -/
theorem tally_congr {xs ys : List String} (h : xs.Perm ys) : tally xs = tally ys := by
  rw [tally, tally, sortedDistinct_congr fun x => h.mem_iff]
  exact List.map_congr_left fun x _ => by rw [h.count_eq]

end RouteDoc.OpenApi
