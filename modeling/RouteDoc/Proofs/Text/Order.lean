import Mathlib.Data.List.Nodup
import Mathlib.Data.List.Perm.Basic

/-!
# Sorting by texts

* `pairwise_mergeSort_text`: what is sorted by its texts is in their order;
* `mergeSort_text_inj`: where the texts differ, sorting loses nothing but the order.
-/

namespace RouteDoc

variable {α : Type} {text : α → String}

/-- What is sorted by its texts is in their order. -/
theorem pairwise_mergeSort_text (text : α → String) (xs : List α) :
    (xs.mergeSort fun a b => text a ≤ text b).Pairwise fun a b => text a ≤ text b := by
  have hsorted := @List.pairwise_mergeSort α (fun a b => decide (text a ≤ text b))
    (by simpa using fun _ _ _ => String.le_trans) (by simpa using fun _ _ => String.le_total _ _) xs
  exact hsorted.imp of_decide_eq_true

/-- Two lists of which the first has different texts are sorted alike if each is a
permutation of the other. -/
theorem mergeSort_text_inj {xs ys : List α} (hxs : (xs.map text).Nodup) :
    (xs.mergeSort fun a b => text a ≤ text b) = (ys.mergeSort fun a b => text a ≤ text b) ↔
      xs.Perm ys := by
  have hx := List.mergeSort_perm xs fun a b => decide (text a ≤ text b)
  have hy := List.mergeSort_perm ys fun a b => decide (text a ≤ text b)
  constructor
  · exact fun h => hx.symm.trans (h ▸ hy)
  · intro h
    refine List.Perm.eq_of_pairwise (fun a b ha hb hab hba => ?_) (pairwise_mergeSort_text text xs)
      (pairwise_mergeSort_text text ys) ((hx.trans h).trans hy.symm)
    exact List.inj_on_of_nodup_map hxs (hx.mem_iff.mp ha) ((hy.trans h.symm).mem_iff.mp hb)
      (String.le_antisymm hab hba)

end RouteDoc
