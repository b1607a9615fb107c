/-
**Values in order, and how many lie at or below one of them.**

* `ordered` — the values with the smallest first. The order they are given in does not matter
  (`ordered_congr`).
* `rank` — how many of the values are at most a given one. The value at a place of the order has more of
  them than places before it (`lt_rank`), so that from the middle on it has more than half
  (`half_lt_rank`).
-/

import Mathlib.Data.List.Sort
import Mathlib.Tactic.Common

namespace OrderStatistics

variable {α : Type} [LinearOrder α] {samples samples' : List α} {k : ℕ}

def ordered (samples : List α) : List α := samples.insertionSort (· ≤ ·)

def rank (samples : List α) (value : α) : ℕ := samples.countP fun sample => sample ≤ value

theorem ordered_perm (samples : List α) : (ordered samples).Perm samples :=
  List.perm_insertionSort _ samples

theorem ordered_sorted (samples : List α) : (ordered samples).Pairwise (· ≤ ·) :=
  List.pairwise_insertionSort _ samples

@[simp] theorem ordered_length (samples : List α) : (ordered samples).length = samples.length :=
  List.length_insertionSort _ samples

theorem mem_of_mem_ordered {value : α} (member : value ∈ ordered samples) : value ∈ samples :=
  (ordered_perm samples).subset member

/-- **Any order gives the same.** -/
theorem ordered_congr (perm : samples.Perm samples') : ordered samples = ordered samples' := by
  have same : (ordered samples).Perm (ordered samples') :=
    ((ordered_perm samples).trans perm).trans (ordered_perm samples').symm
  exact same.eq_of_pairwise (fun _ _ _ _ below above => le_antisymm below above)
    (ordered_sorted samples) (ordered_sorted samples')

/-- Further on there are larger values. -/
theorem ordered_mono {i j : ℕ} (le : i ≤ j) (inside : j < (ordered samples).length) :
    (ordered samples)[i] ≤ (ordered samples)[j] := by
  rcases Nat.eq_or_lt_of_le le with rfl | lt
  · exact le_refl _
  · exact List.pairwise_iff_getElem.mp (ordered_sorted samples) i j (by omega) inside lt

/-- **The value at a place** is not below itself and those before it. -/
theorem lt_rank (inside : k < (ordered samples).length) : k < rank samples (ordered samples)[k] := by
  have first : ∀ sample ∈ (ordered samples).take (k + 1), sample ≤ (ordered samples)[k] := by
    intro sample member
    obtain ⟨i, before, rfl⟩ := List.mem_iff_getElem.mp member
    rw [List.getElem_take]
    rw [List.length_take] at before
    exact ordered_mono (by omega) inside
  have counted : ((ordered samples).take (k + 1)).countP
      (fun sample => sample ≤ (ordered samples)[k]) = k + 1 := by
    rw [List.countP_eq_length.mpr fun sample member => decide_eq_true (first sample member),
      List.length_take, Nat.min_eq_left inside]
  have fewer := (List.take_sublist (k + 1) (ordered samples)).countP_le
    (p := fun sample => sample ≤ (ordered samples)[k])
  unfold rank
  rw [(ordered_perm samples).countP_eq] at fewer
  omega

theorem rank_mono (samples : List α) {low high : α} (le : low ≤ high) :
    rank samples low ≤ rank samples high := by
  refine List.countP_mono_left fun sample _ below => ?_
  exact decide_eq_true (le_trans (of_decide_eq_true below) le)

/-- From the middle on, more than half of the values are at most this one. -/
theorem half_lt_rank (inside : k < (ordered samples).length) (middle : samples.length / 2 ≤ k) :
    samples.length < 2 * rank samples (ordered samples)[k] := by
  have place := lt_rank inside
  omega

end OrderStatistics
