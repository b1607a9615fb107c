/-
**One pool for many debts.**

A pool covers a family of debts when it is at least every finite sum of them. Only finitely many
debts need to be positive for this to make sense, but nothing has to be known about which.

* `Covers.mono`, `Covers.grow` — debts may shrink, and the pool may grow.
* `Covers.incur` — a debt may grow to an amount that is put into the pool.
* `Covers.settle` — a debt may be paid out of the pool.
* `Covers.withdraw` — what is not needed may be taken out.
* `Totals` — the pool is exactly the sum of the debts; `Totals.change` follows one debt.
-/

import Mathlib.Algebra.BigOperators.Group.Finset.Basic
import Mathlib.Algebra.Order.BigOperators.Group.Finset

namespace Pool

variable {ι : Type} [DecidableEq ι] {pool amount : ℕ} {debt debt' : ι → ℕ}

/-- The pool is at least the sum of any finitely many debts. -/
def Covers (pool : ℕ) (debt : ι → ℕ) : Prop :=
  ∀ F : Finset ι, ∑ i ∈ F, debt i ≤ pool

omit [DecidableEq ι] in
theorem Covers.le (covers : Covers pool debt) (i : ι) : debt i ≤ pool := by
  have one := covers {i}
  rwa [Finset.sum_singleton] at one

omit [DecidableEq ι] in
theorem Covers.mono (covers : Covers pool debt) (shrinks : ∀ i, debt' i ≤ debt i) :
    Covers pool debt' :=
  fun F => Nat.le_trans (Finset.sum_le_sum fun i _ => shrinks i) (covers F)

omit [DecidableEq ι] in
theorem Covers.grow {larger : ℕ} (covers : Covers pool debt) (le : pool ≤ larger) :
    Covers larger debt :=
  fun F => Nat.le_trans (covers F) le

theorem Covers.incur (covers : Covers pool debt) (k : ι) (others : ∀ i, i ≠ k → debt' i ≤ debt i)
    (new : debt' k ≤ amount) : Covers (pool + amount) debt' := by
  intro F
  have rest : ∑ i ∈ F.erase k, debt' i ≤ pool :=
    Nat.le_trans (Finset.sum_le_sum fun i member => others i (Finset.ne_of_mem_erase member))
      (covers _)
  by_cases member : k ∈ F
  · rw [← Finset.add_sum_erase F debt' member]
    omega
  · rw [Finset.erase_eq_of_notMem member] at rest
    omega

theorem Covers.settle (covers : Covers pool debt) (k : ι) (shrinks : ∀ i, debt' i ≤ debt i)
    (paid : debt' k = 0) : Covers (pool - debt k) debt' := by
  intro F
  have rest : ∑ i ∈ F, debt' i ≤ ∑ i ∈ F.erase k, debt i := by
    by_cases member : k ∈ F
    · rw [← Finset.add_sum_erase F debt' member, paid, Nat.zero_add]
      exact Finset.sum_le_sum fun i _ => shrinks i
    · rw [Finset.erase_eq_of_notMem member]
      exact Finset.sum_le_sum fun i _ => shrinks i
  have all := covers (insert k (F.erase k))
  rw [Finset.sum_insert (Finset.notMem_erase k F)] at all
  omega

omit [DecidableEq ι] in
theorem Covers.withdraw (enough : ∀ F : Finset ι, amount + ∑ i ∈ F, debt i ≤ pool) :
    Covers (pool - amount) debt := by
  intro F
  have rest := enough F
  omega

/-! ### Exact sums -/

/-- Finitely many debts are positive, and the pool is their sum. -/
def Totals (pool : ℕ) (debt : ι → ℕ) : Prop :=
  ∃ F : Finset ι, (∀ i ∉ F, debt i = 0) ∧ ∑ i ∈ F, debt i = pool

omit [DecidableEq ι] in
theorem Totals.zero {debt : ι → ℕ} (none : ∀ i, debt i = 0) : Totals 0 debt :=
  ⟨∅, fun i _ => none i, rfl⟩

theorem Totals.covers (totals : Totals pool debt) : Covers pool debt := by
  obtain ⟨F, outside, sum⟩ := totals
  intro G
  calc ∑ i ∈ G, debt i ≤ ∑ i ∈ F ∪ G, debt i :=
        Finset.sum_le_sum_of_subset Finset.subset_union_right
    _ = ∑ i ∈ F, debt i := by
        refine (Finset.sum_subset Finset.subset_union_left fun i _ absent => ?_).symm
        exact outside i absent
    _ = pool := sum

/-- One debt changes, and the pool by as much. -/
theorem Totals.change (totals : Totals pool debt) (debt' : ι → ℕ) (k : ι)
    (others : ∀ i, i ≠ k → debt' i = debt i) :
    Totals (pool - debt k + debt' k) debt' := by
  obtain ⟨F, outside, sum⟩ := totals
  refine ⟨insert k F, fun i absent => ?_, ?_⟩
  · rw [Finset.mem_insert, not_or] at absent
    rw [others i absent.1, outside i absent.2]
  · have rest : ∑ i ∈ F.erase k, debt' i = ∑ i ∈ F.erase k, debt i :=
      Finset.sum_congr rfl fun i member => others i (Finset.ne_of_mem_erase member)
    have split : debt k + ∑ i ∈ F.erase k, debt i = pool := by
      rw [← sum]
      by_cases member : k ∈ F
      · exact Finset.add_sum_erase F debt member
      · rw [Finset.erase_eq_of_notMem member, outside k member, Nat.zero_add]
    rw [← Finset.add_sum_erase (insert k F) debt' (Finset.mem_insert_self k F),
      Finset.erase_insert_eq_erase, rest]
    omega

end Pool
