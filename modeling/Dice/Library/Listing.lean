/-
**Listings**: `ORDER BY … DESC`, `LIMIT` and `OFFSET`.

* `OrderBy` — a way to arrange rows with the largest key first. Rows with equal keys may stand in any
  order, so two of them need not agree; with different keys there is one order (`sorted_unique`).
* `page` — the rows after an offset, up to a limit. Consecutive pages are all rows (`pages_join`).
-/

import Mathlib.Data.List.Nodup
import Mathlib.Data.List.Forall2
import Mathlib.Data.List.Pairwise
import Mathlib.Data.Int.Notation
import Mathlib.Tactic.Common

namespace Listing

variable {R : Type} {key : R → ℤ}

structure OrderBy (key : R → ℤ) where
  arrange : List R → List R
  perm : ∀ rows, (arrange rows).Perm rows
  sorted : ∀ rows, (arrange rows).Pairwise fun first second => key second ≤ key first

/-- Rows with equal keys in the order they had. -/
def OrderBy.stable (key : R → ℤ) : OrderBy key where
  arrange rows := rows.mergeSort fun first second => key second ≤ key first
  perm rows := List.mergeSort_perm rows _
  sorted rows := by
    have sorted : (rows.mergeSort fun first second => decide (key second ≤ key first)).Pairwise
        fun first second => decide (key second ≤ key first) = true := List.pairwise_mergeSort
      (fun a b c first second => by
        simp only [decide_eq_true_eq] at *
        omega)
      (fun a b => by
        simp only [Bool.or_eq_true, decide_eq_true_eq]
        omega) rows
    exact sorted.imp fun related => of_decide_eq_true related

/-- With different keys there is one order. -/
theorem sorted_unique {rows rows' : List R} (perm : rows.Perm rows')
    (sorted : rows.Pairwise fun first second => key second ≤ key first)
    (sorted' : rows'.Pairwise fun first second => key second ≤ key first)
    (distinct : (rows.map key).Nodup) : rows = rows' := by
  refine perm.eq_of_pairwise (fun a b member member' first second => ?_) sorted sorted'
  exact List.inj_on_of_nodup_map distinct member (perm.symm.subset member')
    (Int.le_antisymm second first)

def page (limit offset : ℕ) (rows : List R) : List R := (rows.drop offset).take limit

theorem page_length_le (limit offset : ℕ) (rows : List R) : (page limit offset rows).length ≤ limit :=
  List.length_take_le limit _

/-- **Consecutive pages are all rows.** -/
theorem pages_join {limit : ℕ} (count : ℕ) (rows : List R) :
    ((List.range count).flatMap fun k => page limit (k * limit) rows) = rows.take (count * limit) := by
  induction count with
  | zero => simp
  | succ count ih =>
    rw [List.range_succ, List.flatMap_append, ih]
    simp only [List.flatMap_cons, List.flatMap_nil, List.append_nil, page]
    rw [Nat.add_mul, Nat.one_mul, List.take_add]

/-- The partner of a member. -/
theorem partner_of_mem {A B : Type} {T : A → B → Prop} {as : List A} {bs : List B}
    (pairs : List.Forall₂ T as bs) {b : B} (member : b ∈ bs) : ∃ a ∈ as, T a b := by
  induction pairs with
  | nil => cases member
  | @cons a first as bs related _ ih =>
    rcases List.mem_cons.mp member with rfl | member
    · exact ⟨a, List.mem_cons_self, related⟩
    · obtain ⟨other, member', related'⟩ := ih member
      exact ⟨other, List.mem_cons_of_mem _ member', related'⟩

/-- Pages of partners are partners. -/
theorem page_partners {A B : Type} {T : A → B → Prop} {as : List A} {bs : List B}
    (pairs : List.Forall₂ T as bs) (limit offset : ℕ) :
    List.Forall₂ T (page limit offset as) (page limit offset bs) :=
  List.forall₂_take limit (List.forall₂_drop offset pairs)

theorem page_map {A B : Type} (f : A → B) (limit offset : ℕ) (as : List A) :
    page limit offset (as.map f) = (page limit offset as).map f := by
  unfold page
  rw [List.map_take, List.map_drop]

end Listing
