/-
**Shuffling an array by swaps.**

* `swaps` — each position from the front on is swapped with a given one.
* `Indices` — the positions that may be given: for each position itself or a later one.
* `swaps_bijOn` — for an array without duplicates, the sequences of indices and the arrangements of the
  array correspond one to one.
* `swaps_uniform` — so uniform indices give a uniform arrangement.
-/

import Mathlib.Data.Nat.Factorial.BigOperators
import Mathlib.Data.Set.Function
import Mathlib.Order.Interval.Finset.Fin
import Mathlib.Probability.Distributions.Uniform

open scoped Nat ENNReal

namespace Shuffle

variable {α : Type}

/-- Swaps from a position on. -/
def swaps : ℕ → List ℕ → Array α → Array α
  | _, [], xs => xs
  | i, j :: js, xs => swaps (i + 1) js (xs.swapIfInBounds i j)

/-- **Indices** for the positions from `i` to `n`. -/
structure Indices (i n : ℕ) (js : List ℕ) : Prop where
  length : i + js.length = n
  bounds : ∀ k j, js[k]? = some j → i + k ≤ j ∧ j < n

section Indices

variable {i n j : ℕ} {js : List ℕ}

theorem Indices.head (valid : Indices i n (j :: js)) : i ≤ j ∧ j < n := valid.bounds 0 j rfl

theorem Indices.tail (valid : Indices i n (j :: js)) : Indices (i + 1) n js where
  length := by
    rw [Nat.add_right_comm]
    exact valid.length
  bounds k j' here := by
    have bounds := valid.bounds (k + 1) j' here
    omega

theorem Indices.cons (later : i ≤ j) (within : j < n) (valid : Indices (i + 1) n js) :
    Indices i n (j :: js) where
  length := by
    rw [List.length_cons, ← valid.length]
    omega
  bounds k j' here := by
    cases k with
    | zero =>
      cases here
      exact ⟨later, within⟩
    | succ k =>
      have bounds := valid.bounds k j' here
      omega

end Indices

section Swaps

variable {xs ys : Array α} {i j k : ℕ} {js js' : List ℕ}

theorem swap_before (before : k < i) (later : i ≤ j) : (xs.swapIfInBounds i j)[k]? = xs[k]? := by
  by_cases inside : k < xs.size
  · have inside' : k < (xs.swapIfInBounds i j).size := by rwa [Array.size_swapIfInBounds]
    rw [Array.getElem?_eq_getElem inside', Array.getElem?_eq_getElem inside,
      Array.getElem_swapIfInBounds_of_ne_of_ne (by omega) (by omega)]
  · rw [Array.getElem?_eq_none (by rw [Array.size_swapIfInBounds]; omega),
      Array.getElem?_eq_none (by omega)]

theorem swap_here (inside : i < xs.size) (within : j < xs.size) :
    (xs.swapIfInBounds i j)[i]? = xs[j]? := by
  have inside' : i < (xs.swapIfInBounds i j).size := by rwa [Array.size_swapIfInBounds]
  rw [Array.getElem?_eq_getElem inside', Array.getElem?_eq_getElem within,
    Array.getElem_swapIfInBounds_left within]

theorem swap_perm : (xs.swapIfInBounds i j).toList.Perm xs.toList := by
  unfold Array.swapIfInBounds
  split
  · split
    · exact Array.perm_iff_toList_perm.mp (Array.swap_perm _ _)
    · exact .refl _
  · exact .refl _

/-- Every result is an arrangement of the array. -/
theorem swaps_perm (i : ℕ) (js : List ℕ) (xs : Array α) : (swaps i js xs).toList.Perm xs.toList := by
  induction js generalizing i xs with
  | nil => exact .refl _
  | cons j js ih => exact (ih (i + 1) (xs.swapIfInBounds i j)).trans swap_perm

/-- What is in front of the position stays. -/
theorem swaps_before {n : ℕ} (valid : Indices i n js) (before : k < i) :
    (swaps i js xs)[k]? = xs[k]? := by
  induction js generalizing i xs with
  | nil => rfl
  | cons j js ih =>
    show (swaps (i + 1) js (xs.swapIfInBounds i j))[k]? = _
    rw [ih valid.tail (Nat.lt_succ_of_lt before), swap_before before valid.head.1]

/-- The first index tells what comes to the position. -/
theorem swaps_here (valid : Indices i xs.size (j :: js)) :
    (swaps i (j :: js) xs)[i]? = xs[j]? := by
  show (swaps (i + 1) js (xs.swapIfInBounds i j))[i]? = _
  rw [swaps_before valid.tail (Nat.lt_succ_self i)]
  exact swap_here (Nat.lt_of_le_of_lt valid.head.1 valid.head.2) valid.head.2

/-- **Different indices give different arrangements.** -/
theorem swaps_injective (nodup : xs.toList.Nodup) (valid : Indices i xs.size js)
    (valid' : Indices i xs.size js') (same : swaps i js xs = swaps i js' xs) : js = js' := by
  induction js generalizing i xs js' with
  | nil =>
    have length := valid.length.trans valid'.length.symm
    exact (List.length_eq_zero_iff.mp (Nat.add_left_cancel length).symm).symm
  | cons j js ih =>
    cases js' with
    | nil =>
      have length := valid.length.trans valid'.length.symm
      cases Nat.add_left_cancel length
    | cons j' js' =>
      have entries : xs[j]? = xs[j']? := by rw [← swaps_here valid, same, swaps_here valid']
      rw [← Array.getElem?_toList, ← Array.getElem?_toList] at entries
      obtain rfl : j = j' := (List.getElem?_inj valid.head.2 nodup).mp entries
      have tails := ih (swap_perm.nodup_iff.mpr nodup)
        (by rw [Array.size_swapIfInBounds]; exact valid.tail)
        (by rw [Array.size_swapIfInBounds]; exact valid'.tail) same
      rw [tails]

/-- **Every arrangement is reached** that agrees with the array in front of the position. -/
theorem exists_swaps (nodup : xs.toList.Nodup) (perm : ys.toList.Perm xs.toList)
    (inside : i ≤ xs.size) (agree : ∀ k < i, ys[k]? = xs[k]?) :
    ∃ js, Indices i xs.size js ∧ swaps i js xs = ys := by
  have size : ys.size = xs.size := perm.length_eq
  induction left : xs.size - i generalizing i xs with
  | zero =>
    have last : i = xs.size := by omega
    refine ⟨[], ⟨last, fun k j none => by cases none⟩, ?_⟩
    show xs = ys
    apply Array.ext_getElem?
    intro k
    by_cases before : k < i
    · exact (agree k before).symm
    · rw [Array.getElem?_eq_none (by omega), Array.getElem?_eq_none (by omega)]
  | succ left ih =>
    have here : i < ys.size := by omega
    obtain ⟨j, within, found⟩ := Array.getElem_of_mem
      (Array.mem_toList_iff.mp (perm.mem_iff.mp (Array.getElem_mem_toList here)))
    -- it is not in front, where `ys` has it already
    have later : i ≤ j := by
      by_contra before
      have twice : ys.toList[j]? = ys.toList[i]? := by
        rw [Array.getElem?_toList, Array.getElem?_toList, agree j (by omega),
          Array.getElem?_eq_getElem within, Array.getElem?_eq_getElem here, found]
      have first : j < ys.toList.length := Nat.lt_of_lt_of_eq within size.symm
      have equal := (List.getElem?_inj first (perm.nodup_iff.mpr nodup)).mp twice
      omega
    have sizes : (xs.swapIfInBounds i j).size = xs.size := Array.size_swapIfInBounds
    have agree' : ∀ k < i + 1, ys[k]? = (xs.swapIfInBounds i j)[k]? := by
      intro k before
      rcases Nat.lt_succ_iff_lt_or_eq.mp before with front | rfl
      · rw [swap_before front later]
        exact agree k front
      · rw [swap_here (by omega) within, Array.getElem?_eq_getElem here,
          Array.getElem?_eq_getElem within, found]
    obtain ⟨js, valid, reached⟩ := ih (swap_perm.nodup_iff.mpr nodup) (perm.trans swap_perm.symm)
      (by omega) agree' (by omega) (by omega)
    rw [sizes] at valid
    exact ⟨j :: js, valid.cons later within, reached⟩

/-- **One to one**: the sequences of indices, and the arrangements of an array without duplicates. -/
theorem swaps_bijOn (nodup : xs.toList.Nodup) :
    Set.BijOn (fun js => swaps 0 js xs) {js | Indices 0 xs.size js}
      {ys | ys.toList.Perm xs.toList} := by
  refine ⟨fun js _ => swaps_perm 0 js xs, fun js valid js' valid' same => ?_, fun ys perm => ?_⟩
  · exact swaps_injective nodup valid valid' same
  · exact exists_swaps nodup perm (Nat.zero_le _) fun k before => absurd before (Nat.not_lt_zero k)

end Swaps

/-! ### Uniform indices -/

/-- A choice of an index for each position. A uniform one chooses each index uniformly and independently
of the others. -/
abbrev Choice (n : ℕ) := (i : Fin n) → {j : Fin n // i ≤ j}

instance (n : ℕ) : Nonempty (Choice n) := ⟨fun i => ⟨i, le_rfl⟩⟩

/-- The indices that are chosen. -/
def Choice.indices {n : ℕ} (choice : Choice n) : List ℕ := List.ofFn fun i => (choice i).val.val

section Choices

variable {n : ℕ}

theorem Choice.indices_valid (choice : Choice n) : Indices 0 n choice.indices where
  length := by rw [Choice.indices, List.length_ofFn, Nat.zero_add]
  bounds k j here := by
    obtain ⟨inside, rfl⟩ := List.getElem?_eq_some_iff.mp here
    simp only [Choice.indices, List.getElem_ofFn]
    have later := (choice ⟨k, by rwa [Choice.indices, List.length_ofFn] at inside⟩).property
    exact ⟨by rw [Nat.zero_add]; exact later, Fin.is_lt _⟩

theorem Choice.indices_injective : Function.Injective (Choice.indices : Choice n → List ℕ) := by
  intro first second same
  funext i
  have entries := congrFun (List.ofFn_injective same) i
  exact Subtype.ext (Fin.ext entries)

theorem Choice.exists_indices {js : List ℕ} (valid : Indices 0 n js) :
    ∃ choice : Choice n, choice.indices = js := by
  have length : js.length = n := by rw [← valid.length, Nat.zero_add]
  have bounds : ∀ i : Fin n, i.val ≤ js[i.val] ∧ js[i.val] < n := by
    intro i
    have found := valid.bounds i.val _ (List.getElem?_eq_getElem (by rw [length]; exact i.isLt))
    rwa [Nat.zero_add] at found
  refine ⟨fun i => ⟨⟨js[i.val], (bounds i).2⟩, (bounds i).1⟩, ?_⟩
  apply List.ext_getElem
  · rw [Choice.indices, List.length_ofFn, length]
  · intro k _ _
    simp only [Choice.indices, List.getElem_ofFn]

/-- **As many choices as arrangements.** -/
theorem card_choice (n : ℕ) : Fintype.card (Choice n) = n ! := by
  have each : ∀ i : Fin n, Fintype.card {j : Fin n // i ≤ j} = n - i.val := by
    intro i
    rw [Fintype.card_subtype, ← Fin.card_Ici]
    congr 1
    ext j
    rw [Finset.mem_filter, Finset.mem_Ici]
    exact and_iff_right (Finset.mem_univ j)
  rw [Fintype.card_pi, Finset.prod_congr rfl fun i _ => each i,
    Fin.prod_univ_eq_prod_range (fun i => n - i) n, ← Nat.descFactorial_eq_prod_range,
    Nat.descFactorial_self]

end Choices

/-- The result of a choice. -/
noncomputable def shuffled (xs : Array α) : PMF (Array α) :=
  (PMF.uniformOfFintype (Choice xs.size)).map fun choice => swaps 0 choice.indices xs

/-- **Uniform indices give a uniform arrangement.** -/
theorem swaps_uniform {xs ys : Array α} (nodup : xs.toList.Nodup)
    (perm : ys.toList.Perm xs.toList) : shuffled xs ys = (xs.size ! : ℝ≥0∞)⁻¹ := by
  classical
  obtain ⟨js, valid, reached⟩ := (swaps_bijOn nodup).surjOn perm
  obtain ⟨choice, rfl⟩ := Choice.exists_indices valid
  have others : ∀ other, other ≠ choice → ¬ ys = swaps 0 other.indices xs := by
    intro other different same
    exact different (Choice.indices_injective (swaps_injective nodup other.indices_valid
      choice.indices_valid (same.symm.trans reached.symm)))
  unfold shuffled
  rw [PMF.map_apply]
  refine (tsum_eq_single choice fun other different => if_neg (others other different)).trans ?_
  rw [if_pos reached.symm, PMF.uniformOfFintype_apply, card_choice]

end Shuffle
