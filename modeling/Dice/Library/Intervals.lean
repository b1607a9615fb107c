/-
**Closed intervals, what a list of them covers, and lists that tile an interval.**

* `covered` — the points that lie in some interval of a list.
* `Gapless` — a cursor that is carried up by intervals, each of which begins at most one after it:
  everything behind the cursor is covered (`Gapless.covers`), and was so at each earlier time
  (`Gapless.suffix`).
* `Tiles` — consecutive intervals from a first to a last number; every number between them lies in
  exactly one (`Tiles.count`), and nothing else does.
-/

import Mathlib.Order.Interval.Set.LinearOrder
import Mathlib.Data.List.Basic

/-- A closed interval. -/
structure ClosedInterval (α : Type) where
  first : α
  last : α
  deriving DecidableEq, Repr

namespace ClosedInterval

variable {α : Type}

section Order

variable [LinearOrder α]

/-- A point of an interval. -/
def Contains (i : ClosedInterval α) (point : α) : Prop := i.first ≤ point ∧ point ≤ i.last

instance (i : ClosedInterval α) (point : α) : Decidable (i.Contains point) :=
  inferInstanceAs (Decidable (_ ∧ _))

/-- The points that some interval of a list contains. -/
def covered (intervals : List (ClosedInterval α)) : Set α :=
  {point | ∃ i ∈ intervals, i.Contains point}

instance (intervals : List (ClosedInterval α)) (point : α) : Decidable (point ∈ covered intervals) :=
  inferInstanceAs (Decidable (∃ i ∈ intervals, i.Contains point))

variable {intervals newer older : List (ClosedInterval α)} {i : ClosedInterval α} {point : α}

@[simp] theorem mem_covered : point ∈ covered intervals ↔ ∃ i ∈ intervals, i.Contains point :=
  Iff.rfl

@[simp] theorem covered_nil : covered ([] : List (ClosedInterval α)) = ∅ := by
  ext point
  exact ⟨fun ⟨_, member, _⟩ => absurd member List.not_mem_nil, fun member => member.elim⟩

theorem covered_append : covered (newer ++ older) = covered newer ∪ covered older := by
  ext point
  simp only [mem_covered, List.mem_append, Set.mem_union, or_and_right, exists_or]

theorem covered_cons : covered (i :: older) = {point | i.Contains point} ∪ covered older := by
  ext point
  simp only [mem_covered, List.mem_cons, Set.mem_union, or_and_right, exists_or, exists_eq_left]
  exact Iff.rfl

theorem covered_mono (grows : older ⊆ newer) : covered older ⊆ covered newer :=
  fun _ ⟨i, member, contains⟩ => ⟨i, grows member, contains⟩

end Order

/-! ### A cursor carried by intervals -/

/-- **Intervals without a gap**, the newest one first: each begins at most one after the cursor that
the older ones have reached, and carries the cursor to its end if that is further up. -/
inductive Gapless (initial : ℕ) : ℕ → List (ClosedInterval ℕ) → Prop
  | start : Gapless initial initial []
  | send {cursor : ℕ} {older : List (ClosedInterval ℕ)} {i : ClosedInterval ℕ} :
      Gapless initial cursor older → i.first ≤ cursor + 1 →
      Gapless initial (max cursor i.last) (i :: older)

section Cursor

variable {initial cursor : ℕ} {intervals newer older : List (ClosedInterval ℕ)}
variable {i : ClosedInterval ℕ}

/-- Everything behind the cursor is covered. -/
theorem Gapless.covers (gapless : Gapless initial cursor intervals) :
    Set.Ioc initial cursor ⊆ covered intervals := by
  induction gapless with
  | start =>
    rw [Set.Ioc_self]
    exact Set.empty_subset _
  | @send cursor older i _ next ih =>
    intro point between
    rw [covered_cons]
    by_cases low : point ≤ cursor
    · exact .inr (ih ⟨between.1, low⟩)
    · have reached : point ≤ max cursor i.last := between.2
      have contains : i.Contains point := ⟨by omega, by omega⟩
      exact .inl contains

/-- The cursor is beyond every interval. -/
theorem Gapless.last_le (gapless : Gapless initial cursor intervals) (member : i ∈ intervals) :
    i.last ≤ cursor := by
  induction gapless with
  | start => exact absurd member List.not_mem_nil
  | send _ _ ih =>
    rcases List.mem_cons.mp member with rfl | member
    · exact le_max_right _ _
    · exact (ih member).trans (le_max_left _ _)

/-- The intervals of an earlier time. -/
theorem Gapless.suffix (gapless : Gapless initial cursor (newer ++ older)) :
    ∃ earlier ≤ cursor, Gapless initial earlier older := by
  induction newer generalizing cursor with
  | nil => exact ⟨cursor, le_rfl, gapless⟩
  | cons first rest ih =>
    cases gapless with
    | @send cursor _ _ before _ =>
      obtain ⟨earlier, le, gapless⟩ := ih before
      exact ⟨earlier, le.trans (le_max_left _ _), gapless⟩

end Cursor

/-! ### Tilings -/

/-- **Consecutive intervals** from a first number to `last`, none of them empty. -/
inductive Tiles (last : ℕ) : ℕ → List (ClosedInterval ℕ) → Prop
  | nil {first : ℕ} : last < first → Tiles last first []
  | cons {first middle : ℕ} {rest : List (ClosedInterval ℕ)} : first ≤ middle → middle ≤ last →
      Tiles last (middle + 1) rest → Tiles last first (⟨first, middle⟩ :: rest)

section Tilings

variable {first last : ℕ} {tiles : List (ClosedInterval ℕ)}

/-- **Every number of the interval lies in exactly one tile**, and no other number in any. -/
theorem Tiles.count (tiling : Tiles last first tiles) (point : ℕ) :
    tiles.countP (fun tile => tile.Contains point) = if first ≤ point ∧ point ≤ last then 1 else 0 := by
  induction tiling with
  | nil empty =>
    rw [if_neg (by omega)]
    rfl
  | @cons first middle rest low high _ ih =>
    rw [List.countP_cons, ih]
    by_cases here : first ≤ point ∧ point ≤ middle
    · have contains : (ClosedInterval.mk first middle).Contains point := here
      rw [if_neg (by omega), if_pos (decide_eq_true contains), if_pos (by omega)]
    · have outside : ¬ decide ((ClosedInterval.mk first middle).Contains point) = true :=
        fun contains => here (of_decide_eq_true contains)
      rw [if_neg outside, Nat.add_zero]
      exact if_congr (by omega) rfl rfl

end Tilings

end ClosedInterval
