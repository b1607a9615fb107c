/-
**A loop that climbs to a bound.**

A loop takes at most so many turns, and takes none once its value has reached a bound. What it returns
is the value, cut at the bound.

* `climb`, `capped` — the value after the loop, and what is returned. `climb_succ` is the last turn.
* `climb_invariant` — what each turn keeps holds in the end.
* `capped_monotone` — when no turn lowers the value, more turns do not lower what is returned.
* `le_climb` — when each turn below a goal raises the value, the goal is reached after as many turns as
  it is away.
-/

import Mathlib.Order.Lattice
import Mathlib.Order.MinMax
import Mathlib.Order.Monotone.Basic

namespace Climb

section Loop

variable {α : Type} [LinearOrder α]

/-- `while i < turns && current < bound { current = step(current); i += 1; }`, by the turns that are
left. -/
def climb (step : α → α) (bound : α) : ℕ → α → α
  | 0, current => current
  | turns + 1, current =>
      if current < bound then climb step bound turns (step current) else current

/-- The value is cut at the bound. -/
def capped (step : α → α) (bound : α) (turns : ℕ) (initial : α) : α :=
  min (climb step bound turns initial) bound

variable {step : α → α} {bound initial : α} {P : α → Prop}

/-- **The last turn.** -/
theorem climb_succ (step : α → α) (bound : α) (turns : ℕ) (initial : α) :
    climb step bound (turns + 1) initial =
      if climb step bound turns initial < bound then step (climb step bound turns initial)
      else climb step bound turns initial := by
  induction turns generalizing initial with
  | zero => rfl
  | succ turns ih =>
    by_cases below : initial < bound
    · have first (n : ℕ) : climb step bound (n + 1) initial = climb step bound n (step initial) :=
        if_pos below
      rw [first, ih, ← first]
    · have stays (n : ℕ) : climb step bound (n + 1) initial = initial := if_neg below
      rw [stays, stays, if_neg below]

/-- What holds in the beginning and is kept by the turns below the bound. -/
theorem climb_invariant (start : P initial) (keeps : ∀ y, P y → y < bound → P (step y))
    (turns : ℕ) : P (climb step bound turns initial) := by
  induction turns with
  | zero => exact start
  | succ turns ih =>
    rw [climb_succ]
    split
    · next below => exact keeps _ ih below
    · exact ih

theorem climb_monotone (start : P initial) (keeps : ∀ y, P y → y < bound → P (step y))
    (rises : ∀ y, P y → y < bound → y ≤ step y) :
    Monotone fun turns => climb step bound turns initial := by
  apply monotone_nat_of_le_succ
  intro turns
  rw [climb_succ]
  split
  · next below => exact rises _ (climb_invariant start keeps turns) below
  · exact le_refl _

theorem capped_le (step : α → α) (bound : α) (turns : ℕ) (initial : α) :
    capped step bound turns initial ≤ bound := min_le_right _ _

/-- A loop that begins at the bound or above takes no turn. -/
theorem capped_of_le (reached : bound ≤ initial) (turns : ℕ) :
    capped step bound turns initial = bound := by
  have stays : climb step bound turns initial = initial := by
    cases turns with
    | zero => rfl
    | succ turns => exact if_neg (not_lt.mpr reached)
  unfold capped
  rw [stays, min_eq_right reached]

/-- **More turns do not lower what is returned.** -/
theorem capped_monotone (start : P initial) (keeps : ∀ y, P y → y < bound → P (step y))
    (rises : ∀ y, P y → y < bound → y ≤ step y) :
    Monotone fun turns => capped step bound turns initial :=
  fun _ _ more => min_le_min_right bound (climb_monotone start keeps rises more)

/-- Only then: the first turn does not lower the value. -/
theorem le_step_of_capped_monotone
    (monotone : Monotone fun turns => capped step bound turns initial) (below : initial < bound) :
    initial ≤ step initial := by
  have turn : climb step bound 1 initial = step initial := if_pos below
  have first : capped step bound 0 initial ≤ capped step bound 1 initial := monotone (Nat.zero_le 1)
  unfold capped at first
  rw [turn] at first
  exact (le_min le_rfl below.le).trans (first.trans (min_le_left _ _))

/-- What is returned after one more turn, when the turn does not go down from the bound. -/
theorem capped_succ (turns : ℕ)
    (stays : bound ≤ climb step bound turns initial → bound ≤ step bound) :
    capped step bound (turns + 1) initial = min (step (capped step bound turns initial)) bound := by
  unfold capped
  rw [climb_succ]
  split
  · next below => rw [min_eq_left below.le]
  · next reached =>
    have above := not_lt.mp reached
    rw [min_eq_right above, min_eq_right (stays above)]

end Loop

/-! ### Natural numbers -/

variable {step : ℕ → ℕ} {bound goal initial : ℕ} {P : ℕ → Prop}

/-- **The goal is reached**, one step at least with each turn. -/
theorem le_climb (within : goal ≤ bound) (start : P initial)
    (keeps : ∀ y, P y → y < bound → P (step y)) (rises : ∀ y, P y → y < bound → y ≤ step y)
    (gains : ∀ y, P y → y < goal → y < step y) (turns : ℕ) :
    min goal (initial + turns) ≤ climb step bound turns initial := by
  induction turns with
  | zero => exact min_le_right _ _
  | succ turns ih =>
    have holds := climb_invariant start keeps turns
    rw [climb_succ]
    split
    · next below =>
      have up := rises _ holds below
      by_cases short : climb step bound turns initial < goal
      · have more := gains _ holds short
        omega
      · omega
    · omega

end Climb
