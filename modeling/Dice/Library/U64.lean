/-
**Unsigned 64-bit arithmetic on natural numbers.**

A `u64` is a natural number below `2 ^ 64`. Plain addition and subtraction wrap around, as they do in
builds without overflow checks; saturating subtraction is subtraction of natural numbers, and
saturating multiplication stops at `u64::MAX`.

* `sub_of_le` — a plain subtraction that does not wrap.
* `add_of_lt` — a plain addition that does not wrap.
-/

import Mathlib.Tactic.Common
import Mathlib.Algebra.GroupWithZero.Nat

namespace U64

/-- The number of values. -/
abbrev size : ℕ := 2 ^ 64

/-- `u64::MAX`. -/
def max : ℕ := size - 1

/-- `+`. -/
def add (a b : ℕ) : ℕ := (a + b) % size

/-- `-`. -/
def sub (a b : ℕ) : ℕ := (a + size - b) % size

/-- `saturating_mul`. -/
def saturatingMul (a b : ℕ) : ℕ := min (a * b) max

variable {a b : ℕ}

theorem sub_lt (a b : ℕ) : sub a b < size := Nat.mod_lt _ (by decide)

theorem add_of_lt (small : a + b < size) : add a b = a + b := Nat.mod_eq_of_lt small

/-- A subtraction that does not wrap. -/
theorem sub_of_le (inside : a < size) (le : b ≤ a) : sub a b = a - b := by
  unfold sub
  rw [Nat.sub_add_comm le, Nat.add_mod_right]
  exact Nat.mod_eq_of_lt (Nat.lt_of_le_of_lt (Nat.sub_le a b) inside)

theorem saturatingMul_le_max (a b : ℕ) : saturatingMul a b ≤ max := Nat.min_le_right _ _

theorem saturatingMul_le_mul (a b : ℕ) : saturatingMul a b ≤ a * b := Nat.min_le_left _ _

end U64
