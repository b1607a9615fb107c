/-
**A mark that only rises.**

A mark has a position, and the value there. Raising it to a place further on moves it, and raising it to
any other place leaves it alone.

* `IsTop` — where a mark stands after it was raised to each of a list of places: at the furthest of
  them, or where it was.
* `raiseAll_isTop` — it gets there.
* `raiseAll_congr` — when a position has one value, neither the order of the places nor their
  repetition matters.
-/

import Mathlib.Order.Lattice
import Mathlib.Data.List.Basic

namespace HighWater

variable {P B : Type} [LinearOrder P]

structure Mark (P B : Type) where
  position : P
  value : B
  deriving DecidableEq, Repr

namespace Mark

/-- The mark is raised to a place. -/
def raise (mark place : Mark P B) : Mark P B :=
  if mark.position < place.position then place else mark

/-- It is raised to each of a list of places. -/
def raiseAll (mark : Mark P B) (places : List (Mark P B)) : Mark P B := places.foldl raise mark

/-- **Where the mark stands in the end.** -/
structure IsTop (mark : Mark P B) (places : List (Mark P B)) (top : Mark P B) : Prop where
  above : mark.position ≤ top.position
  reaches : ∀ place ∈ places, place.position ≤ top.position
  origin : top = mark ∨ top ∈ places ∧ mark.position < top.position

/-- Each position has one value. -/
def Consistent (places : List (Mark P B)) : Prop :=
  ∀ first ∈ places, ∀ second ∈ places, first.position = second.position → first = second

section Raising

variable {mark place top top' : Mark P B} {places places' : List (Mark P B)}

theorem le_raise (mark place : Mark P B) : mark.position ≤ (mark.raise place).position := by
  unfold raise
  split
  · next higher => exact le_of_lt higher
  · exact le_refl _

theorem place_le_raise (mark place : Mark P B) : place.position ≤ (mark.raise place).position := by
  unfold raise
  split
  · exact le_refl _
  · next lower => exact le_of_not_gt lower

/-- One place more. -/
theorem IsTop.cons (isTop : IsTop (mark.raise place) places top) :
    IsTop mark (place :: places) top where
  above := le_trans (le_raise mark place) isTop.above
  reaches := by
    intro other member
    rcases List.mem_cons.mp member with rfl | member
    · exact le_trans (place_le_raise mark other) isTop.above
    · exact isTop.reaches other member
  origin := by
    rcases isTop.origin with rfl | ⟨member, higher⟩
    · unfold raise
      split
      · next higher => exact .inr ⟨List.mem_cons_self, higher⟩
      · exact .inl rfl
    · exact .inr ⟨List.mem_cons_of_mem _ member, lt_of_le_of_lt (le_raise mark place) higher⟩

theorem raiseAll_isTop (mark : Mark P B) (places : List (Mark P B)) :
    IsTop mark places (mark.raiseAll places) := by
  induction places generalizing mark with
  | nil => exact ⟨le_refl _, fun _ member => absurd member List.not_mem_nil, .inl rfl⟩
  | cons place places ih => exact (ih (mark.raise place)).cons

/-- The two ends are as far. -/
theorem IsTop.position_le (isTop : IsTop mark places top) (isTop' : IsTop mark places top') :
    top.position ≤ top'.position := by
  rcases isTop.origin with rfl | ⟨member, _⟩
  · exact isTop'.above
  · exact isTop'.reaches top member

theorem IsTop.unique (consistent : Consistent places) (isTop : IsTop mark places top)
    (isTop' : IsTop mark places top') : top = top' := by
  have same : top.position = top'.position :=
    le_antisymm (isTop.position_le isTop') (isTop'.position_le isTop)
  rcases isTop.origin with rfl | ⟨member, higher⟩
  · rcases isTop'.origin with here | ⟨_, higher⟩
    · exact here.symm
    · exact absurd same (ne_of_lt higher)
  · rcases isTop'.origin with rfl | ⟨member', _⟩
    · exact absurd same.symm (ne_of_lt higher)
    · exact consistent top member top' member' same

theorem IsTop.congr (same : ∀ place, place ∈ places ↔ place ∈ places')
    (isTop : IsTop mark places top) : IsTop mark places' top where
  above := isTop.above
  reaches place member := isTop.reaches place ((same place).mpr member)
  origin := isTop.origin.imp_right fun ⟨member, higher⟩ => ⟨(same top).mp member, higher⟩

/-- **Only the set of places matters.** -/
theorem raiseAll_congr (consistent : Consistent places)
    (same : ∀ place, place ∈ places ↔ place ∈ places') :
    mark.raiseAll places = mark.raiseAll places' :=
  (raiseAll_isTop mark places).unique consistent
    ((raiseAll_isTop mark places').congr fun place => (same place).symm)

/-- The position reached is the largest. -/
theorem raiseAll_position (mark : Mark P B) (places : List (Mark P B)) :
    (mark.raiseAll places).position = (places.map position).foldl max mark.position := by
  induction places generalizing mark with
  | nil => rfl
  | cons place places ih =>
    have step : (mark.raise place).position = max mark.position place.position := by
      unfold raise
      split
      · next higher => exact (max_eq_right (le_of_lt higher)).symm
      · next lower => exact (max_eq_left (le_of_not_gt lower)).symm
    have rest := ih (mark.raise place)
    rw [step] at rest
    exact rest

end Raising

end Mark

end HighWater
