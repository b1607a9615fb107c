/-
**A setting that follows a cost, with a tolerance.**

For every cost there is a band of settings, and a target within it that rises with the cost. A setting is
moved to the target of the present cost when it has left the band, and only then.

* `Bands` — the bands and their targets.
* `lt_of_below`, `lt_of_above` — a setting that was the target for an earlier cost is below the band only
  if the cost has risen since, and above it only if the cost has fallen.
-/

import Mathlib.Order.Lattice
import Mathlib.Tactic.Common

namespace ToleranceBand

variable {C S : Type} [LinearOrder C] [LinearOrder S]

structure Bands (C S : Type) [LinearOrder C] [LinearOrder S] where
  low : C → S
  target : C → S
  high : C → S
  low_le : ∀ cost, low cost ≤ target cost
  le_high : ∀ cost, target cost ≤ high cost
  mono : ∀ cost cost', cost ≤ cost' → target cost ≤ target cost'

namespace Bands

variable {bands : Bands C S} {cost cost' : C}

/-- **Below the band**: the cost has risen. -/
theorem lt_of_below (below : bands.target cost < bands.low cost') : cost < cost' := by
  by_contra not_risen
  have target := bands.mono cost' cost (le_of_not_gt not_risen)
  exact absurd below (not_lt_of_ge (le_trans (bands.low_le cost') target))

/-- **Above the band**: the cost has fallen. -/
theorem lt_of_above (above : bands.high cost' < bands.target cost) : cost' < cost := by
  by_contra not_fallen
  have target := bands.mono cost cost' (le_of_not_gt not_fallen)
  exact absurd above (not_lt_of_ge (le_trans target (bands.le_high cost')))

end Bands

end ToleranceBand
