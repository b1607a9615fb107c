/-
**The escalation of fees.**

A reveal is submitted with a percentage of the estimated fee, which grows with each retry up to a cap.

* `EscalationPolicy.getFeeMultiplierPct` — the percentage after some retries; the loop is a
  `Climb.capped`, and one turn of it a saturating multiplication and a truncating division.
* `escalates` — it is at most the cap, and with a multiplier of at least 100 it never goes down.
* `monotone_iff` — it goes down exactly for a multiplier below 100 and a cap above 100.
* `getFeeMultiplierPct_succ` — each retry multiplies the percentage of the one before.
* `getFeeMultiplierPct_eq_of_le` — a multiplier above 100 reaches the cap, or else `ceiling`, which is
  the largest percentage that the saturating product leaves.
-/

import Dice.Library.Climb
import Dice.Library.U64

namespace Dice

open Climb

/-! ### The policy -/

/-- `EscalationPolicy`. Both are percentages. -/
structure EscalationPolicy where
  feeMultiplierPct : ℕ
  feeMultiplierCapPct : ℕ
  deriving DecidableEq, Repr

def defaultFeeMultiplierPct : ℕ := 110

def defaultFeeMultiplierCapPct : ℕ := 200

/-- `EscalationPolicyConfig`; each field may be left out. -/
structure EscalationPolicyConfig where
  feeMultiplierPct : ℕ := defaultFeeMultiplierPct
  feeMultiplierCapPct : ℕ := defaultFeeMultiplierCapPct
  deriving DecidableEq, Repr

instance : Inhabited EscalationPolicyConfig := ⟨{}⟩

/-- `to_policy`. -/
def EscalationPolicyConfig.toPolicy (config : EscalationPolicyConfig) : EscalationPolicy where
  feeMultiplierPct := config.feeMultiplierPct
  feeMultiplierCapPct := config.feeMultiplierCapPct

namespace EscalationPolicy

/-- One turn of the loop. -/
def multiplied (multiplier current : ℕ) : ℕ := U64.saturatingMul current multiplier / 100

/-- `apply_escalation_policy`. -/
def applyEscalationPolicy (numRetries initial multiplier cap : ℕ) : ℕ :=
  capped (multiplied multiplier) cap numRetries initial

/-- `get_fee_multiplier_pct`. -/
def getFeeMultiplierPct (policy : EscalationPolicy) (numRetries : ℕ) : ℕ :=
  applyEscalationPolicy numRetries 100 policy.feeMultiplierPct policy.feeMultiplierCapPct

/-- What a saturated product leaves after the division. -/
def ceiling : ℕ := U64.max / 100

/-! ### One turn -/

section Turn

variable {multiplier current : ℕ}

/-- However large the product is, the turn ends at the ceiling or below. -/
theorem multiplied_le_ceiling (multiplier current : ℕ) : multiplied multiplier current ≤ ceiling :=
  Nat.div_le_div_right (U64.saturatingMul_le_max current multiplier)

/-- At most the exact product. -/
theorem multiplied_mul_le (multiplier current : ℕ) :
    multiplied multiplier current * 100 ≤ current * multiplier :=
  (Nat.div_mul_le_self _ 100).trans (U64.saturatingMul_le_mul current multiplier)

/-- **A turn does not go down**: up to the ceiling the product has room for `current * 100`, saturated
or not. -/
theorem le_multiplied (raises : 100 ≤ multiplier) (below : current ≤ ceiling) :
    current ≤ multiplied multiplier current := by
  have product : current * 100 ≤ current * multiplier := Nat.mul_le_mul_left current raises
  have room : current * 100 ≤ U64.max := (Nat.le_div_iff_mul_le (by decide)).mp below
  exact (Nat.le_div_iff_mul_le (by decide)).mpr (le_min product room)

/-- Below the ceiling it goes up, from 100 on: what the division cuts off is less than one hundredth. -/
theorem lt_multiplied (raises : 100 < multiplier) (hundred : 100 ≤ current)
    (below : current < ceiling) : current < multiplied multiplier current := by
  have product : (current + 1) * 100 ≤ current * multiplier :=
    calc (current + 1) * 100 = current * 100 + 100 := Nat.succ_mul current 100
      _ ≤ current * 100 + current := Nat.add_le_add_left hundred _
      _ = current * 101 := (Nat.mul_succ current 100).symm
      _ ≤ current * multiplier := Nat.mul_le_mul_left current raises
  have room : (current + 1) * 100 ≤ U64.max := (Nat.le_div_iff_mul_le (by decide)).mp below
  exact (Nat.le_div_iff_mul_le (by decide)).mpr (le_min product room)

end Turn

/-! ### All retries -/

variable (policy : EscalationPolicy)

/-- The value before the cut. -/
def climbed (numRetries : ℕ) : ℕ :=
  climb (multiplied policy.feeMultiplierPct) policy.feeMultiplierCapPct numRetries 100

theorem getFeeMultiplierPct_eq (numRetries : ℕ) :
    policy.getFeeMultiplierPct numRetries =
      min (policy.climbed numRetries) policy.feeMultiplierCapPct := rfl

/-- The invariant of the loop, for every policy. -/
theorem climbed_le_ceiling (numRetries : ℕ) : policy.climbed numRetries ≤ ceiling := by
  apply climb_invariant (P := (· ≤ ceiling))
  · decide
  · intro current _ _
    exact multiplied_le_ceiling _ current

theorem getFeeMultiplierPct_le (numRetries : ℕ) :
    policy.getFeeMultiplierPct numRetries ≤ policy.feeMultiplierCapPct :=
  capped_le _ _ _ _

variable {policy}

theorem getFeeMultiplierPct_monotone (raises : 100 ≤ policy.feeMultiplierPct) :
    Monotone policy.getFeeMultiplierPct := by
  apply capped_monotone (P := (· ≤ ceiling))
  · decide
  · intro current _ _
    exact multiplied_le_ceiling _ current
  · intro current below _
    exact le_multiplied raises below

/-- **The fee is capped, and never goes down.** -/
theorem escalates (policy : EscalationPolicy) :
    (∀ numRetries, policy.getFeeMultiplierPct numRetries ≤ policy.feeMultiplierCapPct) ∧
      (100 ≤ policy.feeMultiplierPct → Monotone policy.getFeeMultiplierPct) :=
  ⟨policy.getFeeMultiplierPct_le, getFeeMultiplierPct_monotone⟩

/-- With the largest multiplier and the largest cap, where the first product saturates. -/
theorem escalates_saturated :
    (∀ numRetries, getFeeMultiplierPct ⟨U64.max, U64.max⟩ numRetries ≤ U64.max) ∧
      Monotone (getFeeMultiplierPct ⟨U64.max, U64.max⟩) :=
  ⟨(escalates ⟨U64.max, U64.max⟩).1, (escalates ⟨U64.max, U64.max⟩).2 (by decide)⟩

/-- A cap of 100 or less is returned at once. -/
theorem getFeeMultiplierPct_of_cap_le (low : policy.feeMultiplierCapPct ≤ 100) (numRetries : ℕ) :
    policy.getFeeMultiplierPct numRetries = policy.feeMultiplierCapPct :=
  capped_of_le low numRetries

/-- **Exactly when it never goes down.** -/
theorem monotone_iff :
    Monotone policy.getFeeMultiplierPct ↔
      100 ≤ policy.feeMultiplierPct ∨ policy.feeMultiplierCapPct ≤ 100 := by
  constructor
  · intro monotone
    by_cases low : policy.feeMultiplierCapPct ≤ 100
    · exact .inr low
    · have up := le_step_of_capped_monotone monotone (Nat.lt_of_not_le low)
      have exact_product := multiplied_mul_le policy.feeMultiplierPct 100
      exact .inl (by omega)
  · rintro (raises | low)
    · exact getFeeMultiplierPct_monotone raises
    · intro few many _
      have same := getFeeMultiplierPct_of_cap_le low
      rw [same few, same many]

/-- **Each retry multiplies the percentage of the one before**, up to the cap. -/
theorem getFeeMultiplierPct_succ (raises : 100 ≤ policy.feeMultiplierPct) (numRetries : ℕ) :
    policy.getFeeMultiplierPct (numRetries + 1) =
      min (multiplied policy.feeMultiplierPct (policy.getFeeMultiplierPct numRetries))
        policy.feeMultiplierCapPct := by
  apply capped_succ
  intro reached
  exact le_multiplied raises (reached.trans (policy.climbed_le_ceiling numRetries))

/-- The first attempt pays the estimate, when the cap allows it. -/
theorem getFeeMultiplierPct_zero : policy.getFeeMultiplierPct 0 = min 100 policy.feeMultiplierCapPct :=
  rfl

/-- Never more than the exact powers of the multiplier. -/
theorem getFeeMultiplierPct_mul_pow_le (raises : 100 ≤ policy.feeMultiplierPct) (numRetries : ℕ) :
    policy.getFeeMultiplierPct numRetries * 100 ^ numRetries ≤
      100 * policy.feeMultiplierPct ^ numRetries := by
  induction numRetries with
  | zero =>
    rw [Nat.pow_zero, Nat.pow_zero]
    exact Nat.mul_le_mul_right 1 (Nat.min_le_left _ _)
  | succ numRetries ih =>
    have turn : policy.getFeeMultiplierPct (numRetries + 1) * 100 ≤
        policy.getFeeMultiplierPct numRetries * policy.feeMultiplierPct := by
      rw [getFeeMultiplierPct_succ raises]
      exact (Nat.mul_le_mul_right 100 (Nat.min_le_left _ _)).trans (multiplied_mul_le _ _)
    calc policy.getFeeMultiplierPct (numRetries + 1) * 100 ^ (numRetries + 1)
        = policy.getFeeMultiplierPct (numRetries + 1) * 100 * 100 ^ numRetries := by
          rw [Nat.pow_succ', Nat.mul_assoc]
      _ ≤ policy.getFeeMultiplierPct numRetries * policy.feeMultiplierPct * 100 ^ numRetries :=
          Nat.mul_le_mul_right _ turn
      _ = policy.getFeeMultiplierPct numRetries * 100 ^ numRetries * policy.feeMultiplierPct :=
          Nat.mul_right_comm _ _ _
      _ ≤ 100 * policy.feeMultiplierPct ^ numRetries * policy.feeMultiplierPct :=
          Nat.mul_le_mul_right _ ih
      _ = 100 * policy.feeMultiplierPct ^ (numRetries + 1) := by
          rw [Nat.pow_succ, Nat.mul_assoc]

/-- **The cap is reached**, after at most as many retries as it is above 100. A cap above the ceiling is
not: the percentage stays at the ceiling. -/
theorem getFeeMultiplierPct_eq_of_le (raises : 100 < policy.feeMultiplierPct) {numRetries : ℕ}
    (many : min policy.feeMultiplierCapPct ceiling ≤ 100 + numRetries) :
    policy.getFeeMultiplierPct numRetries = min policy.feeMultiplierCapPct ceiling := by
  have reached : min (min policy.feeMultiplierCapPct ceiling) (100 + numRetries) ≤
      policy.climbed numRetries := by
    apply le_climb (P := fun current => 100 ≤ current ∧ current ≤ ceiling)
    · exact Nat.min_le_left _ _
    · decide
    · intro current ⟨hundred, below⟩ _
      exact ⟨hundred.trans (le_multiplied raises.le below), multiplied_le_ceiling _ current⟩
    · intro current ⟨_, below⟩ _
      exact le_multiplied raises.le below
    · intro current ⟨hundred, _⟩ short
      exact lt_multiplied raises hundred (short.trans_le (Nat.min_le_right _ _))
  have below := policy.climbed_le_ceiling numRetries
  rw [getFeeMultiplierPct_eq]
  omega

/-- The default policy doubles the fee in eight retries. -/
example : (List.range 10).map (default : EscalationPolicyConfig).toPolicy.getFeeMultiplierPct =
    [100, 110, 121, 133, 146, 160, 176, 193, 200, 200] := by decide

end EscalationPolicy

end Dice
