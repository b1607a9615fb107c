/-
**Sharing out an amount among wallets.**

* `share` — the mean of all balances and the amount, rounded down. `fairAmount` tops a wallet up to it,
  as far as the amount goes, and never lifts it above (`balance_add_fairAmount_le`).
* `countedAmount` — the same computed over a list, each entry for itself.
* `countedAmount_of_nodup`, `complete_of_counted` — a list gives the fair amounts for all balances
  exactly when it has every wallet once.
-/

import Mathlib.Algebra.BigOperators.Group.Finset.Piecewise
import Mathlib.Algebra.GroupWithZero.Nat
import Mathlib.Data.Finset.Card
import Mathlib.Tactic.Common

namespace FairShare

variable {W : Type}

/-- The fair share of each of the wallets. -/
def share (wallets : Finset W) (balance : W → ℕ) (available : ℕ) : ℕ :=
  (∑ w ∈ wallets, balance w + available) / wallets.card

/-- What a wallet is given to reach its share. -/
def fairAmount (wallets : Finset W) (balance : W → ℕ) (available : ℕ) (wallet : W) : ℕ :=
  min available (share wallets balance available - balance wallet)

/-- **Nothing is lifted above its share.** -/
theorem balance_add_fairAmount_le (wallets : Finset W) (balance : W → ℕ) (available : ℕ)
    (wallet : W) :
    balance wallet + fairAmount wallets balance available wallet ≤
      max (balance wallet) (share wallets balance available) := by
  have deficit : fairAmount wallets balance available wallet ≤ _ := Nat.min_le_right _ _
  omega

/-- The amount over a list of wallets. -/
def countedAmount (list : List W) (balance : W → ℕ) (available : ℕ) (wallet : W) : ℕ :=
  min available (((list.map balance).sum + available) / list.length - balance wallet)

/-- Every wallet once. -/
theorem countedAmount_of_nodup [DecidableEq W] {list : List W} (nodup : list.Nodup)
    (balance : W → ℕ) :
    countedAmount list balance = fairAmount list.toFinset balance := by
  funext available wallet
  unfold countedAmount fairAmount share
  rw [List.sum_toFinset balance nodup, List.toFinset_card_of_nodup nodup]

section Complete

variable {list : List W} {wallets : Finset W} {wallet : W}

/-- The list has as many entries as there are wallets, for empty wallets tell. -/
theorem length_of_counted (member : wallet ∈ list) (known : wallet ∈ wallets)
    (same : ∀ available ≤ list.length,
      countedAmount list (fun _ => 0) available wallet =
        fairAmount wallets (fun _ => 0) available wallet) :
    list.length = wallets.card := by
  have entries : 0 < list.length := List.length_pos_of_mem member
  have several : 0 < wallets.card := Finset.card_pos.mpr ⟨wallet, known⟩
  have equal := same (min list.length wallets.card) (Nat.min_le_left _ _)
  have counted : (list.map fun _ => 0).sum = 0 :=
    List.sum_eq_zero fun b within => by
      obtain ⟨_, _, rfl⟩ := List.mem_map.mp within
      rfl
  unfold countedAmount fairAmount share at equal
  rw [counted, Finset.sum_const_zero, Nat.zero_add, Nat.sub_zero, Nat.sub_zero] at equal
  rcases Nat.lt_trichotomy list.length wallets.card with less | here | more
  · rw [Nat.min_eq_left less.le, Nat.div_self entries, Nat.div_eq_of_lt less] at equal
    omega
  · exact here
  · rw [Nat.min_eq_right more.le, Nat.div_self several, Nat.div_eq_of_lt more] at equal
    omega

variable [DecidableEq W]

/-- No wallet is left out, for its balance would not be counted. -/
theorem subset_of_counted (member : wallet ∈ list) (known : wallet ∈ wallets)
    (length : list.length = wallets.card)
    (same : ∀ balance : W → ℕ, ∑ w ∈ wallets, balance w + 1 ≤ list.length →
      countedAmount list balance 1 wallet = fairAmount wallets balance 1 wallet) :
    wallets ⊆ list.toFinset := by
  intro w here
  by_contra missing
  rw [List.mem_toFinset] at missing
  have other : wallet ≠ w := fun equal => missing (equal ▸ member)
  have two : 1 < wallets.card := Finset.one_lt_card.mpr ⟨wallet, known, w, here, other⟩
  let balance : W → ℕ := fun v => if v = w then wallets.card - 1 else 0
  have total : ∑ v ∈ wallets, balance v = wallets.card - 1 := by
    rw [Finset.sum_ite_eq', if_pos here]
  have counted : (list.map balance).sum = 0 := by
    refine List.sum_eq_zero fun b within => ?_
    obtain ⟨v, inside, rfl⟩ := List.mem_map.mp within
    refine if_neg ?_
    rintro rfl
    exact missing inside
  have empty : balance wallet = 0 := if_neg other
  have whole : wallets.card - 1 + 1 = wallets.card := by omega
  have equal := same balance (by rw [total, whole, length])
  unfold countedAmount fairAmount share at equal
  rw [counted, total, empty, length, whole, Nat.zero_add, Nat.div_eq_of_lt two,
    Nat.div_self (by omega)] at equal
  cases equal

/-- **What a list must be** to give the fair amounts. Balances and amounts up to the length of the list
are enough to tell. -/
theorem complete_of_counted (member : wallet ∈ list) (known : wallet ∈ wallets)
    (same : ∀ (balance : W → ℕ) (available : ℕ), available ≤ list.length →
      ∑ w ∈ wallets, balance w + available ≤ list.length →
      countedAmount list balance available wallet = fairAmount wallets balance available wallet) :
    list.Nodup ∧ list.toFinset = wallets := by
  have length : list.length = wallets.card := by
    refine length_of_counted member known fun available within => same _ _ within ?_
    rw [Finset.sum_const_zero, Nat.zero_add]
    exact within
  have subset : wallets ⊆ list.toFinset :=
    subset_of_counted member known length fun balance within =>
      same balance 1 (List.length_pos_of_mem member) within
  have few : list.toFinset.card ≤ wallets.card := by
    rw [← length]
    exact List.toFinset_card_le list
  have whole := Finset.eq_of_subset_of_card_le subset few
  refine ⟨?_, whole.symm⟩
  apply Multiset.coe_nodup.mp
  apply Multiset.toFinset_card_eq_card_iff_nodup.mp
  show list.toFinset.card = list.length
  rw [← whole, length]

end Complete

end FairShare
