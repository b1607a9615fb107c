/-
**The withdrawal of fees.**

One turn of `withdraw_fees_wrapper` tops up the fee manager and then the keeper, each up to a fair share
of all balances and of the accrued fees.

* `calculateFairFeeWithdrawalAmount`, `withdrawFeesIfNecessary` — the amount, and whether it is
  withdrawn. It is never more than the fees (`calculateFairFeeWithdrawalAmount_le`).
* `FeeConfig.amount`, `FeeConfig.topUp` — the two top-ups, with the wallets that the wrapper lists.
* `fairAt_iff` — for any fees, the amount is the fair one for all balances exactly if there are no fees,
  or for the keeper's top-up and with different addresses in the configuration.

The list of the wrapper ends with the fee manager and leaves out the keeper. That is right for the
keeper's top-up; the fee manager's counts the fee manager twice and this keeper not at all.
-/

import Mathlib.Algebra.Order.BigOperators.Group.List
import Mathlib.Algebra.Order.Group.Nat
import Mathlib.Data.List.Duplicate
import Dice.Library.FairShare
import Dice.Service.Events

namespace Dice

open FairShare

/-! ### One top-up -/

/-- Why a withdrawal fails: the node answers with an error, or a sum of `U256` overflows and panics. -/
inductive FeeError where
  /-- "Error while getting balance." -/
  | balance (error : RpcError)
  /-- "Error while getting provider info." -/
  | providerInfo (error : RpcError)
  /-- "Error while getting current keeper balance." -/
  | currentBalance (error : RpcError)
  /-- "Error while getting keeper balance for ..." -/
  | keeperBalance (address : Address) (error : RpcError)
  | overflow
  deriving DecidableEq

/-- What the node answers: balances, and `accrued_fees_in_wei` of the provider, a `uint128`. -/
structure FeeNode where
  getBalance : Address → Except RpcError ℕ
  accruedFeesInWei : Except RpcError ℕ

/-- `+` of `U256`. -/
def addU256 (a b : ℕ) : Except FeeError ℕ :=
  if a + b < 2 ^ 256 then .ok (a + b) else .error .overflow

/-- The loop over the other keepers. -/
def addBalances (getBalance : Address → Except RpcError ℕ) :
    List Address → ℕ → Except FeeError ℕ
  | [], totalFunds => .ok totalFunds
  | address :: addresses, totalFunds => do
      let balance ← (getBalance address).mapError (FeeError.keeperBalance address)
      let totalFunds ← addU256 totalFunds balance
      addBalances getBalance addresses totalFunds

/-- `calculate_fair_fee_withdrawal_amount`. -/
def calculateFairFeeWithdrawalAmount (getBalance : Address → Except RpcError ℕ)
    (keeperAddress : Address) (otherKeeperAddresses : List Address) (availableFees : ℕ) :
    Except FeeError ℕ :=
  if availableFees = 0 then .ok 0
  else if otherKeeperAddresses = [] then .ok availableFees
  else do
    let currentBalance ← (getBalance keeperAddress).mapError FeeError.currentBalance
    let totalFunds ← addU256 currentBalance availableFees
    let totalFunds ← addBalances getBalance otherKeeperAddresses totalFunds
    let fairShare := totalFunds / (otherKeeperAddresses.length + 1)
    if currentBalance < fairShare then
      let deficit := fairShare - currentBalance
      pure (min deficit availableFees)
    else pure 0

/-- What is submitted: `withdraw_as_fee_manager`, and then a transfer to the keeper unless it is the
fee manager. -/
structure Withdrawal where
  amount : ℕ
  transferred : Bool
  deriving DecidableEq

/-- `withdraw_fees_if_necessary`, up to its transactions. -/
def withdrawFeesIfNecessary (node : FeeNode) (feeManager keeperAddress : Address)
    (otherKeeperAddresses : List Address) (minBalance : ℕ) : Except FeeError (Option Withdrawal) := do
  let keeperBalance ← (node.getBalance keeperAddress).mapError FeeError.balance
  if minBalance ≤ keeperBalance then pure none
  else
    let availableFees ← node.accruedFeesInWei.mapError FeeError.providerInfo
    let withdrawalAmount ← calculateFairFeeWithdrawalAmount node.getBalance keeperAddress
      otherKeeperAddresses availableFees
    -- `as_u128` keeps the amount, for it is at most the fees
    if withdrawalAmount < keeperBalance then pure none
    else pure (some ⟨withdrawalAmount, feeManager ≠ keeperAddress⟩)

/-! ### The two top-ups -/

/-- What `withdraw_fees_wrapper` is given. -/
structure FeeConfig where
  feeManager : Address
  keeper : Address
  others : List Address
  /-- A `Vec` has fewer elements than this. -/
  short : others.length < 2 ^ 63

inductive TopUp where
  | feeManager
  | keeper
  deriving DecidableEq, Repr

namespace FeeConfig

variable (config : FeeConfig)

/-- The wallet that is topped up. -/
def target : TopUp → Address
  | .feeManager => config.feeManager
  | .keeper => config.keeper

/-- `other_keepers_and_fee_mgr`, for both. -/
def otherKeepersAndFeeMgr : List Address := config.others ++ [config.feeManager]

/-- The amount of a top-up. -/
def amount (which : TopUp) (getBalance : Address → Except RpcError ℕ) (availableFees : ℕ) :
    Except FeeError ℕ :=
  calculateFairFeeWithdrawalAmount getBalance (config.target which) config.otherKeepersAndFeeMgr
    availableFees

/-- A top-up of `withdraw_fees_wrapper`. -/
def topUp (minBalance : ℕ) (which : TopUp) (node : FeeNode) : Except FeeError (Option Withdrawal) :=
  withdrawFeesIfNecessary node config.feeManager (config.target which) config.otherKeepersAndFeeMgr
    minBalance

/-- The distinct wallets. -/
def wallets : Finset Address := (config.keeper :: config.feeManager :: config.others).toFinset

/-- **A fair split**: the amount is the one that is fair among the distinct wallets, and what is withdrawn
lifts nothing above its share. -/
structure FairAt (which : TopUp) (balance : Address → ℕ) (availableFees : ℕ) : Prop where
  amount : config.amount which (fun w => .ok (balance w)) availableFees =
    .ok (fairAmount config.wallets balance availableFees (config.target which))
  within : ∀ minBalance withdrawal,
    config.topUp minBalance which ⟨fun w => .ok (balance w), .ok availableFees⟩ =
      .ok (some withdrawal) →
    balance (config.target which) + withdrawal.amount ≤
      max (balance (config.target which)) (share config.wallets balance availableFees)

end FeeConfig

section Amounts

variable {balance : Address → ℕ} {availableFees : ℕ}

/-- Sums overflow when the whole sum does. -/
theorem addU256_assoc (a b c : ℕ) :
    (addU256 a b >>= fun total => addU256 total c) = addU256 a (b + c) := by
  unfold addU256
  by_cases fits : a + b < 2 ^ 256
  · rw [if_pos fits]
    show (if a + b + c < 2 ^ 256 then _ else _) = _
    rw [Nat.add_assoc]
  · have more : ¬ a + (b + c) < 2 ^ 256 := by omega
    rw [if_neg fits, if_neg more]
    rfl

/-- **The loop** adds every balance. -/
theorem addBalances_eq (addresses : List Address) (a b : ℕ) :
    (addU256 a b >>= addBalances (fun w => .ok (balance w)) addresses) =
      addU256 a (b + (addresses.map balance).sum) := by
  induction addresses generalizing a b with
  | nil =>
    rw [List.map_nil, List.sum_nil, Nat.add_zero]
    exact bind_pure (addU256 a b)
  | cons address addresses ih =>
    rw [List.map_cons, List.sum_cons, ← addU256_assoc]
    refine congrArg (addU256 a b >>= ·) ?_
    funext total
    exact ih total (balance address)

/-- **The amount**: over the wallet and the list, each entry for itself. -/
theorem calculateFairFeeWithdrawalAmount_eq {wallet : Address} {others : List Address}
    (some_fees : availableFees ≠ 0) (some_others : others ≠ []) :
    calculateFairFeeWithdrawalAmount (fun w => .ok (balance w)) wallet others availableFees =
      if ((wallet :: others).map balance).sum + availableFees < 2 ^ 256 then
        .ok (countedAmount (wallet :: others) balance availableFees wallet)
      else .error .overflow := by
  unfold calculateFairFeeWithdrawalAmount
  rw [if_neg some_fees, if_neg some_others]
  show (addU256 (balance wallet) availableFees >>= fun totalFunds =>
    addBalances (fun w => .ok (balance w)) others totalFunds >>= fun totalFunds =>
      if balance wallet < totalFunds / (others.length + 1) then
        pure (min (totalFunds / (others.length + 1) - balance wallet) availableFees)
      else pure 0) = _
  rw [← bind_assoc, addBalances_eq, Nat.add_comm availableFees, List.map_cons, List.sum_cons,
    Nat.add_assoc (balance wallet)]
  unfold addU256
  split
  · next fits =>
    show (if _ then _ else _) = _
    unfold countedAmount
    rw [List.map_cons, List.sum_cons, List.length_cons, Nat.add_assoc (balance wallet)]
    split
    · rw [Nat.min_comm]
      rfl
    · next reached =>
      rw [Nat.sub_eq_zero_of_le (Nat.le_of_not_lt reached), Nat.min_zero]
      rfl
  · rfl

/-- **No more than the fees** is withdrawn, whatever the node answers. -/
theorem calculateFairFeeWithdrawalAmount_le {getBalance : Address → Except RpcError ℕ}
    {wallet : Address} {others : List Address} {withdrawalAmount : ℕ}
    (computed : calculateFairFeeWithdrawalAmount getBalance wallet others availableFees =
      .ok withdrawalAmount) : withdrawalAmount ≤ availableFees := by
  unfold calculateFairFeeWithdrawalAmount at computed
  split at computed
  · cases computed
    exact Nat.zero_le _
  · split at computed
    · cases computed
      exact Nat.le_refl _
    · obtain ⟨currentBalance, _, computed⟩ := bind_ok.mp computed
      obtain ⟨_, _, computed⟩ := bind_ok.mp computed
      obtain ⟨totalFunds, _, computed⟩ := bind_ok.mp computed
      dsimp only at computed
      split at computed
      · cases computed
        exact Nat.min_le_right _ _
      · cases computed
        exact Nat.zero_le _

/-- What is withdrawn is the amount. -/
theorem withdrawFeesIfNecessary_withdraws {node : FeeNode} {feeManager wallet : Address}
    {others : List Address} {minBalance : ℕ} {withdrawal : Withdrawal}
    (accrued : node.accruedFeesInWei = .ok availableFees)
    (withdrawn : withdrawFeesIfNecessary node feeManager wallet others minBalance =
      .ok (some withdrawal)) :
    calculateFairFeeWithdrawalAmount node.getBalance wallet others availableFees =
      .ok withdrawal.amount := by
  unfold withdrawFeesIfNecessary at withdrawn
  obtain ⟨keeperBalance, _, withdrawn⟩ := bind_ok.mp withdrawn
  split at withdrawn
  · cases withdrawn
  · rw [accrued] at withdrawn
    obtain ⟨_, answered, withdrawn⟩ := bind_ok.mp withdrawn
    cases answered
    obtain ⟨withdrawalAmount, computed, withdrawn⟩ := bind_ok.mp withdrawn
    split at withdrawn
    · cases withdrawn
    · cases withdrawn
      exact computed

end Amounts

/-! ### Fair splits -/

namespace FeeConfig

variable {config : FeeConfig} {which : TopUp} {balance : Address → ℕ} {availableFees : ℕ}

/-- The wallets that a top-up counts. -/
def counted (config : FeeConfig) (which : TopUp) : List Address :=
  config.target which :: config.otherKeepersAndFeeMgr

theorem fairAt_of_amount
    (fair : config.amount which (fun w => .ok (balance w)) availableFees =
      .ok (fairAmount config.wallets balance availableFees (config.target which))) :
    config.FairAt which balance availableFees := by
  refine ⟨fair, fun minBalance withdrawal withdrawn => ?_⟩
  have computed := withdrawFeesIfNecessary_withdraws rfl withdrawn
  have same := Except.ok.inj (computed.symm.trans fair)
  rw [same]
  exact balance_add_fairAmount_le _ _ _ _

theorem amount_eq (some_fees : availableFees ≠ 0) :
    config.amount which (fun w => .ok (balance w)) availableFees =
      if ((config.counted which).map balance).sum + availableFees < 2 ^ 256 then
        .ok (countedAmount (config.counted which) balance availableFees (config.target which))
      else .error .overflow :=
  calculateFairFeeWithdrawalAmount_eq some_fees (List.append_ne_nil_of_right_ne_nil _ (by simp))

/-- Without fees there is nothing to split. -/
theorem fairAt_zero : config.FairAt which balance 0 :=
  fairAt_of_amount (congrArg Except.ok (Nat.zero_min _).symm)

/-- An amount that is fair is the one that is counted. -/
theorem FairAt.counted (fair : config.FairAt which balance availableFees) :
    countedAmount (config.counted which) balance availableFees (config.target which) =
      fairAmount config.wallets balance availableFees (config.target which) := by
  by_cases no_fees : availableFees = 0
  · subst no_fees
    unfold countedAmount fairAmount
    rw [Nat.zero_min, Nat.zero_min]
  · have amount := fair.amount
    rw [amount_eq no_fees] at amount
    split at amount
    · exact Except.ok.inj amount
    · cases amount

/-- The keeper's top-up counts the keeper and then the same wallets. -/
theorem counted_keeper_perm :
    (config.counted .keeper).Perm (config.keeper :: config.feeManager :: config.others) :=
  (List.perm_append_singleton config.feeManager config.others).cons config.keeper

/-- The fee manager's counts the fee manager twice. -/
theorem counted_feeManager_not_nodup : ¬ (config.counted .feeManager).Nodup := by
  intro nodup
  have again : config.feeManager ∈ config.others ++ [config.feeManager] :=
    List.mem_append_right _ (List.mem_singleton_self _)
  exact (List.nodup_cons.mp nodup).1 again

theorem target_mem_wallets : config.target which ∈ config.wallets := by
  unfold wallets
  rw [List.mem_toFinset]
  cases which with
  | feeManager => exact List.mem_cons_of_mem _ List.mem_cons_self
  | keeper => exact List.mem_cons_self

/-- A wallet that is counted twice is a wallet whose balance is added twice, and half of what fits in
256 bits is too much for that. -/
theorem nodup_of_fair (some_fees : availableFees ≠ 0) (uint128 : availableFees < 2 ^ 128)
    (fair : ∀ balance, ∑ w ∈ config.wallets, balance w + availableFees < 2 ^ 256 →
      config.FairAt which balance availableFees) : (config.counted which).Nodup := by
  by_contra repeated
  obtain ⟨wallet, twice⟩ := List.exists_duplicate_iff_not_nodup.mpr repeated
  let balance : Address → ℕ := fun w => if w = wallet then 2 ^ 255 else 0
  have half : ∑ w ∈ config.wallets, balance w ≤ 2 ^ 255 := by
    rw [Finset.sum_ite_eq']
    split
    · exact Nat.le_refl _
    · exact Nat.zero_le _
  have sublist := (List.duplicate_iff_sublist.mp twice).map balance
  have added : [balance wallet, balance wallet].sum ≤ ((config.counted which).map balance).sum :=
    sublist.sum_le_sum fun _ _ => Nat.zero_le _
  have whole : balance wallet = 2 ^ 255 := if_pos rfl
  rw [whole, List.sum_cons, List.sum_singleton] at added
  have amount := (fair balance (by omega)).amount
  rw [amount_eq some_fees, if_neg (by omega)] at amount
  cases amount

/-- **Small balances tell.** Unless every wallet is counted once, the amount is not the fair one for some
balances and fees that are no more than the wallets counted. -/
theorem unfair_of_not_nodup (repeated : ¬ (config.counted which).Nodup) :
    ∃ balance availableFees, ∑ w ∈ config.wallets, balance w + availableFees ≤
        (config.counted which).length ∧
      ¬ config.FairAt which balance availableFees := by
  by_contra fair
  push Not at fair
  have member : config.target which ∈ config.counted which := List.mem_cons_self
  exact repeated (complete_of_counted member target_mem_wallets
    fun balance availableFees _ total => (fair balance availableFees total).counted).1

/-- With different addresses the keeper's top-up is fair unless the sum overflows. -/
theorem fairAt_keeper_iff
    (nodup : (config.keeper :: config.feeManager :: config.others).Nodup) :
    config.FairAt .keeper balance availableFees ↔
      availableFees = 0 ∨ ∑ w ∈ config.wallets, balance w + availableFees < 2 ^ 256 := by
  have once : (config.counted .keeper).Nodup := counted_keeper_perm.nodup_iff.mpr nodup
  have all : (config.counted .keeper).toFinset = config.wallets :=
    List.toFinset_eq_of_perm _ _ counted_keeper_perm
  by_cases no_fees : availableFees = 0
  · subst no_fees
    exact iff_of_true fairAt_zero (.inl rfl)
  · have amount : config.amount .keeper (fun w => .ok (balance w)) availableFees = _ :=
      amount_eq no_fees
    rw [← List.sum_toFinset balance once, countedAmount_of_nodup once, all] at amount
    constructor
    · intro fair
      rw [fair.amount] at amount
      split at amount
      · next fits => exact .inr fits
      · cases amount
    · rintro (nothing | fits)
      · exact absurd nothing no_fees
      · rw [if_pos fits] at amount
        exact fairAt_of_amount amount

end FeeConfig

/-- **Which top-ups are fair.** In every configuration and for any fees: a top-up computes the fair amount
for all balances that fit in 256 bits exactly if there are no fees, or if it is the keeper's and the
addresses of the keeper, the fee manager and the other keepers are all different. Any other top-up is
unfair for some balances and fees of a few wei already; and the keeper's, for different addresses, is
fair exactly where there are no fees or the sum does not overflow. -/
theorem fairAt_iff (config : FeeConfig) (which : TopUp) :
    (∀ availableFees < 2 ^ 128,
      ((∀ balance, ∑ w ∈ config.wallets, balance w + availableFees < 2 ^ 256 →
          config.FairAt which balance availableFees) ↔
        availableFees = 0 ∨
          which = .keeper ∧ (config.keeper :: config.feeManager :: config.others).Nodup)) ∧
    (¬ (which = .keeper ∧ (config.keeper :: config.feeManager :: config.others).Nodup) →
      ∃ balance availableFees, ∑ w ∈ config.wallets, balance w + availableFees ≤
          config.others.length + 2 ∧
        ¬ config.FairAt which balance availableFees) ∧
    ((config.keeper :: config.feeManager :: config.others).Nodup → ∀ balance availableFees,
      (config.FairAt .keeper balance availableFees ↔
        availableFees = 0 ∨ ∑ w ∈ config.wallets, balance w + availableFees < 2 ^ 256)) := by
  have once : (config.counted which).Nodup →
      which = .keeper ∧ (config.keeper :: config.feeManager :: config.others).Nodup := by
    intro nodup
    cases which with
    | feeManager => exact absurd nodup FeeConfig.counted_feeManager_not_nodup
    | keeper => exact ⟨rfl, FeeConfig.counted_keeper_perm.nodup_iff.mp nodup⟩
  refine ⟨fun availableFees uint128 => ⟨fun fair => ?_, ?_⟩, fun other => ?_,
    fun nodup _ _ => FeeConfig.fairAt_keeper_iff nodup⟩
  · by_cases no_fees : availableFees = 0
    · exact .inl no_fees
    · exact .inr (once (FeeConfig.nodup_of_fair no_fees uint128 fair))
  · rintro (rfl | ⟨rfl, nodup⟩) balance fits
    · exact FeeConfig.fairAt_zero
    · exact (FeeConfig.fairAt_keeper_iff nodup).mpr (.inr fits)
  · have length : (config.counted which).length = config.others.length + 2 := by
      unfold FeeConfig.counted FeeConfig.otherKeepersAndFeeMgr
      rw [List.length_cons, List.length_append, List.length_singleton]
    rw [← length]
    exact FeeConfig.unfair_of_not_nodup (mt once other)

namespace Sample

/-- A keeper with six wei, a fee manager with none, and no other keepers. -/
def feeConfig : FeeConfig where
  feeManager := 1
  keeper := 2
  others := []
  short := by decide

def keeperRich (wallet : Address) : ℕ := if wallet = 2 then 6 else 0

end Sample

/-- **The fee manager's top-up** leaves the keeper's six wei out: of two wei of fees it takes one, where
two are fair. -/
theorem feeManager_topUp_unfair :
    Sample.feeConfig.amount .feeManager (fun w => .ok (Sample.keeperRich w)) 2 = .ok 1 ∧
      fairAmount Sample.feeConfig.wallets Sample.keeperRich 2 1 = 2 ∧
      ¬ Sample.feeConfig.FairAt .feeManager Sample.keeperRich 2 := by
  have computed : Sample.feeConfig.amount .feeManager (fun w => .ok (Sample.keeperRich w)) 2 =
      .ok 1 := by
    decide
  have fair : fairAmount Sample.feeConfig.wallets Sample.keeperRich 2 1 = 2 := by decide
  refine ⟨computed, fair, fun split => ?_⟩
  have amount := split.amount
  rw [computed] at amount
  have one : 1 = 2 := (Except.ok.inj amount).trans fair
  cases one

end Dice
