/-
**The threads for fees, on this contract.**

The contract has one fee, which its admin collects. Of a provider it keeps no fees and no fee manager, and
the functions by which a fee manager acts are disabled.

* `FeeLess` — no provider has fees or a fee manager. This is so in every run.
* `feeThreads_idle` — so the adjustment of fees ends early in every turn, a withdrawal is only tried for
  an empty wallet and is one of nothing, and the contract rejects it.
-/

import Dice.Service.FeeUpdates
import Dice.Service.Setup

set_option linter.unusedSectionVars false

namespace Dice

variable {Bytes32 : Type}

/-! ### The records of providers -/

/-- No fees and no fee manager. -/
structure ProviderInfo.FeeLess (p : ProviderInfo Bytes32) : Prop where
  accrued : p.accruedFeesInWei = 0
  manager : p.feeManager = 0

/-- Of every provider. -/
def FeeLess (w : World Bytes32) : Prop := ∀ provider, (w.state.providers provider).FeeLess

section Invariant

variable {K : Keccak Bytes32} [DecidableEq Bytes32] {w w' : World Bytes32}

theorem FeeLess.of_same (feeLess : FeeLess w) (same : w'.state.providers = w.state.providers) :
    FeeLess w' := by
  intro provider
  rw [same]
  exact feeLess provider

/-- A record is replaced by one with the same fees and the same fee manager. -/
theorem FeeLess.setProvider (feeLess : FeeLess w) {provider : Address} {info : ProviderInfo Bytes32}
    (same : info.accruedFeesInWei = (w.state.providers provider).accruedFeesInWei ∧
      info.feeManager = (w.state.providers provider).feeManager)
    (providers : w'.state.providers = (w.state.setProvider provider info).providers) :
    FeeLess w' := by
  intro other
  rw [providers, State.setProvider_providers]
  split
  · exact ⟨same.1.trans (feeLess provider).accrued, same.2.trans (feeLess provider).manager⟩
  · exact feeLess other

theorem FeeLess.accepted (feeLess : FeeLess w) (provider : Address) (n : ℕ) (v : Bytes32) :
    FeeLess (w.accepted provider n v) := by
  refine feeLess.setProvider ?_ rfl
  unfold ProviderInfo.revealedAt
  split
  · exact ⟨rfl, rfl⟩
  · exact ⟨rfl, rfl⟩

theorem Finishes.feeLess {m : Message Bytes32} (feeLess : FeeLess w) (finishes : Finishes K m w w') :
    FeeLess w' := by
  cases finishes with
  | registered _ _ =>
    refine feeLess.setProvider ?_ rfl
    exact ⟨rfl, rfl⟩
  | requested _ _ =>
    refine feeLess.setProvider ?_ rfl
    exact ⟨rfl, rfl⟩
  | @revealed provider n _ v _ _ _ _ _ => exact (feeLess.accepted provider n v).of_same rfl
  | @noCallback provider n _ _ _ v _ _ _ _ _ _ =>
    exact (feeLess.accepted provider n v).of_same rfl
  | refundedNothing _ _ _ => exact feeLess.of_same rfl
  | advanced _ _ =>
    refine feeLess.setProvider ?_ rfl
    exact ⟨rfl, rfl⟩
  | configured _ configures =>
    cases configures with
    | uri _ =>
      refine feeLess.setProvider ?_ rfl
      exact ⟨rfl, rfl⟩
    | maxNumHashes _ =>
      refine feeLess.setProvider ?_ rfl
      exact ⟨rfl, rfl⟩
    | defaultGasLimit _ _ =>
      refine feeLess.setProvider ?_ rfl
      exact ⟨rfl, rfl⟩
  | administered administers => exact feeLess.of_same administers.providers
  | forced _ => exact feeLess.of_same rfl

theorem Calls.feeLess {m : Message Bytes32} {pending : Pending Bytes32} (feeLess : FeeLess w)
    (calls : Calls K m w w' pending) : FeeLess w' := by
  cases calls with
  | @limited provider n _ _ _ _ v _ _ _ _ _ => exact (feeLess.accepted provider n v).of_same rfl
  | @unlimited provider n _ _ _ _ v _ _ _ _ _ => exact (feeLess.accepted provider n v).of_same rfl
  | refund _ _ _ _ _ => exact feeLess.of_same rfl
  | withdrawal _ _ _ _ => exact feeLess.of_same rfl
  | foreign _ => exact feeLess

theorem feeLess_rely (guard : Message Bytes32 → World Bytes32 → Prop) :
    CallStack.Rely (dice K) guard (Sound K) (Evolves K) FeeLess fun _ _ => True :=
  rely_of_invariant (fun _ feeLess _ half => half.feeLess feeLess)
    (fun _ feeLess _ half => half.feeLess feeLess)
    (fun sound feeLess half => feeLess.of_same (half.quiet sound).providers)
    (fun feeLess => feeLess)

theorem constructor_feeLess {d : Deployment Bytes32} (deployed : constructor K d = .ok w) :
    FeeLess w := by
  have empty : FeeLess (d.world K) := fun _ => ⟨rfl, rfl⟩
  rcases constructor_rotated deployed with ⟨_, rfl⟩ | ⟨_, rfl⟩
  · exact empty
  · refine empty.setProvider ?_ rfl
    exact ⟨rfl, rfl⟩

end Invariant

/-! ### The threads -/

section Threads

variable {K : Keccak Bytes32} [DecidableEq Bytes32]

/-- Without fees, the amount to withdraw is nothing. -/
theorem calculateFairFeeWithdrawalAmount_zero {getBalance : Address → Except RpcError ℕ}
    {wallet : Address} {others : List Address} :
    calculateFairFeeWithdrawalAmount getBalance wallet others 0 = .ok 0 := if_pos rfl

/-- **A withdrawal of nothing**, which is tried for an empty wallet. -/
theorem withdrawFeesIfNecessary_zero {getBalance : Address → Except RpcError ℕ}
    {feeManager wallet : Address} {others : List Address} {minBalance : ℕ} {withdrawal : Withdrawal}
    (withdrawn : withdrawFeesIfNecessary ⟨getBalance, .ok 0⟩ feeManager wallet others minBalance =
      .ok (some withdrawal)) : withdrawal.amount = 0 ∧ getBalance wallet = .ok 0 := by
  unfold withdrawFeesIfNecessary at withdrawn
  obtain ⟨keeperBalance, balance, withdrawn⟩ := bind_ok.mp withdrawn
  split at withdrawn
  · cases withdrawn
  · obtain ⟨_, accrued, withdrawn⟩ := bind_ok.mp withdrawn
    cases accrued
    obtain ⟨withdrawalAmount, computed, withdrawn⟩ := bind_ok.mp withdrawn
    rw [calculateFairFeeWithdrawalAmount_zero] at computed
    cases computed
    split at withdrawn
    · cases withdrawn
    · next enough =>
      cases withdrawn
      have empty : keeperBalance = 0 := by omega
      rw [empty] at balance
      exact ⟨rfl, mapError_ok.mp balance⟩

/-- **The threads for fees do nothing.** In every run of the contract, for every provider, every
configuration of the threads and all other answers of the node: an adjustment of the fee finds that its
wallet is not the fee manager, a withdrawal is tried for an empty wallet only and is one of nothing, and
the contract rejects what a fee manager calls. -/
theorem feeThreads_idle {c : Config Bytes32} (reach : Reachable K anyCall c) (provider : Address) :
    (∀ (settings : FeeSettings) (answers : FeeAnswers Bytes32) (marks : FeeMarks), settings.wallet ≠ 0 →
      answers.providerInfo = .ok (c.world.state.providers provider) →
      settings.adjustFeeIfNecessary answers marks = .error (.notFeeManager 0)) ∧
    (∀ (config : FeeConfig) (getBalance : Address → Except RpcError ℕ) (minBalance : ℕ)
      (which : TopUp) (withdrawal : Withdrawal),
      config.topUp minBalance which
          ⟨getBalance, .ok (c.world.state.providers provider).accruedFeesInWei⟩ =
        .ok (some withdrawal) →
      withdrawal.amount = 0 ∧ getBalance (config.target which) = .ok 0) ∧
    ∀ msg : Msg, msg.value = 0 → start K ⟨msg, .feeModelDisabled⟩ c.world = .reverted .unauthorized := by
  have feeLess := (reach.holds (feeLess_rely anyCall) constructor_feeLess).1.2 provider
  refine ⟨fun settings answers marks wallet info => ?_, fun config getBalance minBalance which
    withdrawal withdrawn => ?_, fun msg no_value => ?_⟩
  · have stranger : (c.world.state.providers provider).feeManager ≠ settings.wallet := by
      rw [feeLess.manager]
      exact wallet.symm
    unfold FeeSettings.adjustFeeIfNecessary FeeSettings.observe
    rw [info]
    show (if _ then _ else _) >>= _ = _
    rw [if_pos stranger, feeLess.manager]
    rfl
  · rw [feeLess.accrued] at withdrawn
    exact withdrawFeesIfNecessary_zero withdrawn
  · unfold start
    rw [if_neg fun paid => paid.1 no_value]

end Threads

/-- On the deployed contract: a wallet that has an address, a fee manager without a wei whose top-up is
tried, and a call of a fee manager. -/
theorem feeThreads_idle_deployed :
    let w := Plain.deployment.world Plain.keccak
    let node : FeeNode := ⟨fun wallet => .ok (Sample.keeperRich wallet),
      .ok (w.state.providers 2).accruedFeesInWei⟩
    Sample.feeSettings.adjustFeeIfNecessary
        ⟨.ok (w.state.providers 2), Sample.gasAnswers, .ok 7, fun _ => .ok ()⟩ ⟨some 5, some 1⟩ =
          .error (.notFeeManager 0) ∧
      (∃ withdrawal, Sample.feeConfig.topUp 5 .feeManager node = .ok (some withdrawal) ∧
        withdrawal.amount = 0 ∧ node.getBalance Sample.feeConfig.feeManager = .ok 0) ∧
      start Plain.keccak ⟨Sample.msg Sample.user 0 Sample.user_ne_zero, .feeModelDisabled⟩ w =
        .reverted .unauthorized := by
  obtain ⟨adjusted, toppedUp, rejected⟩ := feeThreads_idle Plain.reachable_deployed 2
  refine ⟨adjusted Sample.feeSettings _ _ (by decide) rfl, ⟨⟨0, false⟩, rfl, ?_⟩, rejected _ rfl⟩
  exact toppedUp Sample.feeConfig _ 5 .feeManager _ rfl

end Dice
