/-
**The adjustment of the provider's fee.**

In each turn of `adjust_fee_wrapper` the fee manager compares the fee of the provider with what a callback
costs at the present gas price, and submits a new one when the fee has left a window around that cost.

* `estimateTxCost`, `FeeSettings.targetFee` — the cost of a callback, and the fee for it, which has a window
  around it.
* `FeeSettings.observe`, `FeeSettings.feeToSet`, `FeeSettings.adjustFeeIfNecessary` — one turn: what it
  reads, the fee it submits, and what it remembers.
* `FeeSettings.Step` — the turns, and the chain between them: a transaction is executed at any later time
  or never, others may change the fee, and a node may answer with any fee that was on chain before.
* `Justified` — why a fee was submitted; `feeUpdates_justified` says so of each in every run.

The cost of a callback is computed with 128 bits and wraps around. The windows are in order, and rise
with the cost, for costs whose products fit (`FeeSettings.bands`).
-/

import Dice.Library.ToleranceBand
import Dice.Service.Fees
import Dice.Service.GasOracle

namespace Dice

variable {Bytes32 : Type}

/-! ### One turn -/

/-- Why a turn of the adjustment ends early. -/
inductive AdjustFeeError where
  /-- "Error while getting provider info." -/
  | providerInfo (error : RpcError)
  /-- "Fee manager for provider ... is not the keeper wallet." -/
  | notFeeManager (feeManager : Address)
  /-- "Could not estimate transaction cost." -/
  | transactionCost (error : GasOracleError)
  /-- "gas price doesn't fit into 128 bits." -/
  | gasPrice
  /-- "Error while getting balance." -/
  | balance (error : RpcError)
  /-- "Cowardly refusing to set target fee more than 100x min_fee_wei." -/
  | refused (targetFee : ℕ)
  /-- The transaction with the fee is not sent, or not confirmed. -/
  | submission (targetFee : ℕ) (error : RpcError)
  /-- A division by zero, or a `U256` that overflows. -/
  | panicked
  deriving DecidableEq

/-- What the node answers in one turn. -/
structure FeeAnswers (Bytes32 : Type) where
  providerInfo : Except RpcError (ProviderInfo Bytes32)
  gas : GasAnswers
  balance : Except RpcError ℕ
  sendAndConfirm : ℕ → Except RpcError Unit

/-- What `adjust_fee_wrapper` is given, with the wallet and the oracle of the contract's client. -/
structure FeeSettings where
  wallet : Address
  oracle : EthProviderOracle
  legacyTx : Bool
  minProfitPct : ℕ
  targetProfitPct : ℕ
  maxProfitPct : ℕ
  minFeeWei : ℕ
  maxFeeWei : Option ℕ
  /-- `Config::load` checks the order of the percentages. -/
  min_le_target : minProfitPct ≤ targetProfitPct
  target_le_max : targetProfitPct ≤ maxProfitPct

/-- What the turns remember. -/
structure FeeMarks where
  highWaterPnl : Option ℕ
  sequenceNumberOfLastFeeUpdate : Option ℕ
  deriving DecidableEq, Repr

/-- What a turn has read when it decides. -/
structure FeeObservation where
  maxCallbackCost : ℕ
  currentPnl : ℕ
  sequenceNumber : ℕ
  providerFee : ℕ
  deriving DecidableEq, Repr

/-- A panic of the oracle is one of the turn. -/
def AdjustFeeError.ofGasOracle : GasOracleError → AdjustFeeError
  | .panicked => .panicked
  | error => .transactionCost error

/-- `try_into` a `u128`. -/
def toU128 (gasPrice : ℕ) : Except AdjustFeeError ℕ :=
  if gasPrice < 2 ^ 128 then .ok gasPrice else .error .gasPrice

/-- The gas price of `estimate_tx_cost`. -/
def estimatedGasPrice (oracle : EthProviderOracle) (useLegacyTx : Bool) (gas : GasAnswers) :
    Except AdjustFeeError ℕ := do
  if useLegacyTx then
    let gasPrice ← gas.fetch.mapError .ofGasOracle
    toU128 gasPrice
  else
    let (maxFeePerGas, maxPriorityFeePerGas) ←
      (oracle.estimateEip1559Fees gas).mapError .ofGasOracle
    let gasPrice ← (orPanicked (panicU256 (maxFeePerGas + maxPriorityFeePerGas))).mapError
      .ofGasOracle
    toU128 gasPrice

/-- `estimate_tx_cost`, whose product wraps around. -/
def estimateTxCost (oracle : EthProviderOracle) (useLegacyTx : Bool) (gas : GasAnswers)
    (gasUsed : ℕ) : Except AdjustFeeError ℕ := do
  let gasPrice ← estimatedGasPrice oracle useLegacyTx gas
  pure (gasPrice * gasUsed % 2 ^ 128)

namespace FeeSettings

variable (settings : FeeSettings)

/-- The fee for a profit, with the lower bound. -/
def profitableFee (maxCallbackCost profitPct : ℕ) : ℕ :=
  max (maxCallbackCost * profitPct % 2 ^ 128 / 100) settings.minFeeWei

/-- The upper bound, if there is one. -/
def capped (fee : ℕ) : ℕ :=
  match settings.maxFeeWei with
  | some maxFee => min fee (max maxFee settings.minFeeWei)
  | none => fee

/-- `target_fee_min`. -/
def targetFeeMin (maxCallbackCost : ℕ) : ℕ :=
  settings.capped (settings.profitableFee maxCallbackCost settings.minProfitPct)

/-- `target_fee`. -/
def targetFee (maxCallbackCost : ℕ) : ℕ :=
  settings.capped (settings.profitableFee maxCallbackCost settings.targetProfitPct)

/-- `target_fee_max`. -/
def targetFeeMax (maxCallbackCost : ℕ) : ℕ :=
  settings.capped (settings.profitableFee maxCallbackCost settings.maxProfitPct)

/-- `adjust_fee_if_necessary` up to the decision. -/
def observe (answers : FeeAnswers Bytes32) : Except AdjustFeeError FeeObservation := do
  let providerInfo ← answers.providerInfo.mapError .providerInfo
  if providerInfo.feeManager ≠ settings.wallet then .error (.notFeeManager providerInfo.feeManager)
  else
    let maxCallbackCost ← estimateTxCost settings.oracle settings.legacyTx answers.gas
      providerInfo.defaultGasLimit
    -- the metric divides the cost by the gas limit
    if providerInfo.defaultGasLimit = 0 then .error .panicked
    else
      let currentKeeperBalance ← answers.balance.mapError .balance
      let currentPnl ← (orPanicked (panicU256
        (currentKeeperBalance + providerInfo.accruedFeesInWei))).mapError .ofGasOracle
      pure ⟨maxCallbackCost, currentPnl, providerInfo.sequenceNumber, providerInfo.feeInWei⟩

/-- The pnl is as high as it ever was. -/
def CanReduceFees (marks : FeeMarks) (seen : FeeObservation) : Prop :=
  ∃ highWater, marks.highWaterPnl = some highWater ∧ highWater ≤ seen.currentPnl

/-- There were requests since the last update. -/
def IsChainActive (marks : FeeMarks) (seen : FeeObservation) : Prop :=
  ∃ last, marks.sequenceNumberOfLastFeeUpdate = some last ∧ last < seen.sequenceNumber

instance (marks : FeeMarks) (seen : FeeObservation) : Decidable (CanReduceFees marks seen) :=
  decidable_of_iff (∃ highWater ∈ marks.highWaterPnl, highWater ≤ seen.currentPnl) Iff.rfl

instance (marks : FeeMarks) (seen : FeeObservation) : Decidable (IsChainActive marks seen) :=
  decidable_of_iff (∃ last ∈ marks.sequenceNumberOfLastFeeUpdate, last < seen.sequenceNumber) Iff.rfl

/-- The decision of a turn: the fee that is submitted, if any. -/
def feeToSet (marks : FeeMarks) (seen : FeeObservation) : Except AdjustFeeError (Option ℕ) :=
  if IsChainActive marks seen ∧
      (settings.targetFeeMax seen.maxCallbackCost < seen.providerFee ∧ CanReduceFees marks seen ∨
        seen.providerFee < settings.targetFeeMin seen.maxCallbackCost) then
    if settings.minFeeWei * 100 % 2 ^ 128 < settings.targetFee seen.maxCallbackCost then
      .error (.refused (settings.targetFee seen.maxCallbackCost))
    else .ok (some (settings.targetFee seen.maxCallbackCost))
  else .ok none

end FeeSettings

/-- What is remembered at the end of a turn. -/
def FeeMarks.noted (marks : FeeMarks) (seen : FeeObservation) (updated : Bool) : FeeMarks where
  highWaterPnl := some (max seen.currentPnl (marks.highWaterPnl.getD 0))
  sequenceNumberOfLastFeeUpdate :=
    if updated then some seen.sequenceNumber
    else some (marks.sequenceNumberOfLastFeeUpdate.getD seen.sequenceNumber)

/-- `adjust_fee_if_necessary`: the fee that is now on chain, if it was changed, and what is remembered.
A turn that ends early remembers nothing. -/
def FeeSettings.adjustFeeIfNecessary (settings : FeeSettings) (answers : FeeAnswers Bytes32)
    (marks : FeeMarks) : Except AdjustFeeError (Option ℕ × FeeMarks) := do
  let seen ← settings.observe answers
  match ← settings.feeToSet marks seen with
  | some fee =>
      (answers.sendAndConfirm fee).mapError (.submission fee)
      pure (some fee, marks.noted seen true)
  | none => pure (none, marks.noted seen false)

/-! ### The turns on a chain -/

/-- A turn that came to a decision. -/
structure FeeEntry where
  seen : FeeObservation
  /-- The cost that the fee it has read was submitted for, if a turn has submitted it. -/
  setFor : Option ℕ
  submitted : Option ℕ
  /-- The turn ended without an error. -/
  completed : Bool
  deriving DecidableEq, Repr

/-- A fee on chain, and the cost that it was submitted for, if a turn has submitted it. -/
structure ChainFee where
  fee : ℕ
  setFor : Option ℕ
  deriving DecidableEq, Repr

/-- A fee that a turn has submitted, and the cost. -/
structure SentFee where
  fee : ℕ
  cost : ℕ
  deriving DecidableEq, Repr

/-- The loop and the chain. -/
structure FeeLoop where
  marks : FeeMarks
  /-- Every fee that was on chain so far, the present one first. -/
  fees : List ChainFee
  /-- The transactions that are not executed yet. -/
  inFlight : List SentFee
  /-- The turns so far, the last one first. -/
  log : List FeeEntry
  deriving DecidableEq, Repr

namespace FeeLoop

/-- At the start nothing is remembered. -/
def start (fee : ℕ) : FeeLoop := ⟨⟨none, none⟩, [⟨fee, none⟩], [], []⟩

/-- After a turn that came to a decision. -/
def after (loop : FeeLoop) (marks : FeeMarks) (seen : FeeObservation) (setFor submitted : Option ℕ)
    (completed : Bool) : FeeLoop where
  marks := marks
  fees := loop.fees
  inFlight := (submitted.map fun fee => ⟨fee, seen.maxCallbackCost⟩).toList ++ loop.inFlight
  log := ⟨seen, setFor, submitted, completed⟩ :: loop.log

/-- After a transaction was executed. -/
def execute (loop : FeeLoop) (sent : SentFee) : FeeLoop :=
  { loop with
    fees := ⟨sent.fee, some sent.cost⟩ :: loop.fees
    inFlight := loop.inFlight.erase sent }

/-- After someone else has set the fee. -/
def change (loop : FeeLoop) (fee : ℕ) : FeeLoop :=
  { loop with fees := ⟨fee, none⟩ :: loop.fees }

end FeeLoop

/-- A turn, with any answers of a node but for the fee, which is one that is on chain or was before; or
a change of the fee on chain. A receipt is taken for success whatever its status, and without one the
transaction may be executed all the same. -/
inductive FeeSettings.Step (Bytes32 : Type) (settings : FeeSettings) : FeeLoop → FeeLoop → Prop
  | completed {loop : FeeLoop} {answers : FeeAnswers Bytes32} {seen : FeeObservation}
      {setFor submitted : Option ℕ} {marks : FeeMarks}
      (observed : settings.observe answers = .ok seen)
      (known : ⟨seen.providerFee, setFor⟩ ∈ loop.fees)
      (adjusted : settings.adjustFeeIfNecessary answers loop.marks = .ok (submitted, marks)) :
      Step Bytes32 settings loop (loop.after marks seen setFor submitted true)
  | interrupted {loop : FeeLoop} {answers : FeeAnswers Bytes32} {seen : FeeObservation}
      {setFor : Option ℕ} {fee : ℕ} {error : RpcError}
      (observed : settings.observe answers = .ok seen)
      (known : ⟨seen.providerFee, setFor⟩ ∈ loop.fees)
      (adjusted : settings.adjustFeeIfNecessary answers loop.marks = .error (.submission fee error)) :
      Step Bytes32 settings loop (loop.after loop.marks seen setFor (some fee) false)
  /-- Nothing was submitted. -/
  | failed {loop : FeeLoop} {answers : FeeAnswers Bytes32} {error : AdjustFeeError}
      (adjusted : settings.adjustFeeIfNecessary answers loop.marks = .error error)
      (alive : error ≠ .panicked) (early : ∀ fee cause, error ≠ .submission fee cause) :
      Step Bytes32 settings loop loop
  | executed {loop : FeeLoop} {sent : SentFee} (waiting : sent ∈ loop.inFlight) :
      Step Bytes32 settings loop (loop.execute sent)
  | changed {loop : FeeLoop} (fee : ℕ) : Step Bytes32 settings loop (loop.change fee)

/-- The turns that ended without an error. -/
def completedTurns (log : List FeeEntry) : List FeeEntry := log.filter fun entry => entry.completed

/-- The updates that were confirmed. -/
def confirmedUpdates (log : List FeeEntry) : List FeeEntry :=
  (completedTurns log).filter fun entry => entry.submitted.isSome

/-- The costs whose products fit in 128 bits. -/
def FeeSettings.Fits (settings : FeeSettings) (maxCallbackCost : ℕ) : Prop :=
  maxCallbackCost * settings.maxProfitPct < 2 ^ 128

/-- **Why a fee was submitted**, after earlier turns. -/
structure FeeSettings.Justified (settings : FeeSettings) (earlier : List FeeEntry) (entry : FeeEntry)
    (fee : ℕ) : Prop where
  target : fee = settings.targetFee entry.seen.maxCallbackCost
  floor : settings.minFeeWei ≤ fee
  ceiling : fee ≤ 100 * settings.minFeeWei
  cap : ∀ maxFee, settings.maxFeeWei = some maxFee → fee ≤ max maxFee settings.minFeeWei
  /-- There were more requests since the first turn than updates. -/
  active : ∃ first, (completedTurns earlier).getLast? = some first ∧
    first.seen.sequenceNumber + (confirmedUpdates earlier).length < entry.seen.sequenceNumber
  /-- The fee is only lowered when the pnl is as high as it was in every completed turn. -/
  profit : settings.Fits entry.seen.maxCallbackCost → fee < entry.seen.providerFee →
    ∀ turn ∈ completedTurns earlier, turn.seen.currentPnl ≤ entry.seen.currentPnl
  /-- The fee follows the cost: it goes up from the fee that was read only if the cost has gone up since
  that one was submitted, and down only if it has gone down. -/
  follows : ∀ cost, entry.setFor = some cost → settings.Fits cost →
    settings.Fits entry.seen.maxCallbackCost →
    (entry.seen.providerFee < fee ∧ cost < entry.seen.maxCallbackCost) ∨
      (fee < entry.seen.providerFee ∧ entry.seen.maxCallbackCost < cost)

/-! ### The windows -/

namespace FeeSettings

variable {settings : FeeSettings} {cost cost' pct pct' fee fee' : ℕ}

theorem capped_mono (le : fee ≤ fee') : settings.capped fee ≤ settings.capped fee' := by
  unfold capped
  split
  · exact inf_le_inf_right _ le
  · exact le

/-- Among products that fit, the fee rises with the cost and with the profit. -/
theorem profitableFee_mono (le_cost : cost ≤ cost') (le_pct : pct ≤ pct')
    (fits : cost' * pct' < 2 ^ 128) :
    settings.profitableFee cost pct ≤ settings.profitableFee cost' pct' := by
  have product : cost * pct ≤ cost' * pct' := Nat.mul_le_mul le_cost le_pct
  unfold profitableFee
  rw [Nat.mod_eq_of_lt (Nat.lt_of_le_of_lt product fits), Nat.mod_eq_of_lt fits]
  exact sup_le_sup_right (Nat.div_le_div_right product) _

theorem Fits.of_le (fits : settings.Fits cost) (le : pct ≤ settings.maxProfitPct) :
    cost * pct < 2 ^ 128 :=
  Nat.lt_of_le_of_lt (Nat.mul_le_mul_left _ le) fits

/-- **The windows**, for the costs whose products fit. -/
def bands (settings : FeeSettings) : ToleranceBand.Bands {cost // settings.Fits cost} ℕ where
  low cost := settings.targetFeeMin cost
  target cost := settings.targetFee cost
  high cost := settings.targetFeeMax cost
  low_le cost := capped_mono (profitableFee_mono (Nat.le_refl _) settings.min_le_target
    (cost.2.of_le settings.target_le_max))
  le_high cost := capped_mono (profitableFee_mono (Nat.le_refl _) settings.target_le_max cost.2)
  mono _ cost' le := capped_mono (profitableFee_mono le (Nat.le_refl _)
    (cost'.2.of_le settings.target_le_max))

theorem minFeeWei_le_targetFee (cost : ℕ) : settings.minFeeWei ≤ settings.targetFee cost := by
  have floor : settings.minFeeWei ≤ settings.profitableFee cost settings.targetProfitPct :=
    Nat.le_max_right _ _
  unfold targetFee capped
  split
  · exact le_inf floor (Nat.le_max_right _ _)
  · exact floor

theorem targetFee_le_cap {maxFee : ℕ} (cap : settings.maxFeeWei = some maxFee) (cost : ℕ) :
    settings.targetFee cost ≤ max maxFee settings.minFeeWei := by
  unfold targetFee capped
  rw [cap]
  exact Nat.min_le_right _ _

/-! ### What a turn does -/

section Turns

variable {answers : FeeAnswers Bytes32} {marks marks' : FeeMarks} {seen : FeeObservation}
variable {submitted : Option ℕ} {error : RpcError}

/-- **A fee is submitted** when there were requests, and the fee on chain is above the window with a pnl
that allows to lower it, or below the window. -/
theorem feeToSet_eq_some (set : settings.feeToSet marks seen = .ok (some fee)) :
    IsChainActive marks seen ∧
      (settings.targetFeeMax seen.maxCallbackCost < seen.providerFee ∧ CanReduceFees marks seen ∨
        seen.providerFee < settings.targetFeeMin seen.maxCallbackCost) ∧
      fee = settings.targetFee seen.maxCallbackCost ∧ fee ≤ 100 * settings.minFeeWei := by
  unfold feeToSet at set
  split at set
  · next outside =>
    split at set
    · cases set
    · next enough =>
      cases set
      have wrapped := Nat.mod_le (settings.minFeeWei * 100) (2 ^ 128)
      exact ⟨outside.1, outside.2, rfl, by omega⟩
  · cases set

/-- A turn that ends without an error. -/
theorem adjustFeeIfNecessary_ok (observed : settings.observe answers = .ok seen)
    (adjusted : settings.adjustFeeIfNecessary answers marks = .ok (submitted, marks')) :
    settings.feeToSet marks seen = .ok submitted ∧ marks' = marks.noted seen submitted.isSome := by
  unfold adjustFeeIfNecessary at adjusted
  obtain ⟨_, same, adjusted⟩ := bind_ok.mp adjusted
  rw [observed] at same
  cases same
  obtain ⟨fee, set, adjusted⟩ := bind_ok.mp adjusted
  cases fee with
  | none =>
    cases adjusted
    exact ⟨set, rfl⟩
  | some fee =>
    obtain ⟨_, _, adjusted⟩ := bind_ok.mp adjusted
    cases adjusted
    exact ⟨set, rfl⟩

/-- A turn whose transaction is not confirmed. -/
theorem adjustFeeIfNecessary_submission (observed : settings.observe answers = .ok seen)
    (adjusted : settings.adjustFeeIfNecessary answers marks = .error (.submission fee error)) :
    settings.feeToSet marks seen = .ok (some fee) := by
  unfold adjustFeeIfNecessary at adjusted
  rcases bind_error.mp adjusted with unread | ⟨_, same, adjusted⟩
  · rw [observed] at unread
    cases unread
  rw [observed] at same
  cases same
  rcases bind_error.mp adjusted with refused | ⟨fee', set, adjusted⟩
  · unfold feeToSet at refused
    split at refused
    · split at refused
      · cases refused
      · cases refused
    · cases refused
  · cases fee' with
    | none => cases adjusted
    | some fee' =>
      rcases bind_error.mp adjusted with failed | ⟨_, _, adjusted⟩
      · cases sent : answers.sendAndConfirm fee' with
        | ok _ =>
          rw [sent] at failed
          cases failed
        | error cause =>
          rw [sent] at failed
          cases failed
          exact set
      · cases adjusted

end Turns

/-! ### The runs -/

/-- **The invariant of the loop.** -/
structure Kept (settings : FeeSettings) (loop : FeeLoop) : Prop where
  highWater : ∀ turn ∈ completedTurns loop.log, ∃ highWater,
    loop.marks.highWaterPnl = some highWater ∧ turn.seen.currentPnl ≤ highWater
  lastUpdate : ∀ last, loop.marks.sequenceNumberOfLastFeeUpdate = some last →
    ∃ first, (completedTurns loop.log).getLast? = some first ∧
      first.seen.sequenceNumber + (confirmedUpdates loop.log).length ≤ last
  fresh : loop.marks.sequenceNumberOfLastFeeUpdate = none → completedTurns loop.log = []
  fees : ∀ fee cost, ⟨fee, some cost⟩ ∈ loop.fees → fee = settings.targetFee cost
  inFlight : ∀ sent ∈ loop.inFlight, sent.fee = settings.targetFee sent.cost
  justified : ∀ entry earlier fee, (entry :: earlier) <:+ loop.log → entry.submitted = some fee →
    settings.Justified earlier entry fee

section Runs

variable {loop loop' : FeeLoop} {marks : FeeMarks} {seen : FeeObservation} {submitted : Option ℕ}
variable {setFor : Option ℕ} {completed : Bool}

/-- **Every submission is justified** by the turns before it. -/
theorem Kept.justified_of_feeToSet (kept : settings.Kept loop)
    (known : ⟨seen.providerFee, setFor⟩ ∈ loop.fees)
    (set : settings.feeToSet loop.marks seen = .ok (some fee)) :
    settings.Justified loop.log ⟨seen, setFor, some fee, completed⟩ fee := by
  obtain ⟨⟨last, remembered, more⟩, outside, rfl, ceiling⟩ := feeToSet_eq_some set
  refine ⟨rfl, minFeeWei_le_targetFee _, ceiling, fun maxFee cap => targetFee_le_cap cap _, ?_, ?_, ?_⟩
  · obtain ⟨first, found, fewer⟩ := kept.lastUpdate last remembered
    exact ⟨first, found, Nat.lt_of_le_of_lt fewer more⟩
  · intro fits lower turn member
    rcases outside with ⟨_, highWater, known, high⟩ | below
    · obtain ⟨mark, same, le⟩ := kept.highWater turn member
      rw [known] at same
      cases same
      exact Nat.le_trans le high
    · have inside := settings.bands.low_le ⟨seen.maxCallbackCost, fits⟩
      exact absurd (Nat.lt_trans below (Nat.lt_of_le_of_lt inside lower)) (Nat.lt_irrefl _)
  · rintro cost rfl fits fits'
    have present : seen.providerFee = settings.bands.target ⟨cost, fits⟩ := kept.fees _ _ known
    rcases outside with ⟨above, _⟩ | below
    · refine .inr ⟨Nat.lt_of_le_of_lt (settings.bands.le_high ⟨_, fits'⟩) above, ?_⟩
      have fallen : settings.bands.high ⟨_, fits'⟩ < settings.bands.target ⟨cost, fits⟩ := by
        rw [← present]
        exact above
      have lower : (⟨_, fits'⟩ : {cost // settings.Fits cost}) < ⟨cost, fits⟩ :=
        ToleranceBand.Bands.lt_of_above fallen
      exact lower
    · refine .inl ⟨Nat.lt_of_lt_of_le below (settings.bands.low_le ⟨_, fits'⟩), ?_⟩
      have risen : settings.bands.target ⟨cost, fits⟩ < settings.bands.low ⟨_, fits'⟩ := by
        rw [← present]
        exact below
      have higher : (⟨cost, fits⟩ : {cost // settings.Fits cost}) < ⟨_, fits'⟩ :=
        ToleranceBand.Bands.lt_of_below risen
      exact higher

theorem kept_start (fee : ℕ) : settings.Kept (.start fee) where
  highWater _ member := absurd member List.not_mem_nil
  lastUpdate _ remembered := nomatch remembered
  fresh _ := rfl
  fees _ _ member := nomatch List.mem_singleton.mp member
  inFlight _ member := absurd member List.not_mem_nil
  justified _ _ _ suffix _ := absurd (List.suffix_nil.mp suffix) (List.cons_ne_nil _ _)

/-- What is in flight after a turn. -/
theorem Kept.inFlight_after (kept : settings.Kept loop) {marks : FeeMarks}
    (target : ∀ fee, submitted = some fee → fee = settings.targetFee seen.maxCallbackCost)
    (sent : SentFee) (member : sent ∈ (loop.after marks seen setFor submitted completed).inFlight) :
    sent.fee = settings.targetFee sent.cost := by
  rcases List.mem_append.mp member with here | before
  · obtain ⟨fee, same, rfl⟩ := Option.map_eq_some_iff.mp (Option.mem_toList.mp here)
    exact target fee same
  · exact kept.inFlight sent before

/-- A turn adds one entry, which is justified if a fee was submitted. -/
theorem Kept.justified_after (kept : settings.Kept loop) {marks : FeeMarks}
    (known : ⟨seen.providerFee, setFor⟩ ∈ loop.fees)
    (set : ∀ fee, submitted = some fee → settings.feeToSet loop.marks seen = .ok (some fee))
    (entry : FeeEntry) (earlier : List FeeEntry) (fee : ℕ)
    (suffix : (entry :: earlier) <:+ (loop.after marks seen setFor submitted completed).log)
    (update : entry.submitted = some fee) : settings.Justified earlier entry fee := by
  rcases List.suffix_cons_iff.mp suffix with same | older
  · cases same
    dsimp only at update
    subst update
    exact kept.justified_of_feeToSet known (set fee rfl)
  · exact kept.justified entry earlier fee older update

/-- The high water mark after a turn. -/
theorem Kept.highWater_after (kept : settings.Kept loop) (turn : FeeEntry)
    (member : turn ∈ completedTurns (⟨seen, setFor, submitted, true⟩ :: loop.log)) :
    turn.seen.currentPnl ≤ max seen.currentPnl (loop.marks.highWaterPnl.getD 0) := by
  rcases List.mem_cons.mp member with rfl | older
  · exact Nat.le_max_left _ _
  · obtain ⟨highWater, known, le⟩ := kept.highWater turn older
    rw [known]
    exact Nat.le_trans le (Nat.le_max_right _ _)

/-- The requests and the updates after a turn that remembers a sequence number. -/
theorem Kept.lastUpdate_after (kept : settings.Kept loop) (setFor : Option ℕ)
    (set : settings.feeToSet loop.marks seen = .ok submitted) :
    ∃ first, (completedTurns (⟨seen, setFor, submitted, true⟩ :: loop.log)).getLast? =
        some first ∧
      first.seen.sequenceNumber +
          (confirmedUpdates (⟨seen, setFor, submitted, true⟩ :: loop.log)).length ≤
        if submitted.isSome then seen.sequenceNumber
        else loop.marks.sequenceNumberOfLastFeeUpdate.getD seen.sequenceNumber := by
  have entry : completedTurns (⟨seen, setFor, submitted, true⟩ :: loop.log) =
      ⟨seen, setFor, submitted, true⟩ :: completedTurns loop.log := rfl
  unfold confirmedUpdates
  rw [entry, List.getLast?_cons]
  refine ⟨_, rfl, ?_⟩
  cases submitted with
  | some fee =>
    obtain ⟨⟨last, remembered, more⟩, _⟩ := feeToSet_eq_some set
    obtain ⟨first, found, fewer⟩ := kept.lastUpdate last remembered
    rw [found]
    show first.seen.sequenceNumber + ((confirmedUpdates loop.log).length + 1) ≤ seen.sequenceNumber
    omega
  | none =>
    show _ + (confirmedUpdates loop.log).length ≤ loop.marks.sequenceNumberOfLastFeeUpdate.getD _
    cases remembered : loop.marks.sequenceNumberOfLastFeeUpdate with
    | none =>
      unfold confirmedUpdates
      rw [kept.fresh remembered]
      exact Nat.le_refl _
    | some last =>
      obtain ⟨first, found, fewer⟩ := kept.lastUpdate last remembered
      rw [found]
      exact fewer

/-- **One step keeps the invariant.** -/
theorem Step.kept (step : settings.Step Bytes32 loop loop') (kept : settings.Kept loop) :
    settings.Kept loop' := by
  cases step with
  | @completed _ seen setFor submitted _ observed known adjusted =>
    obtain ⟨set, rfl⟩ := adjustFeeIfNecessary_ok observed adjusted
    have fees : ∀ fee, submitted = some fee → settings.feeToSet loop.marks seen = .ok (some fee) := by
      rintro fee rfl
      exact set
    refine ⟨fun turn member => ⟨_, rfl, kept.highWater_after turn member⟩, fun last remembered => ?_,
      fun forgotten => ?_, kept.fees,
      kept.inFlight_after fun fee update => (feeToSet_eq_some (fees fee update)).2.2.1,
      kept.justified_after known fees⟩
    · have counted := kept.lastUpdate_after setFor set
      cases submitted with
      | none =>
        cases remembered
        exact counted
      | some fee =>
        cases remembered
        exact counted
    · cases submitted with
      | none => cases forgotten
      | some fee => cases forgotten
  | @interrupted _ seen _ fee _ observed known adjusted =>
    have set := adjustFeeIfNecessary_submission observed adjusted
    have fees : ∀ fee', some fee = some fee' →
        settings.feeToSet loop.marks seen = .ok (some fee') := by
      rintro _ ⟨⟩
      exact set
    exact ⟨kept.highWater, kept.lastUpdate, kept.fresh, kept.fees,
      kept.inFlight_after fun fee' update => (feeToSet_eq_some (fees fee' update)).2.2.1,
      kept.justified_after known fees⟩
  | failed _ _ _ => exact kept
  | executed waiting =>
    refine ⟨kept.highWater, kept.lastUpdate, kept.fresh, fun fee cost member => ?_,
      fun sent member => kept.inFlight sent (List.mem_of_mem_erase member), kept.justified⟩
    rcases List.mem_cons.mp member with same | before
    · cases same
      exact kept.inFlight _ waiting
    · exact kept.fees fee cost before
  | changed fee' =>
    refine ⟨kept.highWater, kept.lastUpdate, kept.fresh, fun fee cost member => ?_, kept.inFlight,
      kept.justified⟩
    rcases List.mem_cons.mp member with same | before
    · cases same
    · exact kept.fees fee cost before

theorem kept_of_run {fee : ℕ}
    (run : Relation.ReflTransGen (settings.Step Bytes32) (.start fee) loop) : settings.Kept loop := by
  induction run with
  | refl => exact kept_start fee
  | tail _ step ih => exact step.kept ih

end Runs

end FeeSettings

/-- **Every fee that the loop submits is justified.** In every run of the turns, with any answers of the
node (of the fees, old ones too), transactions that are lost, fail or are executed at any later time, any
receipts missing, and fees that others set: each fee was submitted for the reasons that `Justified`
lists. -/
theorem feeUpdates_justified (settings : FeeSettings) (fee : ℕ) (loop : FeeLoop)
    (run : Relation.ReflTransGen (settings.Step Bytes32) (.start fee) loop) (entry : FeeEntry)
    (earlier : List FeeEntry) (submitted : ℕ) (logged : (entry :: earlier) <:+ loop.log)
    (update : entry.submitted = some submitted) : settings.Justified earlier entry submitted :=
  (FeeSettings.kept_of_run run).justified entry earlier submitted logged update

namespace Sample

/-- A profit of a fifth, between nothing and as much again, and a fee of at least a gwei. -/
def feeSettings : FeeSettings where
  wallet := 1
  oracle := gasOracle
  legacyTx := false
  minProfitPct := 100
  targetProfitPct := 120
  maxProfitPct := 200
  minFeeWei := 1000000000
  maxFeeWei := none
  min_le_target := by decide
  target_le_max := by decide

/-- A record with the smallest fee, after so many requests. -/
def chargedProvider (sequenceNumber : ℕ) : ProviderInfo ℕ where
  feeInWei := 1000000000
  accruedFeesInWei := 0
  originalCommitment := 0
  originalCommitmentSequenceNumber := 0
  commitmentMetadata := []
  uri := []
  endSequenceNumber := 1000
  sequenceNumber := sequenceNumber
  currentCommitment := 0
  currentCommitmentSequenceNumber := 0
  feeManager := 1
  maxNumHashes := 0
  defaultGasLimit := 100000

def feeAnswers (sequenceNumber : ℕ) : FeeAnswers ℕ where
  providerInfo := .ok (chargedProvider sequenceNumber)
  gas := gasAnswers
  balance := .ok 7
  sendAndConfirm _ := .ok ()

/-- What a turn reads of it. -/
def feeSeen (sequenceNumber : ℕ) : FeeObservation where
  maxCallbackCost := 30000000000
  currentPnl := 7
  sequenceNumber := sequenceNumber
  providerFee := 1000000000

/-- After the first turn, which only remembers. -/
def firstFeeTurn : FeeLoop :=
  (FeeLoop.start 1000000000).after ⟨some 7, some 5⟩ (feeSeen 5) none none true

/-- After the second, with a request in between. -/
def secondFeeTurn : FeeLoop :=
  firstFeeTurn.after ⟨some 7, some 6⟩ (feeSeen 6) none (some 36000000000) true

theorem feeTurns : Relation.ReflTransGen (feeSettings.Step ℕ) (.start 1000000000) secondFeeTurn := by
  refine (Relation.ReflTransGen.single (?_ : feeSettings.Step ℕ _ firstFeeTurn)).tail ?_
  · have observed : feeSettings.observe (feeAnswers 5) = .ok (feeSeen 5) := by decide
    exact .completed observed List.mem_cons_self (by decide)
  · have observed : feeSettings.observe (feeAnswers 6) = .ok (feeSeen 6) := by decide
    exact .completed observed List.mem_cons_self (by decide)

end Sample

/-- One request after the first turn, the fee is raised to the target. -/
theorem feeUpdates_justified_raise :
    Sample.feeSettings.Justified Sample.firstFeeTurn.log
      ⟨Sample.feeSeen 6, none, some 36000000000, true⟩ 36000000000 :=
  feeUpdates_justified Sample.feeSettings 1000000000 Sample.secondFeeTurn Sample.feeTurns _ _ _
    (List.suffix_refl _) rfl

end Dice
