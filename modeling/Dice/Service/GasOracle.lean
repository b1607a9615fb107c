/-
**The estimate of gas prices.**

The prices of the next transactions are read off the latest block and off the rewards that the blocks
before it have paid.

* `estimatePriorityFee` — the priority fee: the median of the positive rewards, or of the upper part of
  them when there is a jump in the upper half.
* `baseFeeSurged`, `eip1559DefaultEstimator`, `EthProviderOracle.estimateEip1559Fees` — the largest
  price per unit of gas, with a factor on the base fee that falls as the base fee rises.
* `estimatePriorityFee_perm`, `estimatePriorityFee_outbids` — the order of the blocks does not matter, and
  the estimate is at least the reward of more than half of the samples.
* `estimateEip1559Fees_spec`, `estimateEip1559Fees_answers` — what the two prices promise, and when
  there is an answer.

The factor goes down by steps, so that just above a threshold the price is lower than at it. The build is
one without overflow checks: the product of two `I256` wraps around, where a debug build panics.
-/

import Dice.Library.OrderStatistics
import Dice.Service.Events
import Mathlib.Data.List.Rotate

namespace Dice

open OrderStatistics

/-! ### The estimates -/

/-- What the node answers. The first entry of a block's rewards is the one for the percentile. -/
structure GasAnswers where
  getGasPrice : Except RpcError ℕ
  /-- The latest block, with its base fee. -/
  latestBlock : Except RpcError (Option (Option ℕ))
  feeHistory : Except RpcError (List (List ℕ))

inductive GasOracleError where
  | provider (error : RpcError)
  | custom (text : Text)
  /-- An index out of bounds, or a `U256` that overflows. -/
  | panicked
  deriving DecidableEq

/-- A `U256`, of an operator that panics otherwise. -/
def panicU256 (n : ℕ) : Option ℕ := if n < 2 ^ 256 then some n else none

/-- A panic stops the estimate. -/
def orPanicked {α : Type} : Option α → Except GasOracleError α
  | some value => .ok value
  | none => .error .panicked

/-- An answer that has to be there. -/
def orCustom {α : Type} (text : Text) : Option α → Except GasOracleError α
  | some value => .ok value
  | none => .error (.custom text)

/-- `I256::try_from(...).expect("priority fee overflow")`. -/
def toI256 (n : ℕ) : Option ℤ := if n < 2 ^ 255 then some n else none

/-- `((b - a) * 100) / a` of `I256`, whose product wraps around. -/
def percentageChange (a b : ℕ) : Option ℤ := do
  let a ← toI256 a
  let b ← toI256 b
  pure ((Int.bmod ((b - a) * 100) (2 ^ 256)).tdiv a)

/-- `percentage_change`, without the last one, which is from the largest reward to the smallest. -/
def percentageChanges (rewards : List ℕ) : Option (List ℤ) := do
  let rewardsCopy := rewards.rotate 1
  let percentageChange ← (rewards.zip rewardsCopy).mapM fun pair => percentageChange pair.1 pair.2
  pure percentageChange.dropLast

/-- `estimate_priority_fee` from the samples on, which are the positive rewards. -/
def estimateFromSamples (rewards : List ℕ) (minRewardSamples : ℕ)
    (eip1559FeeEstimationThresholdMaxChange : ℤ) : Option ℕ :=
  if rewards = [] then some 0
  else if rewards.length < minRewardSamples then some 0
  else if rewards.length = 1 then rewards[0]?
  else do
    let rewards := ordered rewards
    let percentageChange ← percentageChanges rewards
    let maxChange ← percentageChange.max?
    let maxChangeIndex := percentageChange.idxOf maxChange
    let values :=
      if eip1559FeeEstimationThresholdMaxChange ≤ maxChange ∧ rewards.length / 2 ≤ maxChangeIndex then
        rewards.drop maxChangeIndex
      else rewards
    values[values.length / 2]?

/-- `estimate_priority_fee`, or `none` if it panics. -/
def estimatePriorityFee (rewards : List (List ℕ)) (minRewardSamples : ℕ)
    (eip1559FeeEstimationThresholdMaxChange : ℤ) : Option ℕ := do
  let rewards ← rewards.mapM fun r => r[0]?
  estimateFromSamples (rewards.filter fun r => 0 < r) minRewardSamples
    eip1559FeeEstimationThresholdMaxChange

/-- `EthProviderOracle`. -/
structure EthProviderOracle where
  priorityFeeMultiplierPct : ℕ
  minRewardSamples : ℕ
  eip1559FeeEstimationDefaultPriorityFee : ℕ
  eip1559FeeEstimationPriorityFeeTrigger : ℕ
  eip1559FeeEstimationThresholdMaxChange : ℤ
  surgeThreshold1 : ℕ
  surgeThreshold2 : ℕ
  surgeThreshold3 : ℕ
  deriving DecidableEq, Repr

namespace EthProviderOracle

variable (oracle : EthProviderOracle)

/-- `base_fee_surged`, or `none` if it panics. -/
def baseFeeSurged (baseFeePerGas : ℕ) : Option ℕ :=
  if baseFeePerGas ≤ oracle.surgeThreshold1 then panicU256 (baseFeePerGas * 2)
  else if baseFeePerGas ≤ oracle.surgeThreshold2 then (panicU256 (baseFeePerGas * 16)).map (· / 10)
  else if baseFeePerGas ≤ oracle.surgeThreshold3 then (panicU256 (baseFeePerGas * 14)).map (· / 10)
  else (panicU256 (baseFeePerGas * 12)).map (· / 10)

/-- `max_priority_fee_per_gas` of `eip1559_default_estimator`. -/
def defaultPriorityFee (baseFeePerGas : ℕ) (rewards : List (List ℕ)) : Option ℕ :=
  if baseFeePerGas < oracle.eip1559FeeEstimationPriorityFeeTrigger then
    some oracle.eip1559FeeEstimationDefaultPriorityFee
  else
    (estimatePriorityFee rewards oracle.minRewardSamples
      oracle.eip1559FeeEstimationThresholdMaxChange).map
      (max · oracle.eip1559FeeEstimationDefaultPriorityFee)

/-- `max_fee_per_gas` of `eip1559_default_estimator`. -/
def largestPrice (maxPriorityFeePerGas potentialMaxFee : ℕ) : Option ℕ :=
  if potentialMaxFee < maxPriorityFeePerGas then panicU256 (maxPriorityFeePerGas + potentialMaxFee)
  else some potentialMaxFee

/-- `eip1559_default_estimator`, or `none` if it panics. -/
def eip1559DefaultEstimator (baseFeePerGas : ℕ) (rewards : List (List ℕ)) : Option (ℕ × ℕ) := do
  let maxPriorityFeePerGas ← oracle.defaultPriorityFee baseFeePerGas rewards
  let potentialMaxFee ← oracle.baseFeeSurged baseFeePerGas
  let maxFeePerGas ← largestPrice maxPriorityFeePerGas potentialMaxFee
  pure (maxFeePerGas, maxPriorityFeePerGas)

/-- The priority fee with the multiplier, or without it if the product overflows. -/
def multiplied (maxPriorityFeePerGas : ℕ) : ℕ :=
  if maxPriorityFeePerGas * oracle.priorityFeeMultiplierPct < 2 ^ 256 then
    maxPriorityFeePerGas * oracle.priorityFeeMultiplierPct / 100
  else maxPriorityFeePerGas

/-- `estimate_eip1559_fees`: the largest price and the priority fee. -/
def estimateEip1559Fees (answers : GasAnswers) : Except GasOracleError (ℕ × ℕ) := do
  let block ← orCustom "Latest block not found".toList (← answers.latestBlock.mapError .provider)
  let baseFeePerGas ← orCustom "EIP-1559 not activated".toList block
  let rewards ← answers.feeHistory.mapError .provider
  let (maxFeePerGas, maxPriorityFeePerGas) ←
    orPanicked (oracle.eip1559DefaultEstimator baseFeePerGas rewards)
  let maxPriorityFeePerGas := oracle.multiplied maxPriorityFeePerGas
  pure (max maxFeePerGas maxPriorityFeePerGas, maxPriorityFeePerGas)

end EthProviderOracle

/-- `fetch`: the price of a transaction of the old format. -/
def GasAnswers.fetch (answers : GasAnswers) : Except GasOracleError ℕ := do
  let rawPrice ← answers.getGasPrice.mapError .provider
  let product ← orPanicked (panicU256 (rawPrice * 150))
  pure (product / 100)

/-! ### The priority fee -/

/-- The positive rewards for the percentile. -/
def rewardSamples (rewards : List (List ℕ)) : List ℕ :=
  (rewards.filterMap fun r => r[0]?).filter fun r => 0 < r

section Samples

variable {rewards rewards' : List (List ℕ)} {samples samples' : List ℕ}
variable {minRewardSamples fee : ℕ} {threshold : ℤ}

/-- A list without a panic is mapped entry by entry. -/
theorem mapM_option_eq {α β : Type} (f : α → Option β) (xs : List α) :
    xs.mapM f = if ∀ x ∈ xs, (f x).isSome then some (xs.filterMap f) else none := by
  induction xs with
  | nil => rfl
  | cons x xs ih =>
    rw [List.mapM_cons, ih]
    cases mapped : f x with
    | none => simp [mapped]
    | some y =>
      by_cases rest : ∀ x ∈ xs, (f x).isSome
      · have all : ∀ x' ∈ x :: xs, (f x').isSome :=
          List.forall_mem_cons.mpr ⟨Option.isSome_iff_exists.mpr ⟨y, mapped⟩, rest⟩
        rw [if_pos rest, if_pos all, List.filterMap_cons_some mapped]
        rfl
      · have some_panics : ¬ ∀ x' ∈ x :: xs, (f x').isSome :=
          fun all => rest fun x' member => all x' (List.mem_cons_of_mem _ member)
        rw [if_neg rest, if_neg some_panics]
        rfl

theorem estimatePriorityFee_eq :
    estimatePriorityFee rewards minRewardSamples threshold =
      if ∀ r ∈ rewards, r ≠ [] then
        estimateFromSamples (rewardSamples rewards) minRewardSamples threshold
      else none := by
  have head : ∀ r : List ℕ, r[0]?.isSome ↔ r ≠ [] := by
    intro r
    cases r with
    | nil => simp
    | cons reward r => simp
  unfold estimatePriorityFee
  rw [mapM_option_eq]
  simp only [head]
  split
  · rfl
  · rfl

/-- The order of the samples does not matter. -/
theorem estimateFromSamples_perm (perm : samples.Perm samples') :
    estimateFromSamples samples minRewardSamples threshold =
      estimateFromSamples samples' minRewardSamples threshold := by
  have none_left : samples = [] ↔ samples' = [] := by
    rw [← List.length_eq_zero_iff, ← List.length_eq_zero_iff, perm.length_eq]
  unfold estimateFromSamples
  rw [ordered_congr perm, perm.length_eq]
  simp only [none_left]
  by_cases single : samples'.length = 1
  · obtain ⟨sample, rfl⟩ := List.length_eq_one_iff.mp single
    rw [List.perm_singleton.mp perm]
  · simp only [if_neg single]

/-- **The order of the blocks does not matter.** -/
theorem estimatePriorityFee_perm (perm : rewards.Perm rewards') :
    estimatePriorityFee rewards minRewardSamples threshold =
      estimatePriorityFee rewards' minRewardSamples threshold := by
  have samples : (rewardSamples rewards).Perm (rewardSamples rewards') :=
    (perm.filterMap _).filter _
  rw [estimatePriorityFee_eq, estimatePriorityFee_eq, estimateFromSamples_perm samples]
  simp only [perm.mem_iff]

/-- **The estimate is from the upper half** of the samples, in their order. -/
theorem estimateFromSamples_place (estimated :
    estimateFromSamples samples minRewardSamples threshold = some fee) (some_samples : samples ≠ [])
    (enough : minRewardSamples ≤ samples.length) :
    ∃ k, samples.length / 2 ≤ k ∧ (ordered samples)[k]? = some fee := by
  unfold estimateFromSamples at estimated
  rw [if_neg some_samples, if_neg (Nat.not_lt.mpr enough)] at estimated
  by_cases single : samples.length = 1
  · rw [if_pos single] at estimated
    obtain ⟨sample, rfl⟩ := List.length_eq_one_iff.mp single
    exact ⟨0, by simp, estimated⟩
  · rw [if_neg single] at estimated
    obtain ⟨changes, computed, estimated⟩ := Option.bind_eq_some_iff.mp estimated
    obtain ⟨maxChange, _, estimated⟩ := Option.bind_eq_some_iff.mp estimated
    dsimp only at estimated
    split at estimated
    · next jump =>
      rw [List.getElem?_drop] at estimated
      rw [ordered_length] at jump
      exact ⟨_, Nat.le_trans jump.2 (Nat.le_add_right _ _), estimated⟩
    · rw [ordered_length] at estimated
      exact ⟨_, Nat.le_refl _, estimated⟩

/-- **The estimate outbids most samples**: it is one of them, and not below more than half of them. -/
theorem estimatePriorityFee_outbids
    (estimated : estimatePriorityFee rewards minRewardSamples threshold = some fee)
    (some_samples : rewardSamples rewards ≠ [])
    (enough : minRewardSamples ≤ (rewardSamples rewards).length) :
    fee ∈ rewardSamples rewards ∧
      (rewardSamples rewards).length < 2 * rank (rewardSamples rewards) fee := by
  rw [estimatePriorityFee_eq] at estimated
  split at estimated
  · obtain ⟨k, middle, found⟩ := estimateFromSamples_place estimated some_samples enough
    obtain ⟨inside, rfl⟩ := List.getElem?_eq_some_iff.mp found
    exact ⟨mem_of_mem_ordered (List.getElem_mem inside), half_lt_rank inside middle⟩
  · cases estimated

/-- With too few samples there is no priority fee. -/
theorem estimatePriorityFee_few
    (estimated : estimatePriorityFee rewards minRewardSamples threshold = some fee)
    (few : rewardSamples rewards = [] ∨ (rewardSamples rewards).length < minRewardSamples) :
    fee = 0 := by
  rw [estimatePriorityFee_eq] at estimated
  split at estimated
  · unfold estimateFromSamples at estimated
    by_cases no_samples : rewardSamples rewards = []
    · rw [if_pos no_samples] at estimated
      exact (Option.some.inj estimated).symm
    · have fewer := few.resolve_left no_samples
      rw [if_neg no_samples, if_pos fewer] at estimated
      exact (Option.some.inj estimated).symm
  · cases estimated

/-- An estimate is one of the samples, or nothing. -/
theorem estimatePriorityFee_mem
    (estimated : estimatePriorityFee rewards minRewardSamples threshold = some fee) :
    fee = 0 ∨ fee ∈ rewardSamples rewards := by
  by_cases few : rewardSamples rewards = [] ∨ (rewardSamples rewards).length < minRewardSamples
  · exact .inl (estimatePriorityFee_few estimated few)
  · rw [not_or] at few
    exact .inr (estimatePriorityFee_outbids estimated few.1 (Nat.le_of_not_lt few.2)).1

/-- A change between two samples. -/
theorem percentageChange_isSome {a b : ℕ} (small : a < 2 ^ 255) (small' : b < 2 ^ 255) :
    (percentageChange a b).isSome := by
  unfold percentageChange toI256
  rw [if_pos small, if_pos small']
  rfl

/-- There is a change between any two samples that follow each other. -/
theorem percentageChanges_eq_some (small : ∀ sample ∈ samples, sample < 2 ^ 255) :
    ∃ changes, percentageChanges samples = some changes ∧ changes.length = samples.length - 1 := by
  have computed : ∀ pair ∈ samples.zip (samples.rotate 1),
      (percentageChange pair.1 pair.2).isSome := by
    rintro ⟨a, b⟩ member
    exact percentageChange_isSome (small a (List.of_mem_zip member).1)
      (small b (List.mem_rotate.mp (List.of_mem_zip member).2))
  have counted := List.filterMap_length_eq_length.mpr computed
  rw [List.length_zip, List.length_rotate, Nat.min_self] at counted
  unfold percentageChanges
  dsimp only
  rw [mapM_option_eq, if_pos computed]
  refine ⟨_, rfl, ?_⟩
  rw [List.length_dropLast, counted]

/-- The largest change has a place. -/
theorem exists_largest {changes : List ℤ} (some_changes : changes ≠ []) :
    ∃ largest, changes.max? = some largest ∧ changes.idxOf largest < changes.length := by
  cases largest : changes.max? with
  | none => exact absurd (List.max?_eq_none_iff.mp largest) some_changes
  | some change => exact ⟨change, rfl, List.idxOf_lt_length_iff.mpr (List.max?_mem largest)⟩

/-- Samples of this size do not panic. -/
theorem estimateFromSamples_isSome (small : ∀ sample ∈ samples, sample < 2 ^ 255) :
    ∃ fee, estimateFromSamples samples minRewardSamples threshold = some fee := by
  unfold estimateFromSamples
  by_cases no_samples : samples = []
  · exact ⟨0, if_pos no_samples⟩
  rw [if_neg no_samples]
  by_cases few : samples.length < minRewardSamples
  · exact ⟨0, if_pos few⟩
  rw [if_neg few]
  by_cases single : samples.length = 1
  · rw [if_pos single]
    exact ⟨_, List.getElem?_eq_getElem (by omega)⟩
  rw [if_neg single]
  have several : 2 ≤ samples.length := by
    have positive := List.length_pos_iff.mpr no_samples
    omega
  have sorted_small : ∀ sample ∈ ordered samples, sample < 2 ^ 255 :=
    fun sample member => small sample (mem_of_mem_ordered member)
  obtain ⟨changes, computed, count⟩ := percentageChanges_eq_some sorted_small
  rw [ordered_length] at count
  have some_changes : changes ≠ [] := List.ne_nil_of_length_pos (by omega)
  obtain ⟨largest, found, place⟩ := exists_largest some_changes
  dsimp only
  rw [computed, Option.bind_eq_bind, Option.bind_some, found, Option.bind_eq_bind, Option.bind_some]
  split
  · refine ⟨_, List.getElem?_eq_getElem ?_⟩
    rw [List.length_drop, ordered_length]
    omega
  · refine ⟨_, List.getElem?_eq_getElem ?_⟩
    rw [ordered_length]
    omega

end Samples

/-! ### The two prices -/

/-- **What two prices promise**, for a base fee and the rewards of some blocks: what the estimated
priority fee is, and how the prices follow from it. -/
structure EthProviderOracle.Prices (oracle : EthProviderOracle) (baseFee : ℕ)
    (rewards : List (List ℕ)) (estimate maxFee tip : ℕ) : Prop where
  default_le : oracle.eip1559FeeEstimationDefaultPriorityFee ≤ estimate
  calm : baseFee < oracle.eip1559FeeEstimationPriorityFeeTrigger →
    estimate = oracle.eip1559FeeEstimationDefaultPriorityFee
  /-- The estimate is at least the reward of more than half of the samples. -/
  outbids : oracle.eip1559FeeEstimationPriorityFeeTrigger ≤ baseFee → rewardSamples rewards ≠ [] →
    oracle.minRewardSamples ≤ (rewardSamples rewards).length →
    (rewardSamples rewards).length < 2 * rank (rewardSamples rewards) estimate
  tip_eq : tip = oracle.multiplied estimate
  tip_le : tip ≤ maxFee
  /-- The base fee may rise by a fifth. -/
  covers : baseFee + baseFee / 5 ≤ maxFee
  le : maxFee ≤ max (2 * baseFee + estimate) tip

namespace EthProviderOracle

variable {oracle : EthProviderOracle} {answers : GasAnswers}
variable {baseFee estimate maxFee tip potential : ℕ} {rewards : List (List ℕ)}

theorem panicU256_eq_some {n m : ℕ} : panicU256 n = some m ↔ n < 2 ^ 256 ∧ n = m := by
  unfold panicU256
  split
  · next fits => exact ⟨fun same => ⟨fits, Option.some.inj same⟩, fun both => congrArg some both.2⟩
  · next overflow =>
    constructor
    · intro same
      cases same
    · rintro ⟨fits, _⟩
      exact absurd fits overflow

/-- Tenths of the base fee. -/
theorem eq_of_tenths {factor : ℕ}
    (tenths : (panicU256 (baseFee * factor)).map (· / 10) = some potential) :
    potential = baseFee * factor / 10 := by
  obtain ⟨product, fits, rfl⟩ := Option.map_eq_some_iff.mp tenths
  obtain ⟨_, rfl⟩ := panicU256_eq_some.mp fits
  rfl

/-- The base fee is raised by a fifth at least and doubled at most. -/
theorem baseFeeSurged_between (surged : oracle.baseFeeSurged baseFee = some potential) :
    baseFee + baseFee / 5 ≤ potential ∧ potential ≤ 2 * baseFee := by
  unfold baseFeeSurged at surged
  split at surged
  · obtain ⟨_, rfl⟩ := panicU256_eq_some.mp surged
    omega
  · split at surged
    · have tenths := eq_of_tenths surged
      omega
    · split at surged
      · have tenths := eq_of_tenths surged
        omega
      · have tenths := eq_of_tenths surged
        omega

/-- The factor does not overflow for a base fee below this bound. -/
theorem baseFeeSurged_isSome (small : baseFee < 2 ^ 251) :
    ∃ potential, oracle.baseFeeSurged baseFee = some potential := by
  have fits : ∀ factor ≤ 16, panicU256 (baseFee * factor) = some (baseFee * factor) := by
    intro factor le
    refine panicU256_eq_some.mpr ⟨?_, rfl⟩
    calc baseFee * factor ≤ baseFee * 16 := Nat.mul_le_mul_left _ le
      _ < 2 ^ 256 := by omega
  unfold baseFeeSurged
  rw [fits 2 (by decide), fits 16 (by decide), fits 14 (by decide), fits 12 (by decide)]
  split
  · exact ⟨_, rfl⟩
  · split
    · exact ⟨_, rfl⟩
    · split
      · exact ⟨_, rfl⟩
      · exact ⟨_, rfl⟩

/-- Where the priority fee comes from. -/
theorem defaultPriorityFee_eq_some
    (estimated : oracle.defaultPriorityFee baseFee rewards = some estimate) :
    oracle.eip1559FeeEstimationDefaultPriorityFee ≤ estimate ∧
      (baseFee < oracle.eip1559FeeEstimationPriorityFeeTrigger →
        estimate = oracle.eip1559FeeEstimationDefaultPriorityFee) ∧
      (oracle.eip1559FeeEstimationPriorityFeeTrigger ≤ baseFee → rewardSamples rewards ≠ [] →
        oracle.minRewardSamples ≤ (rewardSamples rewards).length →
        (rewardSamples rewards).length < 2 * rank (rewardSamples rewards) estimate) := by
  unfold defaultPriorityFee at estimated
  split at estimated
  · next calm =>
    cases estimated
    exact ⟨Nat.le_refl _, fun _ => rfl, fun busy => absurd calm (Nat.not_lt.mpr busy)⟩
  · next busy =>
    obtain ⟨fee, computed, rfl⟩ := Option.map_eq_some_iff.mp estimated
    refine ⟨Nat.le_max_right _ _, fun calm => absurd calm busy, fun _ some_samples enough => ?_⟩
    have outbids := (estimatePriorityFee_outbids computed some_samples enough).2
    have more := rank_mono (rewardSamples rewards)
      (Nat.le_max_left fee oracle.eip1559FeeEstimationDefaultPriorityFee)
    omega

@[simp] theorem orCustom_ok {α : Type} {text : Text} {answer : Option α} {value : α} :
    orCustom text answer = .ok value ↔ answer = some value := by
  cases answer <;> simp [orCustom]

@[simp] theorem orPanicked_ok {α : Type} {result : Option α} {value : α} :
    orPanicked result = .ok value ↔ result = some value := by
  cases result <;> simp [orPanicked]

/-- An answer, and what it is computed from. -/
theorem estimateEip1559Fees_eq_ok {tip : ℕ} :
    oracle.estimateEip1559Fees answers = .ok (maxFee, tip) ↔
      ∃ baseFee rewards maxFee' estimate, answers.latestBlock = .ok (some (some baseFee)) ∧
        answers.feeHistory = .ok rewards ∧
        oracle.eip1559DefaultEstimator baseFee rewards = some (maxFee', estimate) ∧
        maxFee = max maxFee' (oracle.multiplied estimate) ∧ tip = oracle.multiplied estimate := by
  unfold estimateEip1559Fees
  simp only [bind_ok, mapError_ok, orCustom_ok, orPanicked_ok, pure_ok, Prod.exists, Prod.mk.injEq]
  constructor
  · rintro ⟨_, block, _, rfl, baseFee, rfl, rewards, history, maxFee', estimate, computed, rfl, rfl⟩
    exact ⟨baseFee, rewards, maxFee', estimate, block, history, computed, rfl, rfl⟩
  · rintro ⟨baseFee, rewards, maxFee', estimate, block, history, computed, rfl, rfl⟩
    exact ⟨_, block, _, rfl, baseFee, rfl, rewards, history, maxFee', estimate, computed, rfl, rfl⟩

/-- The largest price before the multiplier. -/
theorem eip1559DefaultEstimator_eq_some
    (computed : oracle.eip1559DefaultEstimator baseFee rewards = some (maxFee, estimate)) :
    oracle.defaultPriorityFee baseFee rewards = some estimate ∧
      baseFee + baseFee / 5 ≤ maxFee ∧ maxFee ≤ 2 * baseFee + estimate := by
  obtain ⟨priority, estimated, computed⟩ := Option.bind_eq_some_iff.mp computed
  obtain ⟨potential, surged, computed⟩ := Option.bind_eq_some_iff.mp computed
  obtain ⟨largest, added, computed⟩ := Option.bind_eq_some_iff.mp computed
  cases computed
  obtain ⟨fifth, double⟩ := baseFeeSurged_between surged
  refine ⟨estimated, ?_⟩
  unfold largestPrice at added
  split at added
  · obtain ⟨_, rfl⟩ := panicU256_eq_some.mp added
    omega
  · cases added
    omega

/-- An estimate that does not panic. -/
theorem eip1559DefaultEstimator_isSome
    (estimated : oracle.defaultPriorityFee baseFee rewards = some estimate)
    (small : baseFee < 2 ^ 251) (low : estimate < 2 ^ 255) :
    ∃ maxFee, oracle.eip1559DefaultEstimator baseFee rewards = some (maxFee, estimate) := by
  have surged : ∃ potential, oracle.baseFeeSurged baseFee = some potential :=
    baseFeeSurged_isSome small
  obtain ⟨potential, surged⟩ := surged
  have priced : ∃ maxFee, largestPrice estimate potential = some maxFee := by
    unfold largestPrice
    split
    · next above => exact ⟨_, panicU256_eq_some.mpr ⟨by omega, rfl⟩⟩
    · exact ⟨_, rfl⟩
  obtain ⟨maxFee, priced⟩ := priced
  refine ⟨maxFee, ?_⟩
  unfold eip1559DefaultEstimator
  rw [estimated, surged]
  show (largestPrice estimate potential).bind (fun maxFee => some (maxFee, estimate)) = _
  rw [priced]
  rfl

end EthProviderOracle

/-- **The two prices.** Whatever the node answers: an estimate that is returned keeps its promises, for
the base fee of the latest block and the rewards of the blocks before it, and the order of these blocks
does not matter. -/
theorem estimateEip1559Fees_spec (oracle : EthProviderOracle) (answers : GasAnswers) (maxFee tip : ℕ)
    (estimated : oracle.estimateEip1559Fees answers = .ok (maxFee, tip)) :
    ∃ baseFee rewards estimate, answers.latestBlock = .ok (some (some baseFee)) ∧
      answers.feeHistory = .ok rewards ∧ oracle.Prices baseFee rewards estimate maxFee tip ∧
      ∀ rewards', rewards.Perm rewards' →
        oracle.estimateEip1559Fees { answers with feeHistory := .ok rewards' } = .ok (maxFee, tip) := by
  obtain ⟨baseFee, rewards, maxFee', estimate, block, history, computed, rfl, rfl⟩ :=
    EthProviderOracle.estimateEip1559Fees_eq_ok.mp estimated
  obtain ⟨priority, fifth, double⟩ := EthProviderOracle.eip1559DefaultEstimator_eq_some computed
  obtain ⟨default_le, calm, outbids⟩ := EthProviderOracle.defaultPriorityFee_eq_some priority
  refine ⟨baseFee, rewards, estimate, block, history, ?_, fun rewards' perm => ?_⟩
  · exact ⟨default_le, calm, outbids, rfl, Nat.le_max_right _ _, le_trans fifth (Nat.le_max_left _ _),
      sup_le_sup double (Nat.le_refl _)⟩
  · refine EthProviderOracle.estimateEip1559Fees_eq_ok.mpr
      ⟨baseFee, rewards', maxFee', estimate, block, rfl, ?_, rfl, rfl⟩
    rw [← computed]
    unfold EthProviderOracle.eip1559DefaultEstimator EthProviderOracle.defaultPriorityFee
    rw [estimatePriorityFee_perm perm]

namespace Sample

/-- The oracle of a configuration that sets nothing. -/
def gasOracle : EthProviderOracle where
  priorityFeeMultiplierPct := 100
  minRewardSamples := 0
  eip1559FeeEstimationDefaultPriorityFee := 3000
  eip1559FeeEstimationPriorityFeeTrigger := 100000
  eip1559FeeEstimationThresholdMaxChange := 200
  surgeThreshold1 := 40000
  surgeThreshold2 := 100000
  surgeThreshold3 := 200000

/-- A busy chain, and a jump in what was paid. -/
def gasAnswers : GasAnswers where
  getGasPrice := .ok 150000
  latestBlock := .ok (some (some 150000))
  feeHistory := .ok [[5000], [90000], [0], [6000], [95000]]

end Sample

/-- The jump leaves the upper three samples, of which the middle one is the estimate. -/
theorem estimateEip1559Fees_jump :
    ∃ baseFee rewards estimate, Sample.gasAnswers.latestBlock = .ok (some (some baseFee)) ∧
      Sample.gasAnswers.feeHistory = .ok rewards ∧
      Sample.gasOracle.Prices baseFee rewards estimate 210000 90000 ∧
      ∀ rewards', rewards.Perm rewards' →
        Sample.gasOracle.estimateEip1559Fees { Sample.gasAnswers with feeHistory := .ok rewards' } =
          .ok (210000, 90000) :=
  estimateEip1559Fees_spec Sample.gasOracle Sample.gasAnswers 210000 90000 (by decide)

/-- **There is an answer** when the node answers each question, every block has a reward, and the prices
are of a size that can be computed with. -/
theorem estimateEip1559Fees_answers (oracle : EthProviderOracle) (answers : GasAnswers)
    (baseFee : ℕ) (rewards : List (List ℕ))
    (block : answers.latestBlock = .ok (some (some baseFee)))
    (history : answers.feeHistory = .ok rewards) (small : baseFee < 2 ^ 251)
    (default_small : oracle.eip1559FeeEstimationDefaultPriorityFee < 2 ^ 255)
    (rewarded : ∀ r ∈ rewards, r ≠ [] ∧ ∀ reward ∈ r, reward < 2 ^ 255) :
    ∃ maxFee tip, oracle.estimateEip1559Fees answers = .ok (maxFee, tip) := by
  have samples_small : ∀ sample ∈ rewardSamples rewards, sample < 2 ^ 255 := by
    intro sample member
    obtain ⟨r, inside, first⟩ := List.mem_filterMap.mp (List.mem_filter.mp member).1
    exact (rewarded r inside).2 sample (List.mem_of_getElem? first)
  have computed : ∃ fee, estimateFromSamples (rewardSamples rewards) oracle.minRewardSamples
      oracle.eip1559FeeEstimationThresholdMaxChange = some fee :=
    estimateFromSamples_isSome samples_small
  obtain ⟨fee, computed⟩ := computed
  have estimated : estimatePriorityFee rewards oracle.minRewardSamples
      oracle.eip1559FeeEstimationThresholdMaxChange = some fee := by
    rw [estimatePriorityFee_eq, if_pos fun r member => (rewarded r member).1, computed]
  have fee_small : fee < 2 ^ 255 := by
    rcases estimatePriorityFee_mem estimated with rfl | member
    · decide
    · exact samples_small fee member
  have priority : ∃ estimate < 2 ^ 255, oracle.defaultPriorityFee baseFee rewards = some estimate := by
    unfold EthProviderOracle.defaultPriorityFee
    split
    · exact ⟨_, default_small, rfl⟩
    · rw [estimated]
      exact ⟨_, Nat.max_lt.mpr ⟨fee_small, default_small⟩, rfl⟩
  obtain ⟨estimate, low, priority⟩ := priority
  obtain ⟨maxFee, priced⟩ := EthProviderOracle.eip1559DefaultEstimator_isSome priority small low
  exact ⟨_, _, EthProviderOracle.estimateEip1559Fees_eq_ok.mpr
    ⟨baseFee, rewards, maxFee, estimate, block, history, priced, rfl, rfl⟩⟩

theorem estimateEip1559Fees_answers_jump :
    ∃ maxFee tip, Sample.gasOracle.estimateEip1559Fees Sample.gasAnswers = .ok (maxFee, tip) :=
  estimateEip1559Fees_answers Sample.gasOracle Sample.gasAnswers 150000
    [[5000], [90000], [0], [6000], [95000]] rfl rfl (by decide) (by decide) (by decide)

end Dice
