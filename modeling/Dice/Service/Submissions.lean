/-
**The submission of a reveal, with retries.**

A reveal is submitted until it is mined, until an error is permanent, or until there is no time left.
Each attempt is priced anew, with the escalated percentage of the estimate.

* `submitTx`, `TxSubmission.submitTxWithBackoff` — one attempt, and what is reported of the submission.
* `RetryLoop`, `Retried.Follows` — the loop of the `backoff` library, and what it promises of its
  attempts and of how they end.
* `feeMultipliers_sorted`, `gasPrices_sorted` — along the attempts of a submission the percentage does
  not go down, and neither does the price unless the estimate does.
* `submitTxWithBackoff_ok`, `gives_up` — how the submission ends. No attempt follows one that finds no
  request (`numRetries_le_of_stale`).

The answers of the node are arguments, by the number of the attempt. The loop is not in the repository,
so it is an argument too, with its promise as a law. The waits themselves are left out.
-/

import Dice.Service.Escalation
import Dice.Service.Events

namespace Dice

variable {Bytes32 α : Type}

/-! ### One attempt -/

/-- `backoff::Error`. -/
inductive BackoffError where
  | permanent (err : SubmitTxError)
  | transient (err : SubmitTxError)
  deriving DecidableEq

def BackoffError.err : BackoffError → SubmitTxError
  | .permanent err => err
  | .transient err => err

/-- `TransactionReceipt`, with its status and the `Revealed` events that its logs decode to. -/
structure MinedReceipt (Bytes32 : Type) extends TransactionReceipt Bytes32 where
  status : Option ℕ
  revealed : List (RevealedFilter Bytes32)

/-- What becomes of a transaction that was sent. -/
inductive PendingTx (Bytes32 : Type) where
  | mined (receipt : MinedReceipt Bytes32)
  | error
  /-- `None`, or nothing in time; then the receipt that the query finds. -/
  | unresolved (queried : Option (MinedReceipt Bytes32))

/-- What the node answers to one attempt. An error of the first two has its data when it is a revert;
what comes after the gas price may depend on it. -/
structure TxAnswers (Bytes32 : Type) where
  estimateGas : Except (Option Text) ℕ
  fillTransaction : Except (Option Text) (Option ℕ)
  sendTransaction : ℕ → Except RpcError Unit
  pendingTx : ℕ → PendingTx Bytes32
  sighash : ℕ → Text

/-- `saturating_mul` of `U256`. -/
def saturatingMulU256 (a b : ℕ) : ℕ := min (a * b) (2 ^ 256 - 1)

/-- The gas price that is set, from the estimated one. -/
def escalatedGasPrice (gasPrice feeEstimateMultiplierPct : ℕ) : ℕ :=
  saturatingMulU256 gasPrice feeEstimateMultiplierPct / 100

namespace TxAnswers

variable (answers : TxAnswers Bytes32)

/-- `submit_tx` up to the estimated gas price. -/
def filledGasPrice : Except SubmitTxError ℕ := do
  let _ ← answers.estimateGas.mapError .gasUsageEstimateError
  let gasPrice ← answers.fillTransaction.mapError fun
    | some revert => .gasUsageEstimateError (some revert)
    | none => .gasPriceEstimateError
  pure (gasPrice.getD 0)

/-- The receipt of a transaction that was sent. -/
def receipt (gasPrice : ℕ) : Except SubmitTxError (MinedReceipt Bytes32) :=
  match answers.pendingTx gasPrice with
  | .mined receipt => .ok receipt
  | .error => .error (.confirmationError (answers.sighash gasPrice))
  | .unresolved (some receipt) => .ok receipt
  | .unresolved none => .error (.confirmationTimeout (answers.sighash gasPrice))

/-- `submit_tx` from the transaction with its gas price on. -/
def sendAndConfirm (gasPrice : ℕ) : Except SubmitTxError (MinedReceipt Bytes32) := do
  (answers.sendTransaction gasPrice).mapError fun _ => .submissionError
  let receipt ← answers.receipt gasPrice
  if receipt.status = some 0 then .error (.receiptError (answers.sighash gasPrice)) else .ok receipt

end TxAnswers

/-- `submit_tx`. Every error may be retried. -/
def submitTx (answers : TxAnswers Bytes32) (feeEstimateMultiplierPct : ℕ) :
    Except BackoffError (MinedReceipt Bytes32) :=
  Except.mapError .transient do
    let gasPrice ← answers.filledGasPrice
    answers.sendAndConfirm (escalatedGasPrice gasPrice feeEstimateMultiplierPct)

/-- `map_reveal_submit_error`. Which reverts decode to `NoSuchRequest` is an argument. -/
def mapRevealSubmitError (noSuchRequest : Text → Bool) : BackoffError → BackoffError
  | .transient (.gasUsageEstimateError (some revert)) =>
      if noSuchRequest revert then .permanent (.gasUsageEstimateError (some revert))
      else .transient (.gasUsageEstimateError (some revert))
  | error => error

/-! ### Its errors -/

section Errors

variable {answers : TxAnswers Bytes32} {gasPrice : ℕ}

theorem mapError_error {ε ε' : Type} {x : Except ε α} {f : ε → ε'} {e : ε'} :
    x.mapError f = .error e ↔ ∃ error, x = .error error ∧ f error = e := by
  cases x <;> simp [Except.mapError]

/-- Only a revert that decodes to `NoSuchRequest` is mapped. -/
theorem mapRevealSubmitError_transient (noSuchRequest : Text → Bool) (err : SubmitTxError) :
    mapRevealSubmitError noSuchRequest (.transient err) = .transient err ∨
      ∃ revert, noSuchRequest revert = true ∧ err = .gasUsageEstimateError (some revert) := by
  unfold mapRevealSubmitError
  split
  · next revert same =>
    cases same
    split
    · next decodes => exact .inr ⟨revert, decodes, rfl⟩
    · exact .inl rfl
  · exact .inl rfl

theorem TxAnswers.status_of_sendAndConfirm {receipt : MinedReceipt Bytes32}
    (sent : answers.sendAndConfirm gasPrice = .ok receipt) : receipt.status ≠ some 0 := by
  obtain ⟨_, _, pending⟩ := bind_ok.mp sent
  obtain ⟨mined, _, checked⟩ := bind_ok.mp pending
  split at checked
  · cases checked
  · next status =>
    cases checked
    exact status

/-- A transaction with its gas price on fails with other errors than an estimate. -/
theorem TxAnswers.sendAndConfirm_ne {err : SubmitTxError}
    (failed : answers.sendAndConfirm gasPrice = .error err) (revert : Option Text) :
    err ≠ .gasUsageEstimateError revert := by
  rintro rfl
  rcases bind_error.mp failed with send | ⟨_, _, pending⟩
  · obtain ⟨_, _, same⟩ := mapError_error.mp send
    cases same
  · rcases bind_error.mp pending with wait | ⟨mined, _, checked⟩
    · unfold TxAnswers.receipt at wait
      split at wait <;> cases wait
    · split at checked <;> cases checked

end Errors

/-! ### The loop -/

/-- What a run of the loop leaves: the values of `num_retries` that the attempts read, its value in the
end, and the outcome. -/
structure Retried (α : Type) where
  attempts : List ℕ
  numRetries : ℕ
  outcome : Except SubmitTxError α

/-- The attempt fails with an error that may be retried. -/
def IsTransient (result : Except BackoffError α) : Prop := ∃ err, result = .error (.transient err)

/-- **What `retry_notify` promises** of a run with so many retries: the operation is attempted, and again
after each error that may be retried, as often as there is a delay left. Each retry is notified before,
and the outcome is that of the last attempt. -/
structure Retried.Follows (run : Retried α) (operation : ℕ → Except BackoffError α) (notify : ℕ → ℕ)
    (delays first retries : ℕ) : Prop where
  attempts : run.attempts = (List.range (retries + 1)).map fun k => notify^[k] first
  numRetries : run.numRetries = notify^[retries] first
  within : retries ≤ delays
  earlier : ∀ k < retries, IsTransient (operation (notify^[k] first))
  outcome : run.outcome = (operation run.numRetries).mapError BackoffError.err
  /-- It gives up only when there is no delay left. -/
  persists : IsTransient (operation run.numRetries) → retries = delays

/-- **`backoff::future::retry_notify`**, which is not in the repository, with an `ExponentialBackoff`. It is
given what an attempt does when it reads `num_retries`, what the notification makes of it, and its
value. How many delays there is time for is a matter of the operation. -/
structure RetryLoop (α : Type) where
  delays : (ℕ → Except BackoffError α) → ℕ
  retryNotify : (ℕ → Except BackoffError α) → (ℕ → ℕ) → ℕ → Retried α
  follows : ∀ operation notify first, ∃ retries,
    (retryNotify operation notify first).Follows operation notify (delays operation) first retries

/-! ### Prices -/

section Prices

variable {gasPrice gasPrice' pct pct' : ℕ}

theorem escalatedGasPrice_mono (price : gasPrice ≤ gasPrice') (percentage : pct ≤ pct') :
    escalatedGasPrice gasPrice pct ≤ escalatedGasPrice gasPrice' pct' := by
  have product : gasPrice * pct ≤ gasPrice' * pct' := Nat.mul_le_mul price percentage
  unfold escalatedGasPrice saturatingMulU256
  exact Nat.div_le_div_right (by omega)

theorem escalatedGasPrice_mul_le (gasPrice pct : ℕ) :
    escalatedGasPrice gasPrice pct * 100 ≤ gasPrice * pct :=
  (Nat.div_mul_le_self _ 100).trans (Nat.min_le_left _ _)

end Prices

/-! ### The submission -/

/-- `SubmitTxResult`, without its duration. -/
structure SubmitTxReport (Bytes32 : Type) extends SubmitTxResult Bytes32 where
  numRetries : ℕ
  feeMultiplier : ℕ

/-- What `submit_tx_with_backoff` is given, and what it meets. -/
structure TxSubmission (Bytes32 : Type) where
  escalationPolicy : EscalationPolicy
  answers : ℕ → TxAnswers Bytes32
  noSuchRequest : Text → Bool
  backoff : RetryLoop (MinedReceipt Bytes32)
  callSighash : Text

namespace TxSubmission

variable (submission : TxSubmission Bytes32)

/-- The percentage of an attempt. -/
def feeMultiplierPct (numRetries : ℕ) : ℕ :=
  submission.escalationPolicy.getFeeMultiplierPct numRetries

/-- The closure that is retried. -/
def operation (numRetries : ℕ) : Except BackoffError (MinedReceipt Bytes32) :=
  (submitTx (submission.answers numRetries) (submission.feeMultiplierPct numRetries)).mapError
    (mapRevealSubmitError submission.noSuchRequest)

/-- The notification counts the retry. -/
def run : Retried (MinedReceipt Bytes32) :=
  submission.backoff.retryNotify submission.operation (· + 1) 0

/-- How many delays there was time for. -/
def delays : ℕ := submission.backoff.delays submission.operation

/-- `submit_tx_with_backoff`. -/
def submitTxWithBackoff : Except SubmitTxError (SubmitTxReport Bytes32) := do
  let receipt ← submission.run.outcome
  match receipt.revealed.head? with
  | none => .error (.receiptError submission.callSighash)
  | some revealedEvent =>
      pure {
        receipt := receipt.toTransactionReceipt
        revealedEvent
        numRetries := submission.run.numRetries
        feeMultiplier := submission.feeMultiplierPct submission.run.numRetries }

/-- The estimated gas price of an attempt, if it comes as far. -/
def estimate (numRetries : ℕ) : Option ℕ := (submission.answers numRetries).filledGasPrice.toOption

/-- The gas price that it sends its transaction with. -/
def gasPrice (numRetries : ℕ) : Option ℕ :=
  (submission.estimate numRetries).map fun estimate =>
    escalatedGasPrice estimate (submission.feeMultiplierPct numRetries)

/-- The percentages of the attempts that are made. -/
def feeMultipliers : List ℕ := submission.run.attempts.map submission.feeMultiplierPct

/-- The gas prices of the transactions that are sent. -/
def gasPrices : List ℕ := submission.run.attempts.filterMap submission.gasPrice

/-- The estimate does not go down. -/
def Steady : Prop :=
  ∀ i j, i ≤ j → ∀ first ∈ submission.estimate i, ∀ second ∈ submission.estimate j, first ≤ second

/-- What so many notifications make of no retries. -/
theorem counted_retries (retries : ℕ) : (· + 1)^[retries] 0 = retries := by
  induction retries with
  | zero => rfl
  | succ retries ih => rw [Function.iterate_succ_apply', ih]

/-- **The loop** of a submission, whose attempts are numbered by its notifications. -/
theorem run_follows : submission.run.Follows submission.operation (· + 1) submission.delays 0
    submission.run.numRetries := by
  obtain ⟨retries, follows⟩ := submission.backoff.follows submission.operation (· + 1) 0
  have count : submission.run.numRetries = retries :=
    follows.numRetries.trans (counted_retries retries)
  rw [count]
  exact follows

/-- **The attempts** are all those up to the number of retries. -/
theorem run_attempts : submission.run.attempts = List.range (submission.run.numRetries + 1) := by
  rw [submission.run_follows.attempts]
  exact (List.map_congr_left fun k _ => counted_retries k).trans (List.map_id _)

/-- All but the last may be retried. -/
theorem run_earlier {numRetries : ℕ} (earlier : numRetries < submission.run.numRetries) :
    IsTransient (submission.operation numRetries) := by
  have transient := submission.run_follows.earlier numRetries earlier
  rwa [counted_retries] at transient

theorem attempts_increase : submission.run.attempts.Pairwise (· < ·) := by
  rw [run_attempts]
  exact List.pairwise_lt_range

/-- Every percentage is within the cap. -/
theorem feeMultipliers_le :
    ∀ pct ∈ submission.feeMultipliers, pct ≤ submission.escalationPolicy.feeMultiplierCapPct := by
  intro pct member
  obtain ⟨numRetries, _, rfl⟩ := List.mem_map.mp member
  exact submission.escalationPolicy.getFeeMultiplierPct_le numRetries

/-- The last one is reported. -/
theorem feeMultipliers_getLast :
    submission.feeMultipliers.getLast? =
      some (submission.feeMultiplierPct submission.run.numRetries) := by
  unfold feeMultipliers
  rw [run_attempts, List.range_succ, List.map_append, List.map_singleton, List.getLast?_concat]

variable {submission}

/-- **The percentages do not go down.** -/
theorem feeMultipliers_sorted (raises : 100 ≤ submission.escalationPolicy.feeMultiplierPct) :
    submission.feeMultipliers.Pairwise (· ≤ ·) := by
  unfold feeMultipliers
  rw [List.pairwise_map]
  apply submission.attempts_increase.imp
  intro i j before
  exact EscalationPolicy.getFeeMultiplierPct_monotone raises before.le

/-- **Nor do the gas prices**, with a steady estimate. -/
theorem gasPrices_sorted (raises : 100 ≤ submission.escalationPolicy.feeMultiplierPct)
    (steady : submission.Steady) : submission.gasPrices.Pairwise (· ≤ ·) := by
  unfold gasPrices
  rw [List.pairwise_filterMap]
  apply submission.attempts_increase.imp
  intro i j before first sent second resent
  obtain ⟨estimate, estimated, rfl⟩ := Option.map_eq_some_iff.mp sent
  obtain ⟨estimate', estimated', rfl⟩ := Option.map_eq_some_iff.mp resent
  exact escalatedGasPrice_mono (steady i j before.le estimate estimated estimate' estimated')
    (EscalationPolicy.getFeeMultiplierPct_monotone raises before.le)

/-- A price is within the capped percentage of its estimate. -/
theorem gasPrice_mul_le {numRetries price : ℕ} (sent : submission.gasPrice numRetries = some price) :
    ∃ estimate, submission.estimate numRetries = some estimate ∧
      price * 100 ≤ estimate * submission.escalationPolicy.feeMultiplierCapPct := by
  obtain ⟨estimate, estimated, rfl⟩ := Option.map_eq_some_iff.mp sent
  refine ⟨estimate, estimated, (escalatedGasPrice_mul_le _ _).trans ?_⟩
  exact Nat.mul_le_mul_left estimate
    (submission.escalationPolicy.getFeeMultiplierPct_le numRetries)

/-! ### How it ends -/

/-- The receipt of an attempt that succeeds is not reverted. -/
theorem status_of_operation {numRetries : ℕ} {receipt : MinedReceipt Bytes32}
    (ok : submission.operation numRetries = .ok receipt) : receipt.status ≠ some 0 := by
  obtain ⟨gasPrice, _, sent⟩ := bind_ok.mp (mapError_ok.mp (mapError_ok.mp ok))
  exact TxAnswers.status_of_sendAndConfirm sent

/-- **What is reported of a success**: the receipt of the last attempt, which is not reverted, the first
`Revealed` event of its logs, and the percentage of this attempt. -/
theorem submitTxWithBackoff_ok {report : SubmitTxReport Bytes32}
    (ok : submission.submitTxWithBackoff = .ok report) :
    ∃ receipt, submission.operation report.numRetries = .ok receipt ∧
      receipt.status ≠ some 0 ∧ receipt.toTransactionReceipt = report.receipt ∧
      receipt.revealed.head? = some report.revealedEvent ∧
      submission.feeMultipliers.getLast? = some report.feeMultiplier := by
  obtain ⟨receipt, outcome, reported⟩ := bind_ok.mp ok
  rw [submission.run_follows.outcome, mapError_ok] at outcome
  cases event : receipt.revealed.head? with
  | none =>
    rw [event] at reported
    cases reported
  | some revealedEvent =>
    rw [event] at reported
    cases pure_ok.mp reported
    exact ⟨receipt, outcome, status_of_operation outcome, rfl, event,
      submission.feeMultipliers_getLast⟩

/-- The estimates of an attempt revert with `NoSuchRequest`. -/
def Stale (submission : TxSubmission Bytes32) (numRetries : ℕ) : Prop :=
  ∃ revert, submission.noSuchRequest revert = true ∧
    (submission.answers numRetries).filledGasPrice = .error (.gasUsageEstimateError (some revert))

/-- Such an attempt fails for good. -/
theorem Stale.operation {numRetries : ℕ} (stale : submission.Stale numRetries) :
    ∃ revert, submission.operation numRetries =
      .error (.permanent (.gasUsageEstimateError (some revert))) := by
  obtain ⟨revert, decodes, estimate⟩ := stale
  refine ⟨revert, ?_⟩
  unfold TxSubmission.operation submitTx
  rw [estimate]
  exact congrArg Except.error (if_pos decodes)

theorem Stale.not_isTransient {numRetries : ℕ} (stale : submission.Stale numRetries) :
    ¬ IsTransient (submission.operation numRetries) := by
  obtain ⟨revert, permanent⟩ := stale.operation
  rw [permanent]
  rintro ⟨_, same⟩
  cases same

/-- **What is not retried**: a request that is gone. -/
theorem isTransient_or_stale {numRetries : ℕ} {error : BackoffError}
    (failed : submission.operation numRetries = .error error) :
    IsTransient (submission.operation numRetries) ∨ submission.Stale numRetries := by
  obtain ⟨_, submitted, rfl⟩ := mapError_error.mp failed
  obtain ⟨err, attempt, rfl⟩ := mapError_error.mp submitted
  rcases mapRevealSubmitError_transient submission.noSuchRequest err with kept | ⟨revert, decodes, rfl⟩
  · rw [kept] at failed
    exact .inl ⟨err, failed⟩
  · rcases bind_error.mp attempt with estimate | ⟨gasPrice, _, sent⟩
    · exact .inr ⟨revert, decodes, estimate⟩
    · exact absurd rfl (TxAnswers.sendAndConfirm_ne sent (some revert))

/-- **A request that is gone ends the submission**: no attempt follows. -/
theorem numRetries_le_of_stale {numRetries : ℕ} (stale : submission.Stale numRetries) :
    submission.run.numRetries ≤ numRetries := by
  by_contra more
  exact stale.not_isTransient (submission.run_earlier (Nat.lt_of_not_le more))

/-- **The submission gives up** only on a request that is gone, on a receipt without the event, or when
there is no time left. -/
theorem gives_up {err : SubmitTxError} (error : submission.submitTxWithBackoff = .error err) :
    submission.Stale submission.run.numRetries ∨
      submission.run.numRetries = submission.delays ∨
      ∃ receipt, submission.operation submission.run.numRetries = .ok receipt ∧
        receipt.revealed = [] := by
  rcases bind_error.mp error with outcome | ⟨receipt, outcome, reported⟩
  · rw [submission.run_follows.outcome] at outcome
    obtain ⟨_, last, _⟩ := mapError_error.mp outcome
    rcases isTransient_or_stale last with transient | stale
    · exact .inr (.inl (submission.run_follows.persists transient))
    · exact .inl stale
  · rw [submission.run_follows.outcome, mapError_ok] at outcome
    refine .inr (.inr ⟨receipt, outcome, ?_⟩)
    cases event : receipt.revealed.head? with
    | none => exact List.head?_eq_none_iff.mp event
    | some revealedEvent =>
      rw [event] at reported
      cases reported

end TxSubmission

/-- **How a submission ends**, whatever the node answers to each attempt. The attempts follow each other,
as many as there is time for; all but the last failed with an error that may be retried, and none
follows one that finds the request gone. A success is that of the last attempt, with a receipt that is
not reverted and the first `Revealed` event of its logs. It gives up on a request that is gone, on a
receipt without the event, or when there is no time left. -/
theorem submission_ends (submission : TxSubmission Bytes32) :
    submission.run.attempts = List.range (submission.run.numRetries + 1) ∧
      submission.run.numRetries ≤ submission.delays ∧
      (∀ numRetries < submission.run.numRetries,
        IsTransient (submission.operation numRetries) ∧ ¬ submission.Stale numRetries) ∧
      (∀ report, submission.submitTxWithBackoff = .ok report →
        report.numRetries = submission.run.numRetries ∧
          ∃ receipt, submission.operation report.numRetries = .ok receipt ∧
            receipt.status ≠ some 0 ∧ receipt.toTransactionReceipt = report.receipt ∧
            receipt.revealed.head? = some report.revealedEvent) ∧
      ∀ err, submission.submitTxWithBackoff = .error err →
        submission.Stale submission.run.numRetries ∨
          submission.run.numRetries = submission.delays ∨
          ∃ receipt, submission.operation submission.run.numRetries = .ok receipt ∧
            receipt.revealed = [] := by
  refine ⟨submission.run_attempts, submission.run_follows.within,
    fun numRetries earlier => ⟨?_, fun stale => ?_⟩, fun report ok => ⟨?_, ?_⟩,
    fun err error => TxSubmission.gives_up error⟩
  · exact submission.run_earlier earlier
  · exact absurd earlier (Nat.not_lt_of_le (TxSubmission.numRetries_le_of_stale stale))
  · obtain ⟨receipt, _, reported⟩ := bind_ok.mp ok
    cases event : receipt.revealed.head? with
    | none =>
      rw [event] at reported
      cases reported
    | some revealedEvent =>
      rw [event] at reported
      cases pure_ok.mp reported
      rfl
  · obtain ⟨receipt, operation, status, same, event, _⟩ := TxSubmission.submitTxWithBackoff_ok ok
    exact ⟨receipt, operation, status, same, event⟩

/-- **What a submission pays.** With a multiplier of at least 100 and estimates that do not go down, no
transaction is sent with a lower price than one before it; and each price is within the capped
percentage of its estimate. -/
theorem submission_prices (submission : TxSubmission Bytes32)
    (raises : 100 ≤ submission.escalationPolicy.feeMultiplierPct) (steady : submission.Steady) :
    submission.gasPrices.Pairwise (· ≤ ·) ∧
      ∀ numRetries ∈ submission.run.attempts, ∀ price,
        submission.gasPrice numRetries = some price →
          ∃ estimate, submission.estimate numRetries = some estimate ∧
            price * 100 ≤ estimate * submission.escalationPolicy.feeMultiplierCapPct :=
  ⟨TxSubmission.gasPrices_sorted raises steady, fun _ _ _ sent => TxSubmission.gasPrice_mul_le sent⟩

namespace Sample

section Backoff

variable {operation : ℕ → Except BackoffError α} {notify : ℕ → ℕ} {run : Retried α}
variable {delays first retries : ℕ}

/-- A loop with a fixed number of delays. -/
def retryNotify (operation : ℕ → Except BackoffError α) (notify : ℕ → ℕ) (delays numRetries : ℕ) :
    Retried α :=
  match operation numRetries with
  | .ok value => ⟨[numRetries], numRetries, .ok value⟩
  | .error (.permanent err) => ⟨[numRetries], numRetries, .error err⟩
  | .error (.transient err) =>
      match delays with
      | 0 => ⟨[numRetries], numRetries, .error err⟩
      | delays + 1 =>
          let rest := retryNotify operation notify delays (notify numRetries)
          { rest with attempts := numRetries :: rest.attempts }

/-- A run of one attempt. -/
theorem follows_single (operation : ℕ → Except BackoffError α) (notify : ℕ → ℕ) (delays first : ℕ)
    (persists : IsTransient (operation first) → delays = 0) :
    (Retried.mk [first] first ((operation first).mapError BackoffError.err)).Follows
      operation notify delays first 0 where
  attempts := rfl
  numRetries := rfl
  within := Nat.zero_le delays
  earlier k before := absurd before (Nat.not_lt_zero k)
  outcome := rfl
  persists transient := (persists transient).symm

/-- One attempt more, before the others. -/
theorem follows_retried (follows : run.Follows operation notify delays (notify first) retries)
    (transient : IsTransient (operation first)) :
    ({ run with attempts := first :: run.attempts } : Retried α).Follows operation notify
      (delays + 1) first (retries + 1) where
  attempts := by
    show first :: run.attempts = _
    rw [follows.attempts, @List.range_succ_eq_map (retries + 1), List.map_cons, List.map_map]
    rfl
  numRetries := follows.numRetries
  within := Nat.succ_le_succ follows.within
  earlier k before := by
    cases k with
    | zero => exact transient
    | succ k => exact follows.earlier k (Nat.lt_of_succ_lt_succ before)
  outcome := follows.outcome
  persists last := congrArg (· + 1) (follows.persists last)

theorem retryNotify_follows (operation : ℕ → Except BackoffError α) (notify : ℕ → ℕ)
    (delays first : ℕ) : ∃ retries,
    (retryNotify operation notify delays first).Follows operation notify delays first retries := by
  induction delays generalizing first with
  | zero =>
    have single := follows_single operation notify 0 first fun _ => rfl
    refine ⟨0, ?_⟩
    unfold retryNotify
    cases made : operation first with
    | ok value =>
      rw [made] at single
      exact single
    | error error =>
      rw [made] at single
      cases error <;> exact single
  | succ delays ih =>
    have single := follows_single operation notify (delays + 1) first
    unfold retryNotify
    cases made : operation first with
    | ok value =>
      rw [made] at single
      exact ⟨0, single fun ⟨_, same⟩ => nomatch same⟩
    | error error =>
      cases error with
      | permanent err =>
        rw [made] at single
        exact ⟨0, single fun ⟨_, same⟩ => nomatch same⟩
      | transient err =>
        obtain ⟨retries, follows⟩ := ih (notify first)
        exact ⟨retries + 1, follows_retried follows ⟨err, made⟩⟩

/-- A backoff that has time for so many delays, whatever is attempted. -/
def backoff (delays : ℕ) : RetryLoop α where
  delays _ := delays
  retryNotify operation notify first := retryNotify operation notify delays first
  follows operation notify first := retryNotify_follows operation notify delays first

end Backoff

/-- Nothing is confirmed, and the estimate rises by one with each attempt. -/
def lostSubmission : TxSubmission ℕ where
  escalationPolicy := ⟨110, 200⟩
  answers numRetries := {
    estimateGas := .ok 100000
    fillTransaction := .ok (some (1000 + numRetries))
    sendTransaction := fun _ => .ok ()
    pendingTx := fun _ => .error
    sighash := fun _ => [] }
  noSuchRequest _ := false
  backoff := backoff 2
  callSighash := []

end Sample

/-- Three attempts, and no time for a fourth. -/
theorem submission_ends_lost :
    Sample.lostSubmission.run.attempts = List.range 3 ∧
      IsTransient (Sample.lostSubmission.operation 1) ∧
      ∃ err, Sample.lostSubmission.submitTxWithBackoff = .error err ∧
        Sample.lostSubmission.run.numRetries = Sample.lostSubmission.delays := by
  obtain ⟨attempts, _, earlier, _, gives_up⟩ := submission_ends Sample.lostSubmission
  refine ⟨attempts, (earlier 1 (by decide)).1, _, rfl, ?_⟩
  obtain ⟨_, decodes, _⟩ | spent | ⟨_, confirmed, _⟩ := gives_up _ rfl
  · cases decodes
  · exact spent
  · cases confirmed

/-- Three attempts, each with a higher price. -/
theorem submission_prices_lost :
    Sample.lostSubmission.gasPrices = [1000, 1101, 1212] ∧
      Sample.lostSubmission.gasPrices.Pairwise (· ≤ ·) := by
  refine ⟨by decide, (submission_prices Sample.lostSubmission (by decide) ?_).1⟩
  rintro i j le _ ⟨⟩ _ ⟨⟩
  exact Nat.add_le_add_left le 1000

end Dice
