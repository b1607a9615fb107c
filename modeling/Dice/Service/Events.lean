/-
**What is recorded of a request after its reveal was submitted.**

* `processEventWithBackoff` — the task of one event, with the answers of the node as arguments: the
  statuses that it adds to the history.
* `getRevealedEvent` — the reveal that the log queries find.
* `Chain.Reconciles` — after a submission error, with the request gone, the record says `Completed` with
  the data of the reveal that cleared the request, and says so only of such a reveal.
* `reconciles_iff` — this is so exactly when the reveal that cleared the request reported no failed
  callback, and no refund was made within a successful one.

A request without a gas limit, or one that is tried again, is cleared before its callback, so its
reveal reports a failed callback and is passed over.
-/

import Dice.Service.Chain
import Dice.Service.ChainState
import Dice.Service.Registration

set_option linter.unusedSectionVars false

namespace Dice

variable {Bytes32 : Type}

/-! ### The record -/

/-- `RequestEntryState`. -/
inductive RequestEntryState (Bytes32 : Type) where
  | pending
  | completed (revealBlockNumber : ℕ) (revealTxHash providerRandomNumber : Bytes32) (gasUsed : ℕ)
      (combinedRandomNumber : Bytes32) (callbackFailed : Bool) (callbackReturnValue : Bytes)
      (callbackGasUsed : ℕ)
  | failed (reason : Text) (providerRandomNumber : Option Bytes32)
  deriving DecidableEq

/-- The request is recorded as revealed. -/
def RequestEntryState.IsCompleted : RequestEntryState Bytes32 → Prop
  | .completed .. => True
  | _ => False

/-- `RequestStatus`. Times are nanoseconds since the epoch. -/
structure RequestStatus (Bytes32 : Type) where
  chainId : Text
  networkId : ℕ
  provider : Address
  sequence : ℕ
  createdAt : ℤ
  lastUpdatedAt : ℤ
  requestBlockNumber : ℕ
  requestTxHash : Bytes32
  gasLimit : ℕ
  userRandomNumber : Bytes32
  sender : Address
  state : RequestEntryState Bytes32
  deriving DecidableEq

/-- `RequestedV2Event`. -/
structure RequestedV2Event (Bytes32 : Type) where
  sequenceNumber : ℕ
  userRandomNumber : Bytes32
  providerAddress : Address
  sender : Address
  gasLimit : ℕ
  logMeta : LogMeta Bytes32

/-- `RevealedV2Event`. -/
structure RevealedV2Event (Bytes32 : Type) where
  providerRevelation : Bytes32
  randomNumber : Bytes32
  callbackFailed : Bool
  callbackReturnValue : Bytes
  callbackGasUsed : ℕ
  gasUsed : ℕ
  logMeta : LogMeta Bytes32
  deriving DecidableEq

/-! ### What the node answers -/

/-- An RPC error, as it is displayed. -/
abbrev RpcError := Text

/-- `SubmitTxError`, with what is displayed of it: the data of a revert, if it is one, and the hashes
of transactions. -/
inductive SubmitTxError where
  | gasUsageEstimateError (revert : Option Text)
  | gasLimitExceeded (estimate limit : ℕ)
  | gasPriceEstimateError
  | submissionError
  | confirmationTimeout (sighash : Text)
  | confirmationError (sighash : Text)
  | receiptError (sighash : Text)
  deriving DecidableEq

/-- `TransactionReceipt`, as far as it is used. -/
structure TransactionReceipt (Bytes32 : Type) where
  blockNumber : Option ℕ
  transactionHash : Bytes32
  gasUsed : Option ℕ

/-- `SubmitTxResult`, without its numbers for the metrics. -/
structure SubmitTxResult (Bytes32 : Type) where
  receipt : TransactionReceipt Bytes32
  revealedEvent : RevealedFilter Bytes32

/-- What the task learns from outside: the request after the backup delay, the outcome of the
submission, the request after it, the answer to the log query, the gas of transactions, and the
time. -/
structure Answers (Bytes32 : Type) where
  backup : Except RpcError (Option (Request Bytes32))
  submission : Except SubmitTxError (SubmitTxResult Bytes32)
  request : Except RpcError (Option (Request Bytes32))
  revealedLogs : Except RpcError (List (RevealedFilter Bytes32 × LogMeta Bytes32))
  receiptGas : Bytes32 → Option ℕ
  createdAt : ℤ
  startedAt : ℤ
  submittedAt : ℤ

/-- `ReplicaConfig`, without the delay, as `Config::load` accepts it. -/
structure ReplicaConfig where
  replicaId : ℕ
  totalReplicas : ℕ
  replicaId_lt : replicaId < totalReplicas

/-- `ProcessParams`, as far as the task of an event uses it. -/
structure ProcessParams (Bytes32 : Type) where
  chainId : Text
  networkId : ℕ
  providerAddress : Address
  state : HashChainState Bytes32
  replicaConfig : Option ReplicaConfig

/-! ### The task -/

section Task

variable (K : Keccak Bytes32)

/-- `generate_combined_random_number`. -/
def generateCombinedRandomNumber (userRandomNumber providerRandomNumber : Bytes32) : Bytes32 :=
  K.keccak256 [userRandomNumber, providerRandomNumber, K.word 0]

/-- The data of a log, with the gas of its transaction. -/
def revealedV2Event (receiptGas : Bytes32 → Option ℕ)
    (log : RevealedFilter Bytes32 × LogMeta Bytes32) : RevealedV2Event Bytes32 where
  providerRevelation := log.1.providerContribution
  randomNumber := log.1.randomNumber
  callbackFailed := log.1.callbackFailed
  callbackReturnValue := log.1.callbackReturnValue
  callbackGasUsed := log.1.callbackGasUsed
  gasUsed := (receiptGas log.2.transactionHash).getD 0
  logMeta := log.2

/-- `get_revealed_event`: the first log that reports no failed callback. -/
def getRevealedEvent (res : Except RpcError (List (RevealedFilter Bytes32 × LogMeta Bytes32)))
    (receiptGas : Bytes32 → Option ℕ) : Except RpcError (Option (RevealedV2Event Bytes32)) :=
  res.map fun logs =>
    (logs.find? fun log => !log.1.callbackFailed).map (revealedV2Event receiptGas)

/-- The state recorded for a reveal that was found on chain. -/
def RevealedV2Event.completed (revealed : RevealedV2Event Bytes32) : RequestEntryState Bytes32 :=
  .completed revealed.logMeta.blockNumber revealed.logMeta.transactionHash
    revealed.providerRevelation revealed.gasUsed revealed.randomNumber revealed.callbackFailed
    revealed.callbackReturnValue revealed.callbackGasUsed

/-- The state recorded for a submission that succeeded. -/
def SubmitTxResult.completed (result : SubmitTxResult Bytes32)
    (userRandomNumber providerRevelation : Bytes32) : RequestEntryState Bytes32 :=
  .completed (result.receipt.blockNumber.getD 0) result.receipt.transactionHash providerRevelation
    (result.receipt.gasUsed.getD 0)
    (generateCombinedRandomNumber K userRandomNumber providerRevelation)
    result.revealedEvent.callbackFailed result.revealedEvent.callbackReturnValue
    result.revealedEvent.callbackGasUsed

/-- The reason of a failure, without details of the RPC. -/
def SubmitTxError.reason : SubmitTxError → Text
  | .gasUsageEstimateError (some revert) => "Reverted: ".toList ++ revert
  | .gasLimitExceeded estimate limit =>
      "Gas limit exceeded: limit = ".toList ++ (toString limit).toList ++ ", estimate = ".toList ++
        (toString estimate).toList
  | .gasUsageEstimateError none => "Unable to estimate gas usage".toList
  | .gasPriceEstimateError => "Unable to estimate gas price".toList
  | .submissionError => "Error submitting the transaction on-chain".toList
  | .confirmationTimeout sighash =>
      "Transaction was submitted, but never confirmed. Hash: ".toList ++ sighash
  | .confirmationError sighash =>
      "Transaction was submitted, but never confirmed. Hash: ".toList ++ sighash
  | .receiptError sighash => "Reveal transaction failed on-chain. Hash: ".toList ++ sighash

/-- The texts of the errors of a hash chain. -/
def ChainError.text : ChainError → Text
  | .indexNotInRange => "index not in range".toList
  | .lengthsDiffer => "Offsets and hash chains must have the same length.".toList
  | .chainNotAvailable => "Hash chain for the requested sequence number is not available.".toList
  | .panicked => []

/-- A backup replica leaves the event alone: the request has gone, or its callback was started. A
replica that cannot tell goes on. -/
def ProcessParams.skips (params : ProcessParams Bytes32) (event : RequestedV2Event Bytes32)
    (backup : Except RpcError (Option (Request Bytes32))) : Bool :=
  match params.replicaConfig with
  | none => false
  | some config =>
      if event.sequenceNumber % config.totalReplicas = config.replicaId then false
      else match backup with
        | .ok (some req) => req.callbackStatus ≠ .notStarted
        | .ok none => true
        | .error _ => false

/-- The status that the task begins with. -/
def initialStatus (params : ProcessParams Bytes32) (event : RequestedV2Event Bytes32)
    (answers : Answers Bytes32) : RequestStatus Bytes32 where
  chainId := params.chainId
  networkId := params.networkId
  provider := event.providerAddress
  sequence := event.sequenceNumber
  createdAt := answers.createdAt
  lastUpdatedAt := answers.startedAt
  requestBlockNumber := event.logMeta.blockNumber
  requestTxHash := event.logMeta.transactionHash
  gasLimit := event.gasLimit
  userRandomNumber := event.userRandomNumber
  sender := event.sender
  state := .pending

/-- The state after the submission, unless it stays pending. -/
def settledState (event : RequestedV2Event Bytes32) (answers : Answers Bytes32)
    (providerRevelation : Bytes32) : Option (RequestEntryState Bytes32) :=
  match answers.submission with
  | .ok result => some (result.completed K event.userRandomNumber providerRevelation)
  | .error error =>
      match answers.request with
      | .ok (some _) => some (.failed error.reason (some providerRevelation))
      | .ok none =>
          match getRevealedEvent answers.revealedLogs answers.receiptGas with
          | .ok (some revealed) => some revealed.completed
          | _ => none
      | .error _ => none

/-- **`process_event_with_backoff`**: what is added to the history, in this order. -/
def processEventWithBackoff (params : ProcessParams Bytes32) (event : RequestedV2Event Bytes32)
    (answers : Answers Bytes32) : List (RequestStatus Bytes32) :=
  if params.providerAddress ≠ event.providerAddress then []
  else if params.skips event answers.backup then []
  else
    let status := initialStatus params event answers
    match params.state.reveal (chainHash K) event.sequenceNumber with
    -- an index out of bounds ends the task
    | .error .panicked => [status]
    | .error error =>
        [status, { status with state := .failed ("Error revealing: ".toList ++ error.text) none }]
    | .ok providerRevelation =>
        match settledState K event answers providerRevelation with
        | none => [status]
        | some state => [status, { status with state, lastUpdatedAt := answers.submittedAt }]

/-- The task records a state. -/
def Records (params : ProcessParams Bytes32) (event : RequestedV2Event Bytes32)
    (answers : Answers Bytes32) (state : RequestEntryState Bytes32) : Prop :=
  ∃ status ∈ processEventWithBackoff K params event answers, status.state = state

/-- **The task finds the request gone** after a submission error. -/
structure FindsGone (params : ProcessParams Bytes32) (event : RequestedV2Event Bytes32)
    (answers : Answers Bytes32) : Prop where
  own : params.providerAddress = event.providerAddress
  turn : params.skips event answers.backup = false
  revelation : ∃ v, params.state.reveal (chainHash K) event.sequenceNumber = .ok v
  submission : ∃ error, answers.submission = .error error
  request : answers.request = .ok none

variable {K} {params : ProcessParams Bytes32} {event : RequestedV2Event Bytes32}
variable {answers : Answers Bytes32} {state : RequestEntryState Bytes32}

/-- Then `Completed` is recorded exactly of a reveal that the log query returns. -/
theorem FindsGone.records_completed (finds : FindsGone K params event answers)
    (completed : state.IsCompleted) :
    Records K params event answers state ↔ ∃ revealed,
      getRevealedEvent answers.revealedLogs answers.receiptGas = .ok (some revealed) ∧
        state = revealed.completed := by
  obtain ⟨v, revelation⟩ := finds.revelation
  obtain ⟨error, submission⟩ := finds.submission
  have pending : (initialStatus params event answers).state ≠ state := by
    intro same
    rw [← same] at completed
    exact completed
  unfold Records processEventWithBackoff
  rw [if_neg (not_not.mpr finds.own), finds.turn, if_neg Bool.false_ne_true]
  simp only [revelation, settledState, submission, finds.request]
  cases found : getRevealedEvent answers.revealedLogs answers.receiptGas with
  | error _ => simp [pending]
  | ok revealed =>
    cases revealed with
    | none => simp [pending]
    | some revealed => simp [pending.symm, eq_comm]

end Task

/-- The request of an event. -/
def RequestedV2Event.key (event : RequestedV2Event Bytes32) : RequestKey :=
  (event.providerAddress, event.sequenceNumber)

/-! ### The chain and the record -/

variable {K : Keccak Bytes32} [DecidableEq Bytes32]

namespace Chain

variable (chain : Chain K) (event : RequestedV2Event Bytes32) (head : ℕ)

/-- The `Revealed` logs of the request from its block on. -/
def eventLogs : List (RevealedFilter Bytes32 × LogMeta Bytes32) :=
  chain.revealedLogs event.providerAddress event.sequenceNumber event.logMeta.blockNumber head

/-- **The log of the reveal that cleared the request.** -/
structure ClearingLog (log : RevealedFilter Bytes32 × LogMeta Bytes32) : Prop where
  cleared : (chain.atBlock head).ClearedBy K event.key log.1
  last : (chain.eventLogs event head).getLast? = some log

/-- The event is on the chain, and the queries succeed: the request is read at one block, and the logs
are read at this block or a later one. -/
structure AnsweredAt (asked : ℕ) (answers : Answers Bytes32) : Prop where
  requested : chain.RequestedIn event.key event.logMeta.blockNumber
  after : event.logMeta.blockNumber ≤ asked
  later : asked ≤ head
  request : answers.request =
    .ok (getRequestV2 K (chain.atBlock asked) event.providerAddress event.sequenceNumber)
  logs : answers.revealedLogs = .ok (chain.eventLogs event head)

/-- **The record agrees with the chain**: `Completed` is recorded, with its data, of the reveal that
cleared the request, and of nothing else; that is, `get_revealed_event` finds this reveal. -/
structure Reconciles (params : ProcessParams Bytes32) (answers : Answers Bytes32) : Prop where
  completed : ∀ log, chain.ClearingLog event head log →
    Records K params event answers (revealedV2Event answers.receiptGas log).completed
  genuine : ∀ state, state.IsCompleted → Records K params event answers state →
    ∃ log, chain.ClearingLog event head log ∧
      state = (revealedV2Event answers.receiptGas log).completed
  found : ∀ revealed, getRevealedEvent answers.revealedLogs answers.receiptGas =
      .ok (some revealed) ↔
    ∃ log, chain.ClearingLog event head log ∧ revealed = revealedV2Event answers.receiptGas log

/-- The reveal that cleared the request reports no failed callback, and a request that was refunded has
no `Revealed` event that does so. -/
structure Tells : Prop where
  cleared : ∀ revealed, (chain.atBlock head).ClearedBy K event.key revealed →
    revealed.callbackFailed = false
  refunded : 0 < (chain.atBlock head).refunds event.key →
    ∀ revealed ∈ (chain.atBlock head).revealedEvents event.key, revealed.callbackFailed = true

variable {chain event head} {log : RevealedFilter Bytes32 × LogMeta Bytes32}
variable {params : ProcessParams Bytes32} {answers : Answers Bytes32} {asked : ℕ}

/-- Where only the last element can pass a test, a search finds this one. -/
theorem find?_of_dropLast {α : Type} {p : α → Bool} {l : List α} {x : α}
    (others : ∀ y ∈ l.dropLast, p y = false) :
    l.find? p = some x ↔ l.getLast? = some x ∧ p x = true := by
  rcases List.eq_nil_or_concat l with rfl | ⟨before, last, rfl⟩
  · simp
  · rw [List.concat_eq_append] at others ⊢
    rw [List.dropLast_concat] at others
    have none_before : before.find? p = none :=
      List.find?_eq_none.mpr fun y member => by rw [others y member]; exact Bool.false_ne_true
    rw [List.find?_append, none_before, Option.none_or, List.getLast?_concat]
    by_cases passes : p last = true
    · rw [List.find?_cons_of_pos passes]
      constructor
      · rintro ⟨⟩
        exact ⟨rfl, passes⟩
      · exact And.left
    · rw [List.find?_cons_of_neg passes]
      constructor
      · nofun
      · rintro ⟨⟨⟩, holds⟩
        exact absurd holds passes

/-- The last log is of the newest event. -/
theorem AnsweredAt.newest (answered : chain.AnsweredAt event head asked answers) :
    (chain.eventLogs event head).getLast?.map Prod.fst =
      ((chain.atBlock head).revealedEvents event.key).head? := by
  have events : (chain.eventLogs event head).map Prod.fst = _ :=
    revealedLogs_events answered.requested (Nat.le_trans answered.after answered.later)
  rw [← List.getLast?_map, events, List.getLast?_reverse]
  rfl

theorem AnsweredAt.reachable (answered : chain.AnsweredAt event head asked answers) {b : ℕ}
    (later : asked ≤ b) : Reachable K anyCall ⟨chain.atBlock b, []⟩ :=
  block_reachable (Nat.le_trans answered.requested.deployed (Nat.le_trans answered.after later))

/-- **What the log query finds**: the last log, if it reports no failed callback. -/
theorem AnsweredAt.find (answered : chain.AnsweredAt event head asked answers) :
    (chain.eventLogs event head).find? (fun log => !log.1.callbackFailed) = some log ↔
      (chain.eventLogs event head).getLast? = some log ∧ log.1.callbackFailed = false := by
  have events : (chain.eventLogs event head).map Prod.fst = _ :=
    revealedLogs_events answered.requested (Nat.le_trans answered.after answered.later)
  have earlier := ((answered.reachable answered.later).reported event.key).earlier
  rw [find?_of_dropLast, Bool.not_eq_true']
  intro other member
  have older : other.1 ∈ ((chain.eventLogs event head).map Prod.fst).dropLast := by
    rw [← List.map_dropLast]
    exact List.mem_map_of_mem member
  rw [events, List.dropLast_reverse, List.mem_reverse] at older
  rw [earlier _ older]
  rfl

theorem AnsweredAt.getRevealedEvent (answered : chain.AnsweredAt event head asked answers)
    {revealed : RevealedV2Event Bytes32} :
    getRevealedEvent answers.revealedLogs answers.receiptGas = .ok (some revealed) ↔
      ∃ log, (chain.eventLogs event head).getLast? = some log ∧ log.1.callbackFailed = false ∧
        revealed = revealedV2Event answers.receiptGas log := by
  unfold Dice.getRevealedEvent
  rw [answered.logs]
  show Except.ok _ = Except.ok _ ↔ _
  rw [Except.ok.injEq, Option.map_eq_some_iff]
  refine exists_congr fun log => ?_
  rw [answered.find, and_assoc, eq_comm (a := revealed)]

/-- The request is gone from then on. -/
theorem AnsweredAt.gone (answered : chain.AnsweredAt event head asked answers)
    (finds : FindsGone K params event answers) : (chain.atBlock head).Gone K event.key := by
  have deployed := Nat.le_trans answered.requested.deployed answered.after
  have reach := block_reachable deployed
  have absent : getRequestV2 K (chain.atBlock asked) event.providerAddress event.sequenceNumber =
      none := Except.ok.inj (answered.request.symm.trans finds.request)
  rw [getRequestV2_eq reach.sound] at absent
  have used : (chain.atBlock asked).Used event.key := by
    by_contra fresh
    exact answered.requested.made answered.after ((reach.reported event.key).unused fresh).2
  have gone : (chain.atBlock asked).Gone K event.key := ⟨used, absent⟩
  exact gone.mono (reports deployed answered.later event.key).1.toKeeps

/-- Of a request that is gone and was not refunded, the last log is of the reveal that cleared it. -/
theorem AnsweredAt.clearingLog (answered : chain.AnsweredAt event head asked answers)
    (gone : (chain.atBlock head).Gone K event.key) :
    chain.ClearingLog event head log ↔
      (chain.atBlock head).refunds event.key = 0 ∧
        (chain.eventLogs event head).getLast? = some log := by
  constructor
  · exact fun clearing => ⟨clearing.cleared.unrefunded, clearing.last⟩
  · rintro ⟨unrefunded, last⟩
    refine ⟨⟨gone, unrefunded, ?_⟩, last⟩
    rw [← answered.newest, last]
    rfl

/-- **Which records agree.** In every run of the contract on every chain: after a submission error,
when the request of an event is found gone and the log queries succeed, the record agrees with the
chain exactly when the events tell what happened: the reveal that cleared the request did not report
a failed callback, and the request was not refunded within a callback that succeeded. -/
theorem reconciles_iff (answered : chain.AnsweredAt event head asked answers)
    (finds : FindsGone K params event answers) :
    chain.Reconciles event head params answers ↔ chain.Tells event head := by
  have gone := answered.gone finds
  constructor
  · intro reconciles
    refine ⟨fun revealed cleared => ?_, fun refunded revealed member => ?_⟩
    · have newest := answered.newest
      rw [cleared.last] at newest
      obtain ⟨log, last, rfl⟩ := Option.map_eq_some_iff.mp newest
      have clearing := answered.clearingLog gone |>.mpr ⟨cleared.unrefunded, last⟩
      obtain ⟨log', last', succeeded, _⟩ :=
        answered.getRevealedEvent.mp ((reconciles.found _).mpr ⟨log, clearing, rfl⟩)
      rw [last] at last'
      cases last'
      exact succeeded
    · -- a success that was reported would be found, though no reveal cleared the request
      by_contra succeeded
      have reported := (answered.reachable answered.later).reported event.key
      cases events : (chain.atBlock head).revealedEvents event.key with
      | nil =>
        rw [events] at member
        cases member
      | cons first earlier =>
        have failed := reported.earlier
        rw [events] at failed member
        rcases List.mem_cons.mp member with rfl | older
        · have newest := answered.newest
          rw [events] at newest
          obtain ⟨log, last, rfl⟩ := Option.map_eq_some_iff.mp newest
          have found := answered.getRevealedEvent.mpr
            ⟨log, last, Bool.not_eq_true _ |>.mp succeeded, rfl⟩
          obtain ⟨log', clearing, _⟩ := (reconciles.found _).mp found
          exact absurd clearing.cleared.unrefunded (Nat.ne_of_gt refunded)
        · exact succeeded (failed _ older)
  · intro tells
    have found : ∀ revealed, getRevealedEvent answers.revealedLogs answers.receiptGas =
        .ok (some revealed) ↔
          ∃ log, chain.ClearingLog event head log ∧
            revealed = revealedV2Event answers.receiptGas log := by
      intro revealed
      rw [answered.getRevealedEvent]
      refine exists_congr fun log => ?_
      rw [answered.clearingLog gone]
      constructor
      · rintro ⟨last, succeeded, same⟩
        refine ⟨⟨?_, last⟩, same⟩
        by_contra refunded
        have newest := answered.newest
        rw [last] at newest
        have failed := tells.refunded (Nat.pos_of_ne_zero refunded) log.1
          (List.mem_of_mem_head? newest.symm)
        rw [succeeded] at failed
        cases failed
      · rintro ⟨⟨unrefunded, last⟩, same⟩
        have clearing := (answered.clearingLog gone).mpr ⟨unrefunded, last⟩
        exact ⟨last, tells.cleared _ clearing.cleared, same⟩
    refine ⟨fun log clearing => ?_, fun state completed records => ?_, found⟩
    · have completed : (revealedV2Event answers.receiptGas log).completed.IsCompleted := trivial
      exact (finds.records_completed completed).mpr ⟨_, (found _).mpr ⟨log, clearing, rfl⟩, rfl⟩
    · obtain ⟨revealed, here, same⟩ := (finds.records_completed completed).mp records
      obtain ⟨log, clearing, rfl⟩ := (found revealed).mp here
      exact ⟨log, clearing, same⟩

end Chain

namespace Sample

/-- The service of the sample provider. -/
def processParams : ProcessParams Sym where
  chainId := "sample".toList
  networkId := 1
  providerAddress := provider
  state := ⟨[0], [firstChain]⟩
  replicaConfig := none

/-- The event of the first request, made in block 101. -/
def requestedEvent : RequestedV2Event Sym where
  sequenceNumber := 1
  userRandomNumber := contribution 1
  providerAddress := provider
  sender := user
  gasLimit := 0
  logMeta := ⟨101, .pair (.atom 101) (.atom 0)⟩

/-- The submission fails, and then the node answers from block 101. -/
def answersOf (chain : Chain symbolic) : Answers Sym where
  backup := .error []
  submission := .error (.confirmationTimeout [])
  request := .ok (getRequestV2 symbolic (chain.atBlock 101) provider 1)
  revealedLogs := .ok (chain.eventLogs requestedEvent 101)
  receiptGas := fun _ => some 21000
  createdAt := 0
  startedAt := 0
  submittedAt := 300

/-- The request is made and revealed in one block, without a gas limit; its callback fails. -/
def failedCallback : Chain symbolic := chain [request 1, reveal 1, failed] rfl

/-- The same with a callback that succeeds. -/
def succeededCallback : Chain symbolic := chain [request 1, reveal 1, succeed] rfl

theorem answeredAt {c : Chain symbolic}
    (requested : c.RequestedIn (provider, 1) 101) :
    c.AnsweredAt requestedEvent 101 101 (answersOf c) :=
  ⟨requested, le_rfl, le_rfl, rfl, rfl⟩

theorem findsGone {c : Chain symbolic}
    (gone : getRequestV2 symbolic (c.atBlock 101) provider 1 = none) :
    FindsGone symbolic processParams requestedEvent (answersOf c) :=
  ⟨rfl, rfl, exists_of_isOk (by decide +kernel), ⟨_, rfl⟩, congrArg _ gone⟩

end Sample

/-- The only event says that the callback succeeded, and nothing was refunded. -/
theorem reconciles_iff_succeeded :
    Sample.succeededCallback.Tells Sample.requestedEvent 101 ∧
      Sample.succeededCallback.Reconciles Sample.requestedEvent 101 Sample.processParams
        (Sample.answersOf Sample.succeededCallback) := by
  have requested : Sample.succeededCallback.RequestedIn (Sample.provider, 1) 101 :=
    ⟨_, List.mem_of_mem_head? rfl, by decide +kernel⟩
  have succeeded : ∀ event ∈ (Sample.succeededCallback.atBlock 101).revealedEvents
      Sample.requestedEvent.key, event.callbackFailed = false := by
    decide +kernel
  have unrefunded : (Sample.succeededCallback.atBlock 101).refunds Sample.requestedEvent.key = 0 := by
    decide +kernel
  have tells : Sample.succeededCallback.Tells Sample.requestedEvent 101 :=
    ⟨fun event cleared => succeeded event (List.mem_of_mem_head? cleared.last),
      fun refunded => absurd unrefunded (Nat.ne_of_gt refunded)⟩
  exact ⟨tells, (Chain.reconciles_iff (Sample.answeredAt requested)
    (Sample.findsGone (Option.isNone_iff_eq_none.mp (by decide +kernel)))).mpr tells⟩

/-- **A reveal that is passed over**: a request without a gas limit is revealed, and its callback fails.
It is gone, cleared by this reveal, and the keeper records nothing after `Pending`. -/
theorem revealed_stays_pending :
    Sample.failedCallback.AnsweredAt Sample.requestedEvent 101 101
        (Sample.answersOf Sample.failedCallback) ∧
      FindsGone symbolic Sample.processParams Sample.requestedEvent
        (Sample.answersOf Sample.failedCallback) ∧
      (∃ log, Sample.failedCallback.ClearingLog Sample.requestedEvent 101 log) ∧
      (processEventWithBackoff symbolic Sample.processParams Sample.requestedEvent
        (Sample.answersOf Sample.failedCallback)).map RequestStatus.state = [.pending] ∧
      ¬ Sample.failedCallback.Reconciles Sample.requestedEvent 101 Sample.processParams
        (Sample.answersOf Sample.failedCallback) := by
  have requested : Sample.failedCallback.RequestedIn (Sample.provider, 1) 101 :=
    ⟨_, List.mem_of_mem_head? rfl, by decide +kernel⟩
  have answered := Sample.answeredAt requested
  have finds := Sample.findsGone (c := Sample.failedCallback)
    (Option.isNone_iff_eq_none.mp (by decide +kernel))
  have unrefunded : (Sample.failedCallback.atBlock 101).refunds (Sample.provider, 1) = 0 := by
    decide +kernel
  have logged : ((Sample.failedCallback.eventLogs Sample.requestedEvent 101).getLast?).isSome := by
    decide +kernel
  obtain ⟨log, last⟩ := Option.isSome_iff_exists.mp logged
  have clearing := (answered.clearingLog (answered.gone finds)).mpr ⟨unrefunded, last⟩
  have recorded : (processEventWithBackoff symbolic Sample.processParams Sample.requestedEvent
      (Sample.answersOf Sample.failedCallback)).map RequestStatus.state = [.pending] := by
    decide +kernel
  refine ⟨answered, finds, ⟨log, clearing⟩, recorded, fun reconciles => ?_⟩
  obtain ⟨status, member, completed⟩ := reconciles.completed log clearing
  have state := List.mem_map_of_mem (f := RequestStatus.state) member
  rw [recorded, List.mem_singleton, completed] at state
  cases state

end Dice
