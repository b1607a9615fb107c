/-
**What is recorded of a reveal that is confirmed.**

The transaction of a reveal is executed in some later state of the chain, and its receipt has the logs of
all that happened within it, of the callback too.

* `Executes` — a transaction that is executed and does not revert, with everything its callee does.
* `Executes.reveals` — the last event of such a transaction is the `Revealed` of its own request, with the
  number that `generate_combined_random_number` computes.
* `HasLogs`, `ReceiptOf` — the `Revealed` logs of a receipt. Those of other contracts decode too.
* `confirmed_recorded` — the record of a submission that succeeds: its numbers are always those of that
  last event, and it tells all that this event tells exactly if the first log says the same of its
  callback.

`submit_tx_with_backoff` reports the first log. A consumer that reveals another request within its
callback, or emits a log of this form, comes first.
-/

import Dice.Contract.Transactions
import Dice.Service.Disclosure
import Dice.Service.Submissions

set_option linter.unusedSectionVars false

namespace Dice

variable {Bytes32 : Type}

/-! ### Transactions -/

section Transactions

variable (K : Keccak Bytes32) [DecidableEq Bytes32]

/-- **A transaction that is executed**: the call finishes at once, or makes a message call, which
anything may happen in, and then does not revert. -/
inductive Executes (m : Message Bytes32) (w : World Bytes32) : World Bytes32 → Prop
  | atOnce {w' : World Bytes32} : start K m w = .done w' → Executes m w w'
  | called {w₁ w₂ w' : World Bytes32} {pending : Pending Bytes32} {reply : CallResult} :
      start K m w = .calling w₁ pending →
      CallStack.Continues (dice K) anyCall ⟨w₁, [⟨w, w₁, pending⟩]⟩ 1 ⟨w₂, [⟨w, w₁, pending⟩]⟩ →
      resume K pending reply (if reply.success then w₂ else w₁) = .ok w' → Executes m w w'

variable {K} {m : Message Bytes32} {w w' : World Bytes32}

/-- It is part of a run. -/
theorem Executes.reachable (executes : Executes K m w w') (reach : Reachable K anyCall ⟨w, []⟩) :
    Reachable K anyCall ⟨w', []⟩ := by
  have called := Reachable.step K reach (.call m) trivial
  cases executes with
  | atOnce started =>
    rw [CallStack.Component.step_done started] at called
    exact called
  | @called w₁ w₂ _ pending reply started continues resumed =>
    rw [CallStack.Component.step_calling started] at called
    obtain ⟨d, origin, deployed, run⟩ := called
    have returned := Reachable.step K ⟨d, origin, deployed, .trans _ run continues.reachable⟩
      (.ret reply) trivial
    have finished : (dice K).finish ⟨w, w₁, pending⟩ reply w₂ = w' :=
      CallStack.Component.finish_ok resumed
    rw [← finished]
    exact returned

/-- A call that opens a frame. -/
theorem step_call_opens {c : Config Bytes32}
    (opened : c.frames.length < ((dice K).step c (.call m)).frames.length) :
    ∃ pending, start K m c.world = .calling ((dice K).step c (.call m)).world pending ∧
      ((dice K).step c (.call m)).frames =
        ⟨c.world, ((dice K).step c (.call m)).world, pending⟩ :: c.frames := by
  cases started : start K m c.world with
  | reverted _ =>
    rw [CallStack.Component.step_reverted started] at opened
    exact absurd opened (Nat.lt_irrefl _)
  | done _ =>
    rw [CallStack.Component.step_done started] at opened
    exact absurd opened (Nat.lt_irrefl _)
  | calling w₁ pending =>
    rw [CallStack.Component.step_calling started]
    exact ⟨pending, rfl, rfl⟩

/-- A reply on which the innermost call completes, for it leaves more behind than it began with. -/
theorem step_ret_resumes {c : Config Bytes32}
    {frame : CallStack.Frame (World Bytes32) (Pending Bytes32)}
    {rest : List (CallStack.Frame (World Bytes32) (Pending Bytes32))} {reply : CallResult}
    (frames : c.frames = frame :: rest)
    (grown : frame.entry.history.length < ((dice K).step c (.ret reply)).world.history.length) :
    resume K frame.pending reply (if reply.success then c.world else frame.callWorld) =
        .ok ((dice K).step c (.ret reply)).world ∧
      ((dice K).step c (.ret reply)).frames = rest := by
  obtain ⟨world, _⟩ := c
  cases frames
  cases resumed : resume K frame.pending reply (if reply.success then world else frame.callWorld) with
  | error _ =>
    have undone : (dice K).finish frame reply world = frame.entry :=
      CallStack.Component.finish_error resumed
    exact absurd grown (Nat.not_lt_of_le (Nat.le_of_eq (congrArg (·.history.length) undone)))
  | ok w' =>
    have finished : (dice K).finish frame reply world = w' := CallStack.Component.finish_ok resumed
    exact ⟨congrArg _ finished.symm, rfl⟩

/-- What happens while its message call is out is a part of a run too. -/
theorem keeps_of_continues {w₁ w₂ : World Bytes32} {pending : Pending Bytes32}
    (reach : Reachable K anyCall ⟨w, []⟩) (started : start K m w = .calling w₁ pending)
    (continues :
      CallStack.Continues (dice K) anyCall ⟨w₁, [⟨w, w₁, pending⟩]⟩ 1 ⟨w₂, [⟨w, w₁, pending⟩]⟩) :
    Sound K w₂ ∧ Keeps K w₁ w₂ := by
  have called := Reachable.step K reach (.call m) trivial
  rw [CallStack.Component.step_calling started] at called
  obtain ⟨d, origin, deployed, run⟩ := called
  have reach₂ : Reachable K anyCall ⟨w₂, [⟨w, w₁, pending⟩]⟩ :=
    ⟨d, origin, deployed, .trans _ run continues.reachable⟩
  obtain ⟨_, _, _, nested⟩ := reach₂.nested
  exact ⟨reach₂.sound, nested.top.2.2.1.toKeeps⟩

end Transactions

/-! ### The event of a reveal -/

/-- The event, before it is decoded. -/
def RevealedFilter.event (log : RevealedFilter Bytes32) : Event Bytes32 :=
  .revealed log.provider log.caller log.sequenceNumber log.randomNumber log.userContribution
    log.providerContribution log.callbackFailed log.callbackReturnValue log.callbackGasUsed

section Reveals

variable {K : Keccak Bytes32} [DecidableEq Bytes32] {m : Message Bytes32} {w w' : World Bytes32}
variable {provider : Address} {n : ℕ} {u v : Bytes32}

/-- **The event of the transaction's own request**: what it says of the numbers, and what has become of
the request. -/
structure Publishes (K : Keccak Bytes32) [DecidableEq Bytes32] (w' : World Bytes32) (key : RequestKey)
    (u v : Bytes32) (own : RevealedFilter Bytes32) : Prop where
  key_eq : (own.provider, own.sequenceNumber) = key
  randomNumber : own.randomNumber = generateCombinedRandomNumber K u v
  contributions : own.userContribution = u ∧ own.providerContribution = v
  succeeded : own.callbackFailed = false → w'.Gone K key
  failed : own.callbackFailed = true →
    w'.Gone K key ∨ ∃ req, w'.state.lookup K key = some req ∧ req.callbackStatus = .failed

/-- No request uses block hashes, so the number depends on the contributions alone. -/
theorem revealedNumber_eq (sound : Sound K w) {req : Request Bytes32}
    (found : w.state.lookup K (provider, n) = some req) :
    revealedNumber K w req u v = generateCombinedRandomNumber K u v := by
  unfold revealedNumber
  rw [sound.noBlockhash found]
  rfl

/-- A reveal that finishes at once. -/
theorem Finishes.publishes {startingGas endingGas len : ℕ} (sound : Sound K w)
    (call : m.call = .revealWithCallback provider n u v startingGas endingGas len)
    (finishes : Finishes K m w w') :
    ∃ own earlier, w'.history = .emitted own.event :: (earlier ++ w.history) ∧
      Publishes K w' (provider, n) u v own := by
  cases finishes with
  | @noCallback _ _ _ _ _ _ req same checks _ _ _ =>
    cases call.symm.trans same
    refine ⟨⟨provider, req.requester, n, revealedNumber K w req u v, u, v, false, [],
      startingGas - endingGas⟩, [.revealed provider n v], rfl, ?_⟩
    have used := (sound.used checks.found).mono (w.accepted_countsUp provider n v)
    exact ⟨rfl, revealedNumber_eq sound checks.found, ⟨rfl, rfl⟩,
      fun _ => gone_of_removed sound.wf rfl used, nofun⟩
  | registered same _ => cases call.symm.trans same
  | requested same _ => cases call.symm.trans same
  | revealed same _ _ _ => cases call.symm.trans same
  | refundedNothing same _ _ => cases call.symm.trans same
  | advanced same _ => cases call.symm.trans same
  | configured _ configures =>
    cases configures with
    | uri same => cases call.symm.trans same
    | maxNumHashes same => cases call.symm.trans same
    | defaultGasLimit same _ => cases call.symm.trans same
  | administered administers =>
    cases administers with
    | proposed same _ _ => cases call.symm.trans same
    | accepted same _ => cases call.symm.trans same
    | defaultProvider same _ => cases call.symm.trans same
    | fee same _ => cases call.symm.trans same
  | forced same => cases call.symm.trans same

/-- A gas-limited callback that fails leaves the request to be tried again. -/
theorem lookup_of_limitedFailed {w₁ : World Bytes32} {ref : RequestRef Bytes32} {startingGas : ℕ}
    {random : Bytes32} (sound : Sound K w)
    (calls : Calls K m w w₁ (.limited ref provider n u v random startingGas)) :
    ∃ req, (w₁.withStatus ref .failed).state.lookup K (provider, n) = some req ∧
      req.callbackStatus = .failed := by
  obtain ⟨req, found, read, _⟩ := lookup_of_limited sound calls
  have live : (w₁.state.read ref).key = some (provider, n) := by
    rw [read]
    exact SlotTable.Scheme.lookup_key found
  refine ⟨{ w₁.state.read ref with callbackStatus := .failed }, ?_, rfl⟩
  rw [lookup_withStatus (calls.advances sound).1.wf .failed live, Function.update_self]

/-- A reveal that makes a message call. -/
theorem Calls.publishes {startingGas endingGas len : ℕ} {w₁ w₂ : World Bytes32}
    {pending : Pending Bytes32} {reply : CallResult} (sound : Sound K w)
    (call : m.call = .revealWithCallback provider n u v startingGas endingGas len)
    (calls : Calls K m w w₁ pending) (sound₂ : Sound K w₂) (between : Keeps K w₁ w₂)
    (undone : reply.success = false → w₂ = w₁) (resumes : Resumes K reply w₂ pending w') :
    ∃ own earlier, w'.history = .emitted own.event :: (earlier ++ w.history) ∧
      Publishes K w' (provider, n) u v own := by
  obtain ⟨middle, grown⟩ := (calls.advances sound).2.history.trans between.history
  have kept := (resumes.keeps sound₂).2
  cases calls with
  | @limited _ _ _ _ _ _ _ req same checks status limit =>
    cases call.symm.trans same
    have calls : Calls K m w _ _ := .limited call checks status limit
    have number := revealedNumber_eq sound checks.found (u := u) (v := v)
    cases resumes with
    | limitedDelivered success spent fits =>
      have gone := whole_gone sound calls rfl sound₂ between (.limitedDelivered success spent fits)
        success
      refine ⟨⟨provider, (w₂.state.read (findRequest K w.state provider n)).requester, n,
        revealedNumber K w req u v, u, v, false, reply.returnData.take 256,
        startingGas - reply.gasLeft⟩, .delivered provider n :: middle, ?_,
        ⟨rfl, number, ⟨rfl, rfl⟩, fun _ => gone, nofun⟩⟩
      rw [List.cons_append, grown]
      rfl
    | limitedFailed failure _ _ _ =>
      refine ⟨⟨provider, (w₂.state.read (findRequest K w.state provider n)).requester, n,
        revealedNumber K w req u v, u, v, true, reply.returnData.take 256,
        startingGas - reply.gasLeft⟩, middle, ?_, ⟨rfl, number, ⟨rfl, rfl⟩, nofun, fun _ => .inr ?_⟩⟩
      · rw [grown]
        rfl
      · rw [undone failure]
        exact lookup_of_limitedFailed sound calls
  | @unlimited _ _ _ _ _ _ _ req same checks status code =>
    cases call.symm.trans same
    have calls : Calls K m w _ _ := .unlimited call checks status code
    have number := revealedNumber_eq sound checks.found (u := u) (v := v)
    have gone : w'.Gone K (provider, n) := ((calls.gone sound rfl nofun).mono between).mono kept
    cases resumes with
    | unlimitedDelivered _ _ _ =>
      refine ⟨⟨provider, req.requester, n, revealedNumber K w req u v, u, v, false, [],
        startingGas - reply.gasLeft⟩, .delivered provider n :: middle, ?_,
        ⟨rfl, number, ⟨rfl, rfl⟩, fun _ => gone, nofun⟩⟩
      rw [List.cons_append, grown]
      rfl
    | unlimitedFailed _ _ _ =>
      refine ⟨⟨provider, req.requester, n, revealedNumber K w req u v, u, v, true, [],
        startingGas - reply.gasLeft⟩, middle, ?_,
        ⟨rfl, number, ⟨rfl, rfl⟩, nofun, fun _ => .inl gone⟩⟩
      rw [grown]
      rfl
  | refund same _ _ _ _ => cases call.symm.trans same
  | withdrawal same _ _ _ => cases call.symm.trans same
  | foreign same => cases call.symm.trans same

/-- **The last event of a reveal that is executed** is the one of its own request. -/
theorem Executes.reveals {startingGas endingGas len : ℕ} (reach : Reachable K anyCall ⟨w, []⟩)
    (call : m.call = .revealWithCallback provider n u v startingGas endingGas len)
    (executes : Executes K m w w') :
    ∃ own earlier, w'.history = .emitted own.event :: (earlier ++ w.history) ∧
      Publishes K w' (provider, n) u v own := by
  have sound : Sound K w := reach.sound
  cases executes with
  | atOnce started => exact (start_done started).publishes sound call
  | @called w₁ w₂ _ pending reply started continues resumed =>
    obtain ⟨sound₂, between⟩ := keeps_of_continues reach started continues
    have calls := start_calling started
    have resumes := resume_ok calls.proper resumed
    cases success : reply.success with
    | true =>
      rw [success, if_pos rfl] at resumes
      exact calls.publishes sound call sound₂ between (fun failure => by
        rw [success] at failure
        cases failure) resumes
    | false =>
      rw [success, if_neg Bool.false_ne_true] at resumes
      obtain ⟨sound₁, advances⟩ := calls.advances sound
      have still : Evolves K w₁ w₁ :=
        .of_same rfl (World.countsUp_of_same rfl) (List.suffix_refl _)
      exact calls.publishes sound call sound₁ still.toKeeps (fun _ => rfl) resumes

end Reveals

/-! ### Receipts -/

/-- The event that an entry decodes to, if it is a `Revealed`. -/
def Entry.revealedFilter : Entry Bytes32 → Option (RevealedFilter Bytes32)
  | .emitted (.revealed provider caller n random u v callbackFailed returnValue gasUsed) =>
      some ⟨provider, caller, n, random, u, v, callbackFailed, returnValue, gasUsed⟩
  | _ => none

/-- The `Revealed` events since an earlier state, in their order. -/
def World.revealedSince (w' w : World Bytes32) : List (RevealedFilter Bytes32) :=
  ((w'.history.take (w'.history.length - w.history.length)).filterMap Entry.revealedFilter).reverse

/-- **The `Revealed` logs of a receipt.** Logs of other contracts may be among them; the last one is of the
contract that the transaction called. -/
structure HasLogs (w w' : World Bytes32) (logs : List (RevealedFilter Bytes32)) : Prop where
  own : (w'.revealedSince w).Sublist logs
  last : logs.getLast? = (w'.revealedSince w).getLast?

/-- The transaction of a receipt is executed: it reveals the request of an event. -/
structure ReceiptOf (K : Keccak Bytes32) [DecidableEq Bytes32] (event : RequestedV2Event Bytes32)
    (v : Bytes32) (w' : World Bytes32) (receipt : MinedReceipt Bytes32) : Prop where
  executed : ∃ m w startingGas endingGas len, Reachable K anyCall ⟨w, []⟩ ∧
    m.call = .revealWithCallback event.providerAddress event.sequenceNumber event.userRandomNumber v
      startingGas endingGas len ∧
    Executes K m w w' ∧ HasLogs w w' receipt.revealed

/-- The state of a request that a reveal and its receipt tell. -/
def RevealedFilter.told (own : RevealedFilter Bytes32) (receipt : TransactionReceipt Bytes32) :
    RequestEntryState Bytes32 :=
  .completed (receipt.blockNumber.getD 0) receipt.transactionHash own.providerContribution
    (receipt.gasUsed.getD 0) own.randomNumber own.callbackFailed own.callbackReturnValue
    own.callbackGasUsed

/-- Two events say the same of their callbacks. -/
def RevealedFilter.SameCallback (first own : RevealedFilter Bytes32) : Prop :=
  first.callbackFailed = own.callbackFailed ∧
    first.callbackReturnValue = own.callbackReturnValue ∧
    first.callbackGasUsed = own.callbackGasUsed

section Receipts

variable {K : Keccak Bytes32} [DecidableEq Bytes32] {w w' : World Bytes32}
variable {event : RequestedV2Event Bytes32} {v : Bytes32} {own : RevealedFilter Bytes32}
variable {logs : List (RevealedFilter Bytes32)}

/-- The newest event is the last log. -/
theorem HasLogs.getLast_eq (hasLogs : HasLogs w w' logs) {earlier : List (Entry Bytes32)}
    (history : w'.history = .emitted own.event :: (earlier ++ w.history)) :
    logs.getLast? = some own := by
  have count : w'.history.length - w.history.length = earlier.length + 1 := by
    rw [history, List.length_cons, List.length_append]
    omega
  have entries : w'.history.take (w'.history.length - w.history.length) =
      .emitted own.event :: earlier := by
    rw [count, history, List.take_succ_cons, List.take_left]
  rw [hasLogs.last]
  unfold World.revealedSince
  rw [entries, List.getLast?_reverse]
  rfl

/-- **The last log of a receipt** is the event of the request. -/
theorem ReceiptOf.publishes {receipt : MinedReceipt Bytes32}
    (receiptOf : ReceiptOf K event v w' receipt) :
    ∃ own, receipt.revealed.getLast? = some own ∧
      Publishes K w' event.key event.userRandomNumber v own := by
  obtain ⟨m, w, _, _, _, reach, call, executes, hasLogs⟩ := receiptOf.executed
  obtain ⟨own, earlier, history, publishes⟩ := executes.reveals reach call
  exact ⟨own, hasLogs.getLast_eq history, publishes⟩

/-- **What is recorded of a submission that succeeds**, in every run of the contract and with anything
done by callbacks: the task records a second status, whose contributions and combined number are those
of the last log, the one of the request, and whose data of the callback are those of the first. It is
all that the last log tells exactly if the first one says the same of its callback, as it does when it
is the only one. -/
theorem confirmed_recorded (submission : TxSubmission Bytes32) (params : ProcessParams Bytes32)
    (answers : Answers Bytes32) (report : SubmitTxReport Bytes32)
    (submitted : submittedRevelation K params event answers.backup = some v)
    (mined : ∀ numRetries receipt, submission.operation numRetries = .ok receipt →
      ∃ w', ReceiptOf K event v w' receipt)
    (ok : submission.submitTxWithBackoff = .ok report)
    (answered : answers.submission = .ok report.toSubmitTxResult) :
    ∃ w' receipt own recorded, submission.operation report.numRetries = .ok receipt ∧
      ReceiptOf K event v w' receipt ∧ receipt.status ≠ some 0 ∧
      receipt.revealed.getLast? = some own ∧
      Publishes K w' event.key event.userRandomNumber v own ∧
      receipt.revealed.head? = some report.revealedEvent ∧
      processEventWithBackoff K params event answers =
        [initialStatus params event answers, recorded] ∧
      recorded.userRandomNumber = own.userContribution ∧
      recorded.state = .completed (receipt.blockNumber.getD 0) receipt.transactionHash
        own.providerContribution (receipt.gasUsed.getD 0) own.randomNumber
        report.revealedEvent.callbackFailed report.revealedEvent.callbackReturnValue
        report.revealedEvent.callbackGasUsed ∧
      (recorded.state = own.told receipt.toTransactionReceipt ↔
        report.revealedEvent.SameCallback own) ∧
      (receipt.revealed.length = 1 → report.revealedEvent = own) := by
  obtain ⟨receipt, operation, status, same, head, _⟩ := TxSubmission.submitTxWithBackoff_ok ok
  obtain ⟨w', receiptOf⟩ := mined _ _ operation
  obtain ⟨own, last, publishes⟩ := receiptOf.publishes
  have settled : settledState K event answers v = some (report.completed K event.userRandomNumber v) := by
    unfold settledState
    rw [answered]
  have records := processEventWithBackoff_of_submitted submitted
  rw [settled] at records
  refine ⟨w', receipt, own, _, operation, receiptOf, status, last, publishes, head, records,
    publishes.contributions.1.symm, ?_, ?_, ?_⟩
  · show report.completed K event.userRandomNumber v = _
    unfold SubmitTxResult.completed
    rw [same, publishes.randomNumber, publishes.contributions.2]
  · show report.completed K event.userRandomNumber v = _ ↔ _
    unfold RevealedFilter.told SubmitTxResult.completed RevealedFilter.SameCallback
    rw [same, publishes.randomNumber, publishes.contributions.2]
    simp
  · intro single
    obtain ⟨log, logs⟩ := List.length_eq_one_iff.mp single
    rw [logs] at head last
    cases head
    cases last
    rfl

end Receipts

namespace Sample

/-- The transaction that reveals a request. -/
def revealMessage (n : ℕ) : Message Sym :=
  ⟨msg provider 0 provider_ne_zero,
    .revealWithCallback provider n (contribution n) (value n) 1000000 0 1⟩

def bothOpen : Config Sym := ⟨(after [request 1, request 2]).world, []⟩

/-- The first request is revealed, its callback reveals the second, whose callback fails. -/
def firstCalled : Config Sym := (dice symbolic).step bothOpen (.call (revealMessage 1))

def secondCalled : Config Sym := (dice symbolic).step firstCalled (.call (revealMessage 2))

def secondRevealed : Config Sym := (dice symbolic).step secondCalled failed

def bothRevealed : Config Sym := (dice symbolic).step secondRevealed succeed

theorem executes_nested :
    Executes symbolic (revealMessage 1) bothOpen.world bothRevealed.world := by
  obtain ⟨first, started, frames₁⟩ :=
    step_call_opens (by decide +kernel : bothOpen.frames.length < firstCalled.frames.length)
  obtain ⟨second, _, frames₂⟩ :=
    step_call_opens (by decide +kernel : firstCalled.frames.length < secondCalled.frames.length)
  have grown₂ : firstCalled.world.history.length < secondRevealed.world.history.length := by
    decide +kernel
  obtain ⟨_, frames₃⟩ := step_ret_resumes frames₂ grown₂
  have open_first : secondRevealed.frames = ⟨bothOpen.world, firstCalled.world, first⟩ :: [] :=
    frames₃.trans frames₁
  have grown₁ : bothOpen.world.history.length < bothRevealed.world.history.length := by
    decide +kernel
  obtain ⟨resumed, _⟩ := step_ret_resumes open_first grown₁
  have called : firstCalled = ⟨firstCalled.world, [⟨bothOpen.world, firstCalled.world, first⟩]⟩ :=
    congrArg (CallStack.Config.mk firstCalled.world) frames₁
  have revealed : secondRevealed =
      ⟨secondRevealed.world, [⟨bothOpen.world, firstCalled.world, first⟩]⟩ :=
    congrArg (CallStack.Config.mk secondRevealed.world) open_first
  have inside : CallStack.Continues (dice symbolic) anyCall firstCalled firstCalled.frames.length
      secondRevealed := by
    have nested := CallStack.Continues.above (.call (revealMessage 2))
      (.refl : CallStack.Continues (dice symbolic) anyCall firstCalled _ firstCalled) trivial nofun
    exact nested.above failed trivial fun _ => by decide +kernel
  rw [called, revealed] at inside
  exact .called started inside resumed

/-- The receipt of that transaction, with the logs of the contract. -/
def nestedReceipt : MinedReceipt Sym where
  blockNumber := some 102
  transactionHash := .atom 102
  gasUsed := some 300000
  status := some 1
  revealed := bothRevealed.world.revealedSince bothOpen.world

/-- The transaction is mined at once. -/
def nestedSubmission : TxSubmission Sym where
  escalationPolicy := ⟨110, 200⟩
  answers _ := {
    estimateGas := .ok 400000
    fillTransaction := .ok (some 7)
    sendTransaction := fun _ => .ok ()
    pendingTx := fun _ => .mined nestedReceipt
    sighash := fun _ => [] }
  noSuchRequest _ := false
  backoff := backoff 3
  callSighash := []

/-- The task learns the report. -/
def confirmedAnswers (report : SubmitTxReport Sym) : Answers Sym where
  backup := .error []
  submission := .ok report.toSubmitTxResult
  request := .error []
  revealedLogs := .error []
  receiptGas _ := none
  createdAt := 0
  startedAt := 0
  submittedAt := 1

theorem nestedReceipt_of : ReceiptOf symbolic requestedEvent (value 1) bothRevealed.world nestedReceipt :=
  ⟨revealMessage 1, bothOpen.world, 1000000, 0, 1, reachable [request 1, request 2], rfl,
    executes_nested, List.Sublist.refl _, rfl⟩

end Sample

theorem Sample.submitted_first (report : SubmitTxReport Sym) :
    submittedRevelation symbolic Sample.processParams Sample.requestedEvent
      (Sample.confirmedAnswers report).backup = some (Sample.value 1) := by
  have reads : submittedRevelation symbolic Sample.processParams Sample.requestedEvent
      (.error []) = some (Sample.value 1) := by decide +kernel
  exact reads

/-- **The log of another request**: the first request is revealed and its callback succeeds, but within it
the second one was revealed, with a callback that failed. The record has the numbers of the first one,
and says that its callback failed. -/
theorem confirmed_recorded_nested :
    ∃ report w' own recorded, Sample.nestedSubmission.submitTxWithBackoff = .ok report ∧
      Publishes symbolic w' Sample.requestedEvent.key (Sample.contribution 1) (Sample.value 1) own ∧
      own.callbackFailed = false ∧ report.revealedEvent.callbackFailed = true ∧
      processEventWithBackoff symbolic Sample.processParams Sample.requestedEvent
        (Sample.confirmedAnswers report) =
          [initialStatus Sample.processParams Sample.requestedEvent (Sample.confirmedAnswers report),
            recorded] ∧
      recorded.userRandomNumber = own.userContribution ∧
      recorded.state ≠ own.told Sample.nestedReceipt.toTransactionReceipt := by
  obtain ⟨report, ok⟩ := Sample.exists_of_isOk
    (by decide +kernel : Sample.nestedSubmission.submitTxWithBackoff.isOk = true)
  have mined : ∀ numRetries receipt, Sample.nestedSubmission.operation numRetries = .ok receipt →
      ∃ w', ReceiptOf symbolic Sample.requestedEvent (Sample.value 1) w' receipt := by
    intro numRetries receipt operation
    cases operation
    exact ⟨_, Sample.nestedReceipt_of⟩
  obtain ⟨w', receipt, own, recorded, operation, _, _, last, publishes, head, records, user, _,
    told, _⟩ := confirmed_recorded Sample.nestedSubmission Sample.processParams
      (Sample.confirmedAnswers report) report (Sample.submitted_first report) mined ok rfl
  cases operation
  have own_succeeded : Sample.nestedReceipt.revealed.getLast?.map (·.callbackFailed) = some false := by
    decide +kernel
  have other_failed : Sample.nestedReceipt.revealed.head?.map (·.callbackFailed) = some true := by
    decide +kernel
  rw [last] at own_succeeded
  rw [head] at other_failed
  have succeeded : own.callbackFailed = false := Option.some.inj own_succeeded
  have failed : report.revealedEvent.callbackFailed = true := Option.some.inj other_failed
  refine ⟨report, w', own, recorded, ok, publishes, succeeded, failed, records, user, fun same => ?_⟩
  have callback := (told.mp same).1
  rw [failed, succeeded] at callback
  cases callback

end Dice
