/-
**What the service hands out, and how early.**

Values of the hash chain leave the service in three ways: the task of an event submits a reveal,
`update_commitments_if_necessary` submits an advancement, and the revelation endpoint answers.

* `submittedRevelation`, `updateCommitmentsIfNecessary`, `revelation` — the three ways, with the
  answers of the node as arguments.
* `Service.step` — the service of a chain: its keeper, the heads at the configured status that were
  observed, and the values that were handed out, each with the heads observed by then.
* `Disclosure.Timely` — the request lies in a block that is below such a head by the delay.
* `disclosures_timely` — every value is handed out in time in every run in which no subtraction wraps
  around, the WebSocket brings no block number that is ahead of the confirmed heads, and no
  commitment that was never requested is handed out again.
* `disclosed_early` — without a confirmed head above block 100, the answer to a request of block 101 is
  submitted.
-/

import Dice.Service.Confirmations
import Dice.Service.Events

set_option linter.unusedSectionVars false

namespace Dice

variable {Bytes32 : Type}

/-! ### The three ways out -/

/-- `BlockStatus`. -/
inductive BlockStatus where
  | latest
  | finalized
  | safe
  deriving DecidableEq, Repr

/-- What the service of a chain is configured with. -/
structure ServiceConfig (Bytes32 : Type) where
  confirmedBlockStatus : BlockStatus
  keeper : KeeperConfig
  params : ProcessParams Bytes32

/-- `BinaryEncoding`. -/
inductive BinaryEncoding where
  | hex
  | base64
  | array
  deriving DecidableEq, Repr

/-- `Blob`. -/
inductive Blob (Bytes32 : Type) where
  | hex (data : Bytes32)
  | base64 (data : Bytes32)
  | array (data : Bytes32)
  deriving DecidableEq, Repr

/-- `Blob::new`. -/
def Blob.new : BinaryEncoding → Bytes32 → Blob Bytes32
  | .hex, data => .hex data
  | .base64, data => .base64 data
  | .array, data => .array data

/-- `Blob::data`. -/
def Blob.data : Blob Bytes32 → Bytes32
  | .hex data => data
  | .base64 data => data
  | .array data => data

@[simp] theorem Blob.data_new (encoding : BinaryEncoding) (data : Bytes32) :
    (Blob.new encoding data).data = data := by
  cases encoding <;> rfl

/-- `RestError`, as far as `revelation` returns it once the chain is initialised; `panicked` stands for
a panic of the handler. -/
inductive RestError where
  | noPendingRequest
  | pendingConfirmation
  | temporarilyUnavailable
  | unknown
  | panicked
  deriving DecidableEq, Repr

/-- The answer about the request: with the parameter `block_number`, the events of this block; without
it, the stored request. -/
inductive RequestQuery (Bytes32 : Type) where
  | inBlock (blockNumber : UInt64) (maybeRequest : Except RpcError (List (RequestedV2Event Bytes32)))
  | stored (maybeRequest : Except RpcError (Option (Request Bytes32)))

/-- The node answered. -/
def RequestQuery.answered : RequestQuery Bytes32 → Bool
  | .inBlock _ (.ok _) => true
  | .stored (.ok _) => true
  | _ => false

/-- The checks of `revelation`. -/
def RequestQuery.check (revealDelayBlocks sequence currentBlockNumber : ℕ) :
    RequestQuery Bytes32 → Except RestError Unit
  | .inBlock blockNumber (.ok maybeRequest) =>
      if currentBlockNumber - revealDelayBlocks < blockNumber.toNat then .error .pendingConfirmation
      else if maybeRequest.any fun r => r.sequenceNumber = sequence then .ok ()
      else .error .noPendingRequest
  | .stored (.ok (some r)) =>
      if r.blockNumber ≤ currentBlockNumber - revealDelayBlocks then .ok ()
      else .error .pendingConfirmation
  | .stored (.ok none) => .error .noPendingRequest
  | _ => .error .temporarilyUnavailable

section Ways

variable (K : Keccak Bytes32)

/-- `revelation`, of a chain that is initialised. -/
def revelation (state : HashChainState Bytes32) (revealDelayBlocks sequence : ℕ)
    (encoding : Option BinaryEncoding) (query : RequestQuery Bytes32)
    (currentBlockNumber : Except RpcError UInt64) : Except RestError (Blob Bytes32) :=
  match currentBlockNumber with
  | .error _ => .error .temporarilyUnavailable
  | .ok currentBlockNumber =>
      match query.check revealDelayBlocks sequence currentBlockNumber.toNat with
      | .error error => .error error
      | .ok () =>
          match state.reveal (chainHash K) sequence with
          | .ok value => .ok (.new (encoding.getD .hex) value)
          | .error .panicked => .error .panicked
          | .error _ => .error .unknown

/-- The revelation that `process_event_with_backoff` submits, when it gets that far. -/
def submittedRevelation (params : ProcessParams Bytes32) (event : RequestedV2Event Bytes32)
    (backup : Except RpcError (Option (Request Bytes32))) : Option Bytes32 :=
  if params.providerAddress ≠ event.providerAddress then none
  else if params.skips event backup then none
  else (params.state.reveal (chainHash K) event.sequenceNumber).toOption

variable {K} in
/-- **The task of an event goes on from what it submits**: it records the outcome of this submission. -/
theorem processEventWithBackoff_of_submitted {params : ProcessParams Bytes32}
    {event : RequestedV2Event Bytes32} {answers : Answers Bytes32} {value : Bytes32}
    (submitted : submittedRevelation K params event answers.backup = some value) :
    processEventWithBackoff K params event answers =
      initialStatus params event answers ::
        ((settledState K event answers value).map fun state =>
          { initialStatus params event answers with
            state
            lastUpdatedAt := answers.submittedAt }).toList := by
  unfold submittedRevelation at submitted
  unfold processEventWithBackoff
  split at submitted
  · cases submitted
  · next own =>
    split at submitted
    · cases submitted
    · next turn =>
      rw [if_neg own, if_neg turn]
      cases revealed : params.state.reveal (chainHash K) event.sequenceNumber with
      | error _ =>
        rw [revealed] at submitted
        cases submitted
      | ok value' =>
        rw [revealed] at submitted
        cases submitted
        cases outcome : settledState K event answers value <;> simp [outcome]

/-- The threshold of `update_commitments_if_necessary`. For a `u32` the product with 0.95 in floating
point, cut off, is this quotient. -/
def updateCommitmentsThreshold (maxNumHashes : ℕ) : ℕ := maxNumHashes * 95 / 100

/-- The advancement that the record of the provider makes necessary: a sequence number and its
revelation. -/
def necessaryUpdate (state : HashChainState Bytes32) (providerInfo : ProviderInfo Bytes32) :
    Option (ℕ × Bytes32) :=
  if providerInfo.maxNumHashes = 0 then none
  else
    let outstandingRequests :=
      providerInfo.sequenceNumber - providerInfo.currentCommitmentSequenceNumber
    if updateCommitmentsThreshold providerInfo.maxNumHashes < outstandingRequests then
      let seqNumber := providerInfo.sequenceNumber - 1
      if seqNumber = 0 then none
      else (state.reveal (chainHash K) seqNumber).toOption.map fun value => (seqNumber, value)
    else none

/-- `update_commitments_if_necessary`: the advancement that it submits, if any. -/
def updateCommitmentsIfNecessary (state : HashChainState Bytes32) (revealDelayBlocks : ℕ)
    (attempts : ℕ → Option UInt64)
    (providerInfoAt : ℕ → Except RpcError (ProviderInfo Bytes32)) : Option (ℕ × Bytes32) :=
  match getLatestSafeBlock revealDelayBlocks attempts with
  | none => none
  | some latestSafeBlock =>
      match providerInfoAt latestSafeBlock with
      | .error _ => none
      | .ok providerInfo => necessaryUpdate K state providerInfo

end Ways

/-! ### The service -/

/-- A value that was handed out, and the heads at the configured status that were observed by then. -/
structure Disclosure (Bytes32 : Type) where
  sequenceNumber : ℕ
  value : Bytes32
  observed : List ℕ
  deriving DecidableEq, Repr

/-- The service of a chain. The keeper is absent until it is started. -/
structure Service (Bytes32 : Type) where
  keeper : Option Keeper
  observed : List ℕ
  disclosed : List (Disclosure Bytes32)

/-- What can happen next. -/
inductive ServiceAction (Bytes32 : Type) where
  /-- `run_keeper_threads`, with the reads of the head. -/
  | start (attempts : ℕ → Option UInt64)
  | keeper (action : KeeperAction)
  /-- A task submits, with the answer to the question of a backup replica. -/
  | reveal (event : RequestedV2Event Bytes32)
      (backup : Except RpcError (Option (Request Bytes32)))
  | updateCommitments (attempts : ℕ → Option UInt64)
      (providerInfoAt : ℕ → Except RpcError (ProviderInfo Bytes32))
  | revelation (sequence : ℕ) (encoding : Option BinaryEncoding) (query : RequestQuery Bytes32)
      (currentBlockNumber : Except RpcError UInt64)

/-- What the keeper keeps of an event. -/
def RequestedV2Event.scanned (event : RequestedV2Event Bytes32) : RequestedEvent :=
  ⟨event.sequenceNumber, event.logMeta.blockNumber⟩

/-- The heads at the configured status that an action of the keeper observes. What the WebSocket
brings is a head at the status `Latest`. -/
def ServiceConfig.heads (config : ServiceConfig Bytes32) (k : Keeper) (action : KeeperAction) :
    List ℕ :=
  let raw := if config.confirmedBlockStatus = .latest then k.rawHead config.keeper action else none
  ((k.confirmedHead config.keeper action).toList ++ raw.toList).map UInt64.toNat

namespace Service

/-- Before the keeper is started. -/
def initial : Service Bytes32 := ⟨none, [], []⟩

def observe (s : Service Bytes32) (heads : List ℕ) : Service Bytes32 :=
  { s with observed := heads ++ s.observed }

def disclose (s : Service Bytes32) (sequenceNumber : ℕ) (value : Bytes32) : Service Bytes32 :=
  { s with disclosed := ⟨sequenceNumber, value, s.observed⟩ :: s.disclosed }

/-- An optional disclosure. -/
def discloseSome (s : Service Bytes32) (update : Option (ℕ × Bytes32)) : Service Bytes32 :=
  match update with
  | none => s
  | some (sequenceNumber, value) => s.disclose sequenceNumber value

/-- **One step.** An action that is not enabled changes nothing. -/
def step (K : Keccak Bytes32) (config : ServiceConfig Bytes32) (s : Service Bytes32) :
    ServiceAction Bytes32 → Service Bytes32
  | .start attempts =>
      match s.keeper with
      | some _ => s
      | none =>
          let s := s.observe ((confirmedHead attempts).toList.map UInt64.toNat)
          match getLatestSafeBlock config.keeper.revealDelayBlocks attempts with
          | none => s
          | some latestSafeBlock =>
              { s with keeper := some (.start config.keeper (.ofNat latestSafeBlock)) }
  | .keeper action =>
      match s.keeper with
      | none => s
      | some k =>
          { s.observe (config.heads k action) with keeper := some (k.step config.keeper action) }
  | .reveal event backup =>
      match s.keeper with
      | none => s
      | some k =>
          if event.scanned ∈ k.tasks then
            s.discloseSome ((submittedRevelation K config.params event backup).map
              fun value => (event.sequenceNumber, value))
          else s
  | .updateCommitments attempts providerInfoAt =>
      match s.keeper with
      | none => s
      | some _ =>
          (s.observe ((confirmedHead attempts).toList.map UInt64.toNat)).discloseSome
            (updateCommitmentsIfNecessary K config.params.state config.keeper.revealDelayBlocks
              attempts providerInfoAt)
  | .revelation sequence encoding query currentBlockNumber =>
      let heads := if query.answered then currentBlockNumber.toOption.toList else []
      (s.observe (heads.map UInt64.toNat)).discloseSome
        ((revelation K config.params.state config.keeper.revealDelayBlocks sequence encoding query
          currentBlockNumber).toOption.map fun blob => (sequence, blob.data))

/-- A run. -/
def run (K : Keccak Bytes32) (config : ServiceConfig Bytes32) (s : Service Bytes32)
    (actions : List (ServiceAction Bytes32)) : Service Bytes32 := actions.foldl (step K config) s

/-- Every step of a run meets a condition. -/
def Follows (K : Keccak Bytes32) (config : ServiceConfig Bytes32)
    (guard : Service Bytes32 → ServiceAction Bytes32 → Prop) :
    Service Bytes32 → List (ServiceAction Bytes32) → Prop
  | _, [] => True
  | s, action :: rest => guard s action ∧ Follows K config guard (s.step K config action) rest

end Service

/-! ### What is handed out -/

section Values

variable {K : Keccak Bytes32} {config : ServiceConfig Bytes32} {s : Service Bytes32}

/-- Everything that was handed out is the value of the hash chain at its number. -/
def Service.HandsOutValues (K : Keccak Bytes32) (config : ServiceConfig Bytes32)
    (s : Service Bytes32) : Prop :=
  ∀ d ∈ s.disclosed, config.params.state.reveal (chainHash K) d.sequenceNumber = .ok d.value

theorem toOption_eq_some {ε α : Type} {x : Except ε α} {a : α} (found : x.toOption = some a) :
    x = .ok a := by
  cases x with
  | error _ => cases found
  | ok _ =>
    cases found
    rfl

theorem Service.HandsOutValues.discloseSome (holds : s.HandsOutValues K config)
    {update : Option (ℕ × Bytes32)} (value : ∀ n v, update = some (n, v) →
      config.params.state.reveal (chainHash K) n = .ok v) :
    (s.discloseSome update).HandsOutValues K config := by
  cases update with
  | none => exact holds
  | some update => exact List.forall_mem_cons.mpr ⟨value _ _ rfl, holds⟩

theorem reveal_of_submitted {params : ProcessParams Bytes32} {event : RequestedV2Event Bytes32}
    {backup : Except RpcError (Option (Request Bytes32))} {value : Bytes32}
    (submitted : submittedRevelation K params event backup = some value) :
    params.state.reveal (chainHash K) event.sequenceNumber = .ok value := by
  unfold submittedRevelation at submitted
  split at submitted
  · cases submitted
  · split at submitted
    · cases submitted
    · exact toOption_eq_some submitted

/-- When there is an update, and which. -/
theorem necessaryUpdate_eq_some {state : HashChainState Bytes32} {p : ProviderInfo Bytes32} {n : ℕ}
    {value : Bytes32} : necessaryUpdate K state p = some (n, value) ↔
      p.maxNumHashes ≠ 0 ∧ updateCommitmentsThreshold p.maxNumHashes <
        p.sequenceNumber - p.currentCommitmentSequenceNumber ∧
      n = p.sequenceNumber - 1 ∧ n ≠ 0 ∧ state.reveal (chainHash K) n = .ok value := by
  unfold necessaryUpdate
  constructor
  · intro update
    split at update
    · cases update
    · next limited =>
      dsimp only at update
      split at update
      · next necessary =>
        split at update
        · cases update
        · next positive =>
          obtain ⟨_, revealed, same⟩ := Option.map_eq_some_iff.mp update
          cases same
          exact ⟨limited, necessary, rfl, positive, toOption_eq_some revealed⟩
      · cases update
  · rintro ⟨limited, necessary, rfl, positive, revealed⟩
    rw [if_neg limited]
    show (if _ then if _ then _ else _ else _) = _
    rw [if_pos necessary, if_neg positive, revealed]
    rfl

theorem reveal_of_update {state : HashChainState Bytes32} {providerInfo : ProviderInfo Bytes32}
    {n : ℕ} {value : Bytes32} (update : necessaryUpdate K state providerInfo = some (n, value)) :
    state.reveal (chainHash K) n = .ok value :=
  (necessaryUpdate_eq_some.mp update).2.2.2.2

theorem reveal_of_revelation {state : HashChainState Bytes32} {delay sequence : ℕ}
    {encoding : Option BinaryEncoding} {query : RequestQuery Bytes32}
    {currentBlockNumber : Except RpcError UInt64} {blob : Blob Bytes32}
    (answer : revelation K state delay sequence encoding query currentBlockNumber = .ok blob) :
    state.reveal (chainHash K) sequence = .ok blob.data := by
  unfold revelation at answer
  split at answer
  · cases answer
  · split at answer
    · cases answer
    · split at answer
      · next value revealed =>
        cases answer
        rw [Blob.data_new]
        exact revealed
      · cases answer
      · cases answer

theorem Service.HandsOutValues.step (holds : s.HandsOutValues K config)
    (action : ServiceAction Bytes32) : (s.step K config action).HandsOutValues K config := by
  cases action with
  | start attempts =>
    simp only [Service.step]
    split
    · exact holds
    · split <;> exact holds
  | keeper action =>
    simp only [Service.step]
    split <;> exact holds
  | reveal event backup =>
    simp only [Service.step]
    split
    · exact holds
    · split
      · refine holds.discloseSome fun n v disclosed => ?_
        obtain ⟨_, submitted, same⟩ := Option.map_eq_some_iff.mp disclosed
        cases same
        exact reveal_of_submitted submitted
      · exact holds
  | updateCommitments attempts providerInfoAt =>
    simp only [Service.step]
    split
    · exact holds
    · have observed : (s.observe ((confirmedHead attempts).toList.map UInt64.toNat)).HandsOutValues
          K config := holds
      refine observed.discloseSome fun n v update => ?_
      unfold updateCommitmentsIfNecessary at update
      split at update
      · cases update
      · split at update
        · cases update
        · exact reveal_of_update update
  | revelation sequence encoding query currentBlockNumber =>
    have observed : ∀ heads, (s.observe heads).HandsOutValues K config := fun _ => holds
    refine (observed _).discloseSome fun n v disclosed => ?_
    obtain ⟨_, answer, same⟩ := Option.map_eq_some_iff.mp disclosed
    cases same
    exact reveal_of_revelation (toOption_eq_some answer)

/-- **What is handed out** in a run is the value of the hash chain at the number it is handed out
for. -/
theorem Service.run_handsOutValues (holds : s.HandsOutValues K config)
    (actions : List (ServiceAction Bytes32)) : (s.run K config actions).HandsOutValues K config := by
  induction actions generalizing s with
  | nil => exact holds
  | cons action rest ih => exact ih (holds.step action)

end Values

/-! ### Disclosure in time -/

variable {K : Keccak Bytes32} [DecidableEq Bytes32]

/-- `get_request_with_callback_events`: the `Requested` logs of a provider, decoded. -/
def Chain.requestedEvents (chain : Chain K) (provider : Address) (range : BlockRange) :
    List (RequestedV2Event Bytes32) :=
  (chain.logs range.first range.last).filterMap fun (event, logMeta) =>
    match event with
    | .requested other caller sequenceNumber userContribution gasLimit =>
        if other = provider then
          some ⟨sequenceNumber, userContribution, other, caller, gasLimit, logMeta⟩
        else none
    | _ => none

/-- The events of a range, as far as the keeper keeps them. -/
def Chain.scannedEvents (chain : Chain K) (provider : Address) (range : BlockRange) :
    List RequestedEvent :=
  (chain.requestedEvents provider range).map RequestedV2Event.scanned

section Timely

variable (chain : Chain K) (config : ServiceConfig Bytes32)

/-- **In time**: the request lies in a block that is below an observed head by the delay. -/
def Disclosure.Timely (d : Disclosure Bytes32) : Prop :=
  ∃ b, chain.RequestedIn (config.params.providerAddress, d.sequenceNumber) b ∧
    ∃ head ∈ d.observed, b + config.keeper.revealDelayBlocks ≤ head

/-- **The node tells of the chain.** It may leave logs out, and it may be behind. -/
def Service.Honest (s : Service Bytes32) : ServiceAction Bytes32 → Prop
  | .keeper action => ∀ k ∈ s.keeper,
      k.Answered (chain.scannedEvents config.params.providerAddress) action
  | .updateCommitments _ providerInfoAt => ∀ {b providerInfo}, providerInfoAt b = .ok providerInfo →
      chain.deployedAt ≤ b ∧
        providerInfo = (chain.atBlock b).state.providers config.params.providerAddress
  | .revelation _ _ (.inBlock b (.ok maybeRequest)) _ =>
      maybeRequest ⊆ chain.requestedEvents config.params.providerAddress ⟨b.toNat, b.toNat⟩
  | .revelation sequence _ (.stored (.ok maybeRequest)) _ =>
      ∃ b, chain.deployedAt ≤ b ∧
        maybeRequest = getRequestV2 K (chain.atBlock b) config.params.providerAddress sequence
  | _ => True

/-- The last number of the provider is not just that of a commitment: where a limit of one hash makes
it necessary to hand out the current commitment again, its number was requested. -/
def Chain.CommitmentRequested (provider : Address) (b : ℕ) : Prop :=
  let p := (chain.atBlock b).state.providers provider
  p.maxNumHashes = 1 → p.currentCommitmentSequenceNumber ≠ 0 →
    p.sequenceNumber = p.currentCommitmentSequenceNumber + 1 →
    (chain.atBlock b).requests (provider, p.currentCommitmentSequenceNumber) ≠ []

/-- **The condition.** The subtraction of `get_latest_safe_block` does not wrap around; what the
WebSocket brings is the status itself, or not ahead of what was confirmed; and the number of the last
commitment was requested. -/
def Service.Prudent (s : Service Bytes32) : ServiceAction Bytes32 → Prop
  | .start attempts => s.keeper = none →
      ∀ head ∈ confirmedHead attempts, config.keeper.revealDelayBlocks ≤ head.toNat
  | .keeper action => ∀ k ∈ s.keeper,
      (∀ head ∈ k.confirmedHead config.keeper action,
        config.keeper.revealDelayBlocks ≤ head.toNat) ∧
      ∀ head ∈ k.rawHead config.keeper action, config.confirmedBlockStatus = .latest ∨
        head.toNat - config.keeper.revealDelayBlocks ≤ k.watcher.cursor ∨
        ∃ confirmed ∈ s.observed, head.toNat ≤ confirmed
  | .updateCommitments attempts providerInfoAt => s.keeper ≠ none →
      ∀ head ∈ confirmedHead attempts, ∀ providerInfo,
        providerInfoAt (U64.sub head.toNat config.keeper.revealDelayBlocks) = .ok providerInfo →
        config.keeper.revealDelayBlocks ≤ head.toNat ∧
          chain.CommitmentRequested config.params.providerAddress
            (head.toNat - config.keeper.revealDelayBlocks)
  | _ => True

/-- The event is of the provider's request in a confirmed block. -/
def Genuine (observed : List ℕ) (event : RequestedEvent) : Prop :=
  chain.RequestedIn (config.params.providerAddress, event.sequenceNumber) event.blockNumber ∧
    Confirmed config.keeper.revealDelayBlocks observed event.blockNumber

/-- **The invariant**: the keeper stays within confirmed blocks, and whatever was handed out was handed
out in time. -/
structure Service.Disciplined (s : Service Bytes32) : Prop where
  keeper : ∀ k ∈ s.keeper, k.Within (Confirmed config.keeper.revealDelayBlocks s.observed)
    (Genuine chain config s.observed)
  timely : ∀ d ∈ s.disclosed, d.Timely chain config

end Timely

section Invariant

variable {chain : Chain K} {config : ServiceConfig Bytes32} {s : Service Bytes32}
variable {observed observed' : List ℕ} {b n : ℕ} {v : Bytes32}

/-- The events of a range are of requests in the range. -/
theorem mem_requestedEvents {provider : Address} {range : BlockRange}
    {event : RequestedV2Event Bytes32} (member : event ∈ chain.requestedEvents provider range) :
    chain.RequestedIn (provider, event.sequenceNumber) event.logMeta.blockNumber ∧
      range.first ≤ event.logMeta.blockNumber ∧ event.logMeta.blockNumber ≤ range.last := by
  obtain ⟨⟨logged, logMeta⟩, log, decoded⟩ := List.mem_filterMap.mp member
  obtain ⟨lower, upper, here⟩ := Chain.mem_logs.mp log
  cases logged with
  | requested other caller sequenceNumber userContribution gasLimit =>
    by_cases own : other = provider
    · simp only [if_pos own, Option.some.injEq] at decoded
      subst decoded own
      exact ⟨⟨_, here, decide_eq_true rfl⟩, lower, upper⟩
    · simp only [if_neg own] at decoded
      cases decoded
  | _ => cases decoded

theorem scannedEvents_genuine {range : BlockRange}
    (last : Confirmed config.keeper.revealDelayBlocks observed range.last) :
    ∀ event ∈ chain.scannedEvents config.params.providerAddress range,
      Genuine chain config observed event := by
  intro event member
  obtain ⟨full, decoded, rfl⟩ := List.mem_map.mp member
  obtain ⟨requested, _, upper⟩ := mem_requestedEvents decoded
  exact ⟨requested, confirmed_antitone upper last⟩

/-- **A request in a confirmed block is answered in time.** The block is not the first one, so a head
that is below the delay does not confirm it. -/
theorem Chain.Numbered.timely (numbered : chain.Numbered)
    (requested : chain.RequestedIn (config.params.providerAddress, n) b)
    (confirmed : Confirmed config.keeper.revealDelayBlocks observed b) :
    (Disclosure.mk n v observed).Timely chain config := by
  obtain ⟨head, member, below⟩ := confirmed
  have positive := Nat.lt_of_lt_of_le numbered.positive requested.deployed
  exact ⟨b, requested, head, member, by omega⟩

theorem Service.Disciplined.observe (holds : s.Disciplined chain config) (heads : List ℕ) :
    (s.observe heads).Disciplined chain config where
  keeper k here := by
    have more : s.observed ⊆ (s.observe heads).observed := List.subset_append_right _ _
    exact (holds.keeper k here).mono (fun _ => .mono more)
      fun _ genuine => ⟨genuine.1, genuine.2.mono more⟩
  timely := holds.timely

theorem Service.Disciplined.discloseSome (holds : s.Disciplined chain config)
    {update : Option (ℕ × Bytes32)}
    (timely : ∀ n v, update = some (n, v) → (Disclosure.mk n v s.observed).Timely chain config) :
    (s.discloseSome update).Disciplined chain config := by
  cases update with
  | none => exact holds
  | some update => exact ⟨holds.keeper, List.forall_mem_cons.mpr ⟨timely _ _ rfl, holds.timely⟩⟩

/-! ### The steps -/

/-- A head that was read confirms the blocks up to the safe one. -/
theorem confirmed_of_read {heads : Option UInt64} {head : UInt64} (read : head ∈ heads) :
    Confirmed config.keeper.revealDelayBlocks
      (s.observe (heads.toList.map UInt64.toNat)).observed
      (head.toNat - config.keeper.revealDelayBlocks) :=
  ⟨head.toNat, List.mem_append_left _ (List.mem_map_of_mem (Option.mem_toList.mpr read)), le_rfl⟩

/-- The keeper starts from a confirmed block. -/
theorem Service.Disciplined.start (holds : s.Disciplined chain config)
    {attempts : ℕ → Option UInt64} (prudent : s.Prudent chain config (.start attempts)) :
    (s.step K config (.start attempts)).Disciplined chain config := by
  simp only [Service.step]
  split
  · exact holds
  · next absent =>
    have observed := holds.observe ((confirmedHead attempts).toList.map UInt64.toNat)
    split
    · exact observed
    · next latestSafeBlock found =>
      obtain ⟨head, read, rfl⟩ := exists_confirmedHead found
      have plain := U64.sub_of_le head.toNat_lt (prudent absent head read)
      have small : head.toNat - config.keeper.revealDelayBlocks < UInt64.size :=
        lt_of_le_of_lt (Nat.sub_le _ _) head.toNat_lt
      refine ⟨fun k started => ?_, observed.timely⟩
      cases started
      refine Keeper.start_within confirmed_antitone ?_
      rw [plain, UInt64.toNat_ofNat_of_lt' small]
      exact confirmed_of_read read

/-- The keeper makes a step. -/
theorem Service.Disciplined.keeperStep (holds : s.Disciplined chain config) {action : KeeperAction}
    (honest : s.Honest chain config (.keeper action))
    (prudent : s.Prudent chain config (.keeper action)) :
    (s.step K config (.keeper action)).Disciplined chain config := by
  simp only [Service.step]
  split
  · exact holds
  · next k here =>
    have before := holds.observe (config.heads k action)
    have within := before.keeper k here
    obtain ⟨reads, raw⟩ := prudent k here
    refine ⟨fun k' next => ?_, before.timely⟩
    cases next
    refine within.step confirmed_antitone (fun _ => scannedEvents_genuine) (honest k here)
      (fun head read => ?_) fun head read => ?_
    · rw [U64.sub_of_le head.toNat_lt (reads head read)]
      refine ⟨head.toNat, List.mem_append_left _ (List.mem_map_of_mem ?_), le_rfl⟩
      exact List.mem_append_left _ (Option.mem_toList.mpr read)
    · rcases raw head read with latest | behind | ⟨confirmed, observed, le⟩
      · refine ⟨head.toNat, List.mem_append_left _ (List.mem_map_of_mem ?_), le_rfl⟩
        rw [if_pos latest]
        exact List.mem_append_right _ (Option.mem_toList.mpr read)
      · exact confirmed_antitone behind within.watcher.cursor
      · exact ⟨confirmed, List.mem_append_right _ observed, Nat.sub_le_sub_right le _⟩

/-- A task submits. -/
theorem Service.Disciplined.reveal (numbered : chain.Numbered) (holds : s.Disciplined chain config)
    (event : RequestedV2Event Bytes32) (backup : Except RpcError (Option (Request Bytes32))) :
    (s.step K config (.reveal event backup)).Disciplined chain config := by
  simp only [Service.step]
  split
  · exact holds
  · next k here =>
    split
    · next alive =>
      obtain ⟨requested, confirmed⟩ := (holds.keeper k here).tasks _ alive
      refine holds.discloseSome fun n v disclosed => ?_
      obtain ⟨_, _, same⟩ := Option.map_eq_some_iff.mp disclosed
      cases same
      exact numbered.timely requested confirmed
    · exact holds

/-- **The number of an advancement was requested.** -/
theorem necessaryUpdate_made {state : HashChainState Bytes32} {provider : Address}
    (deployed : chain.deployedAt ≤ b) (requested : chain.CommitmentRequested provider b)
    (update : necessaryUpdate K state ((chain.atBlock b).state.providers provider) =
      some (n, v)) : (chain.atBlock b).requests (provider, n) ≠ [] := by
  have many := @Chain.made_of_outstanding _ _ _ chain b deployed provider
  unfold Chain.CommitmentRequested at requested
  obtain ⟨limited, necessary, rfl, positive, _⟩ := necessaryUpdate_eq_some.mp update
  unfold updateCommitmentsThreshold at necessary
  generalize (chain.atBlock b).state.providers provider = p at *
  by_cases outstanding : p.currentCommitmentSequenceNumber + 1 < p.sequenceNumber
  · exact many outstanding
  · -- one number only, which a threshold above zero does not let through
    have one : p.sequenceNumber = p.currentCommitmentSequenceNumber + 1 := by omega
    have single : p.maxNumHashes = 1 := by omega
    rw [one, Nat.add_sub_cancel] at positive ⊢
    exact requested single positive one

/-- The commitments are updated. -/
theorem Service.Disciplined.updateCommitments (numbered : chain.Numbered)
    (holds : s.Disciplined chain config) {attempts : ℕ → Option UInt64}
    {providerInfoAt : ℕ → Except RpcError (ProviderInfo Bytes32)}
    (honest : s.Honest chain config (.updateCommitments attempts providerInfoAt))
    (prudent : s.Prudent chain config (.updateCommitments attempts providerInfoAt)) :
    (s.step K config (.updateCommitments attempts providerInfoAt)).Disciplined chain config := by
  simp only [Service.step]
  split
  · exact holds
  · next k here =>
    have running : s.keeper ≠ none := by
      rw [here]
      exact Option.some_ne_none k
    refine (holds.observe _).discloseSome fun n v update => ?_
    unfold updateCommitmentsIfNecessary at update
    split at update
    · cases update
    · next latestSafeBlock found =>
      obtain ⟨head, read, rfl⟩ := exists_confirmedHead found
      split at update
      · cases update
      · next providerInfo answer =>
        obtain ⟨above, requested⟩ := prudent running head read providerInfo answer
        rw [U64.sub_of_le head.toNat_lt above] at answer
        obtain ⟨deployed, rfl⟩ := honest answer
        obtain ⟨b, le, made⟩ :=
          Chain.requestedIn_of_made deployed (necessaryUpdate_made deployed requested update)
        exact numbered.timely made (confirmed_antitone le (confirmed_of_read read))

/-- What passes the checks was requested in a confirmed block. -/
theorem RequestQuery.check_ok (numbered : chain.Numbered) {query : RequestQuery Bytes32}
    {sequence currentBlockNumber : ℕ} {encoding : Option BinaryEncoding}
    {answer : Except RpcError UInt64}
    (honest : s.Honest chain config (.revelation sequence encoding query answer))
    (passed : query.check config.keeper.revealDelayBlocks sequence currentBlockNumber = .ok ()) :
    query.answered = true ∧ ∃ b, b ≤ currentBlockNumber - config.keeper.revealDelayBlocks ∧
      chain.RequestedIn (config.params.providerAddress, sequence) b := by
  unfold RequestQuery.check at passed
  split at passed
  · next blockNumber maybeRequest =>
    split at passed
    · cases passed
    · next confirmed =>
      split at passed
      · next found =>
        obtain ⟨event, member, same⟩ := List.any_eq_true.mp found
        obtain ⟨requested, lower, upper⟩ := mem_requestedEvents (honest member)
        have block : event.logMeta.blockNumber = blockNumber.toNat := le_antisymm upper lower
        rw [of_decide_eq_true same, block] at requested
        exact ⟨rfl, _, Nat.le_of_not_lt confirmed, requested⟩
      · cases passed
  · next r =>
    split at passed
    · next confirmed =>
      obtain ⟨b, deployed, stored⟩ := honest
      rw [getRequestV2_eq (Chain.block_reachable deployed).sound] at stored
      exact ⟨rfl, _, confirmed, numbered.requestedIn deployed stored.symm⟩
    · cases passed
  · cases passed
  · cases passed

/-- The endpoint answers. -/
theorem Service.Disciplined.revelation (numbered : chain.Numbered)
    (holds : s.Disciplined chain config) {sequence : ℕ} {encoding : Option BinaryEncoding}
    {query : RequestQuery Bytes32} {currentBlockNumber : Except RpcError UInt64}
    (honest : s.Honest chain config (.revelation sequence encoding query currentBlockNumber)) :
    (s.step K config (.revelation sequence encoding query currentBlockNumber)).Disciplined
      chain config := by
  refine (holds.observe _).discloseSome fun n v disclosed => ?_
  obtain ⟨blob, answer, same⟩ := Option.map_eq_some_iff.mp disclosed
  cases same
  unfold Dice.revelation at answer
  split at answer
  · cases answer
  · next head =>
    split at answer
    · cases answer
    · next passed =>
      obtain ⟨answered, b, below, requested⟩ := RequestQuery.check_ok numbered honest passed
      refine numbered.timely requested ⟨head.toNat, List.mem_append_left _ ?_, below⟩
      rw [answered, if_pos rfl]
      exact List.mem_singleton_self _

/-- **One step.** -/
theorem Service.Disciplined.step (numbered : chain.Numbered) (holds : s.Disciplined chain config)
    {action : ServiceAction Bytes32} (honest : s.Honest chain config action)
    (prudent : s.Prudent chain config action) :
    (s.step K config action).Disciplined chain config := by
  cases action with
  | start attempts => exact holds.start prudent
  | keeper action => exact holds.keeperStep honest prudent
  | reveal event backup => exact holds.reveal numbered event backup
  | updateCommitments attempts providerInfoAt => exact holds.updateCommitments numbered honest prudent
  | revelation sequence encoding query currentBlockNumber => exact holds.revelation numbered honest

/-- **A run.** -/
theorem Service.Disciplined.run (numbered : chain.Numbered) {actions : List (ServiceAction Bytes32)}
    (follows : s.Follows K config
      (fun s action => s.Honest chain config action ∧ s.Prudent chain config action) actions)
    (holds : s.Disciplined chain config) : (s.run K config actions).Disciplined chain config := by
  induction actions generalizing s with
  | nil => exact holds
  | cons action rest ih =>
    obtain ⟨⟨honest, prudent⟩, rest⟩ := follows
    exact ih rest (holds.step numbered honest prudent)

theorem initial_disciplined (chain : Chain K) (config : ServiceConfig Bytes32) :
    (Service.initial : Service Bytes32).Disciplined chain config where
  keeper := nofun
  timely _ member := absurd member List.not_mem_nil

theorem Service.Follows.and {first second : Service Bytes32 → ServiceAction Bytes32 → Prop}
    {actions : List (ServiceAction Bytes32)} (left : s.Follows K config first actions)
    (right : s.Follows K config second actions) :
    s.Follows K config (fun s action => first s action ∧ second s action) actions := by
  induction actions generalizing s with
  | nil => exact trivial
  | cons action rest ih => exact ⟨⟨left.1, right.1⟩, ih left.2 right.2⟩

/-- **When nothing is handed out early.** On every chain that numbers its blocks, for every
configuration and every run of the service whose steps meet the condition: a value was handed out only
when the request of its number lies in a block that is below an observed head by the delay. -/
theorem disclosures_timely (numbered : chain.Numbered) {actions : List (ServiceAction Bytes32)}
    (follows : Service.initial.Follows K config
      (fun s action => s.Honest chain config action ∧ s.Prudent chain config action) actions) :
    ∀ d ∈ (Service.initial.run K config actions).disclosed, d.Timely chain config :=
  (Service.Disciplined.run numbered follows (initial_disciplined chain config)).timely

end Invariant

namespace Sample

/-- The first request is made in block 101, and nothing else happens. -/
def requestedChain : Chain symbolic := chain [request 1] rfl

/-- The sample service: it waits for finalized blocks, and listens to a WebSocket. -/
def serviceConfig : ServiceConfig Sym where
  confirmedBlockStatus := .finalized
  keeper := ⟨true, 0, [], 5, false⟩
  params := processParams

/-- The finalized head is 100 at the start, and `read` when the WebSocket is connected. The log of the
request arrives, its block is scanned, and the task of its event submits. -/
def serviceRun (read : UInt64) : List (ServiceAction Sym) :=
  [.start fun _ => some 100, .keeper (.ws (.connected (fun _ => some read) true)),
    .keeper (.ws (.log ⟨[requestedEventTopic], some 101⟩)), .keeper .receive,
    .keeper (.fetch .live fun _ => ⟨.ok [requestedEvent.scanned], .error []⟩),
    .keeper (.insert .live), .reveal requestedEvent (.error [])]

theorem requestedChain_numbered : requestedChain.Numbered where
  positive := by decide
  deployed := ⟨deployment, world, deployed, rfl, .refl⟩
  mined _ _ := rfl
  blockNumber := by
    intro b deployed
    obtain ⟨later, rfl⟩ := Nat.exists_eq_add_of_le deployed
    show (worldAfter [request 1] (100 + later - 100)).blockNumber = 100 + later
    rw [Nat.add_sub_cancel_left]
    induction later with
    | zero => rfl
    | succ later ih =>
      cases later with
      | zero => decide +kernel
      | succ later =>
        show (worldAfter [request 1] (later + 1)).blockNumber + 1 = _
        rw [ih (Nat.le_add_right _ _)]
        rfl

/-- The node answers with the event of block 101 when this block is scanned. -/
theorem serviceRun_honest (read : UInt64) (scanned : ((Service.initial.run symbolic serviceConfig
      ((serviceRun read).take 4)).keeper.map fun k => k.scanner .live) =
        some ⟨[⟨101, 101⟩], []⟩) :
    Service.initial.Follows symbolic serviceConfig
      (fun s action => s.Honest requestedChain serviceConfig action) (serviceRun read) := by
  refine ⟨trivial, fun _ _ => trivial, fun _ _ => trivial, fun _ _ => trivial, fun k here => ?_,
    fun _ _ => trivial, trivial, trivial⟩
  intro currentBlock lastBlock later scanning i events answered
  have here : (Service.initial.run symbolic serviceConfig ((serviceRun read).take 4)).keeper =
      some k := here
  rw [here] at scanned
  cases scanning.symm.trans (Option.some.inj scanned)
  have told : events = [requestedEvent.scanned] := by
    rcases answered with primary | fallback
    · exact (Except.ok.inj primary).symm
    · cases fallback
  have logged : [requestedEvent.scanned] ⊆
      requestedChain.scannedEvents provider (nextBatch 101 101) := by
    decide +kernel
  rw [told]
  exact logged

theorem serviceRun_prudent : Service.initial.Follows symbolic serviceConfig
    (fun s action => s.Prudent requestedChain serviceConfig action) (serviceRun 101) := by
  refine ⟨fun _ _ _ => Nat.zero_le _, fun k here => ⟨fun _ _ => Nat.zero_le _, fun head raw => ?_⟩,
    fun k here => ⟨fun _ _ => Nat.zero_le _, fun head raw => ?_⟩,
    fun k here => ⟨fun _ _ => Nat.zero_le _, nofun⟩, fun k here => ⟨fun _ _ => Nat.zero_le _, nofun⟩,
    fun k here => ⟨fun _ _ => Nat.zero_le _, nofun⟩, trivial, trivial⟩
  · cases here
    cases raw
  · -- block 101 is confirmed already
    cases here
    cases raw
    exact .inr (.inl (by decide +kernel))

end Sample

/-- With a finalized head of 101, the request of block 101 is answered, in time. -/
theorem disclosures_timely_confirmed :
    (Service.initial.run symbolic Sample.serviceConfig (Sample.serviceRun 101)).disclosed.length = 1 ∧
      ∀ d ∈ (Service.initial.run symbolic Sample.serviceConfig (Sample.serviceRun 101)).disclosed,
        d.Timely Sample.requestedChain Sample.serviceConfig := by
  have honest := Sample.serviceRun_honest 101 (by decide +kernel)
  exact ⟨by decide +kernel,
    disclosures_timely Sample.requestedChain_numbered (honest.and Sample.serviceRun_prudent)⟩

/-- **A value that is handed out early.** The service waits for finalized blocks; the finalized head
was 100 whenever it was observed, and the answer to the request, which is made in block 101, is
submitted as soon as its log arrives. -/
theorem disclosed_early :
    Sample.requestedChain.Numbered ∧
      Sample.requestedChain.RequestedIn (Sample.provider, 1) 101 ∧
      Service.initial.Follows symbolic Sample.serviceConfig
        (fun s action => s.Honest Sample.requestedChain Sample.serviceConfig action)
        (Sample.serviceRun 100) ∧
      ∃ d ∈ (Service.initial.run symbolic Sample.serviceConfig (Sample.serviceRun 100)).disclosed,
        d.sequenceNumber = 1 ∧ d.observed = [100, 100] ∧
          ¬ d.Timely Sample.requestedChain Sample.serviceConfig := by
  have disclosed : (Service.initial.run symbolic Sample.serviceConfig
      (Sample.serviceRun 100)).disclosed = [⟨1, Sample.value 1, [100, 100]⟩] := by decide +kernel
  refine ⟨Sample.requestedChain_numbered, ⟨_, List.mem_of_mem_head? rfl, by decide +kernel⟩,
    Sample.serviceRun_honest 100 (by decide +kernel), ⟨1, Sample.value 1, [100, 100]⟩, ?_, rfl, rfl, ?_⟩
  · rw [disclosed]
    exact List.mem_singleton_self _
  · rintro ⟨b, requested, head, member, below⟩
    have last : head = 100 := by simpa using member
    have block : b = 100 := by
      have low : 100 ≤ b := requested.deployed
      have high : b + 0 ≤ head := below
      omega
    -- nothing is requested in the block of the deployment
    obtain ⟨log, logged, requests⟩ := requested
    rw [block] at logged
    have none_requested : ∀ log ∈ Sample.requestedChain.logsIn 100,
        Entry.requests (Sample.provider, 1) (.emitted log.1) = false := by decide +kernel
    exact Bool.false_ne_true ((none_requested log logged).symm.trans requests)

end Dice
