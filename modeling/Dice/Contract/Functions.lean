/-
**The functions of `DiceEntropy`**, in the order of the source.

A function that makes no message call maps a world to the world after it, or reverts. One that makes
a call returns an `Outcome`: it reverts, finishes, or waits for the reply with the local variables it
still needs (`Pending`); what it does after the reply is a function of its own
(`revealWithCallbackLimited`, `revealWithCallbackUnlimited`, `refundRequestSent`,
`withdrawFeesSent`). Gas readings (`gasleft()`), code sizes and replies come from the environment.
-/

import Dice.Contract.Storage
import Dice.Library.CallStack

namespace Dice

variable {Bytes32 : Type}

/-- `msg`. No message is sent from the zero address. -/
structure Msg where
  sender : Address
  value : ℕ
  sender_ne_zero : sender ≠ 0
  deriving DecidableEq

/-- What a message call gives back: its success flag, its return data and the gas that is left. -/
structure CallResult where
  success : Bool
  returnData : Bytes
  gasLeft : ℕ
  deriving DecidableEq, Repr

/-! ### Reverts, checked arithmetic and casts -/

/-- `if (condition) revert error`. -/
def revertIf (condition : Prop) [Decidable condition] (error : Revert) : Except Revert Unit :=
  if condition then .error error else .ok ()

/-- `require(condition, reason)`. -/
def require (condition : Prop) [Decidable condition] (reason : String) : Except Revert Unit :=
  if condition then .ok () else .error (.require reason)

/-- Checked addition in `bits` bits. -/
def checkedAdd (bits a b : ℕ) : Except Revert ℕ :=
  if a + b < 2 ^ bits then .ok (a + b) else .error .arithmeticPanic

/-- Checked subtraction. -/
def checkedSub (a b : ℕ) : Except Revert ℕ :=
  if b ≤ a then .ok (a - b) else .error .arithmeticPanic

/-- `SafeCast.toUint16`, `toUint32` and `toUint64`. -/
def toUint (bits a : ℕ) : Except Revert ℕ :=
  if a < 2 ^ bits then .ok a else .error .safeCastOverflow

/-- `TEN_THOUSAND`. -/
def tenThousand : ℕ := 10000

/-- `MAX_GAS_LIMIT`. -/
def maxGasLimit : ℕ := (2 ^ 16 - 1) * tenThousand

/-- The gas a message call gets: no more than all but one 64th of what is available. -/
def forwardedGas (available requested : ℕ) : ℕ :=
  min requested (available - available / 64)

/-! ### Pure functions -/

section Pure

variable (K : Keccak Bytes32)

/-- `constructUserCommitment`. -/
def constructUserCommitment (userRandomness : Bytes32) : Bytes32 :=
  K.keccak256 [userRandomness]

/-- `combineRandomValues`. -/
def combineRandomValues (userRandomness providerRandomness blockHash : Bytes32) : Bytes32 :=
  K.keccak256 [userRandomness, providerRandomness, blockHash]

/-- `roundTo10kGas`. -/
def roundTo10kGas (gas : ℕ) : Except Revert ℕ := do
  revertIf (gas > maxGasLimit) .maxGasLimitExceeded
  let gas10k := gas / tenThousand
  let gas10k := if gas10k * tenThousand < gas then gas10k + 1 else gas10k
  toUint 16 gas10k

/-- `constructProviderCommitment`: one turn of the loop for each of `numHashes`. -/
def constructProviderCommitment : ℕ → Bytes32 → Bytes32
  | 0, currentHash => currentHash
  | numHashes + 1, currentHash =>
      constructProviderCommitment numHashes (K.keccak256 [currentHash])

end Pure

/-! ### Constructor -/

/-- The constructor's arguments, and the chain it runs on: its block, and the ether that was at the
contract's address before. -/
structure Deployment (Bytes32 : Type) where
  admin : Address
  feeInWei : ℕ
  defaultProvider : Address
  prefillRequestStorage : Bool
  vault : Address
  providerCommitment : Bytes32
  providerChainLength : ℕ
  providerCommitmentMetadata : Bytes
  refundDelayBlocks : ℕ
  blockNumber : ℕ
  blockhash : ℕ → Bytes32
  etherBefore : ℕ

section Constructor

variable (K : Keccak Bytes32) [DecidableEq Bytes32]

/-- A slot after `prefillRequestStorage`: `commitment` is the literal `hex"0123"`. -/
def prefilledRequest : Request Bytes32 :=
  { Request.unset K with
    provider := 1
    blockNumber := 1234
    commitment := K.word (0x0123 * 2 ^ 240) }

/-- The constructor. -/
def constructor (d : Deployment Bytes32) : Except Revert (World Bytes32) := do
  require (d.admin ≠ 0) "admin is zero address"
  require (d.defaultProvider ≠ 0) "defaultProvider is zero address"
  require (d.vault ≠ 0) "vault is zero address"
  require (d.providerChainLength > 0 → d.providerCommitment ≠ K.word 0) "commitment is zero"
  let s : State Bytes32 :=
    { admin := d.admin
      feeInWei := d.feeInWei
      accruedFeesInWei := 0
      vault := d.vault
      defaultProvider := d.defaultProvider
      requests := fun _ => if d.prefillRequestStorage then prefilledRequest K else .unset K
      requestsOverflow := fun _ => .unset K
      providers := fun _ => .unset K
      proposedAdmin := 0
      refundDelayBlocks := d.refundDelayBlocks }
  let w : World Bytes32 :=
    { state := s
      balance := d.etherBefore
      blockNumber := d.blockNumber
      blockhash := d.blockhash
      history := [.forced d.etherBefore] }
  if d.providerChainLength > 0 then
    let w := w.setState (s.setProvider d.defaultProvider
      { ProviderInfo.unset K with
        originalCommitment := d.providerCommitment
        originalCommitmentSequenceNumber := 0
        currentCommitment := d.providerCommitment
        currentCommitmentSequenceNumber := 0
        endSequenceNumber := d.providerChainLength
        sequenceNumber := 1
        commitmentMetadata := d.providerCommitmentMetadata })
    pure ((w.record (.registered d.defaultProvider 0 d.providerCommitment)).emit
      (.registered d.defaultProvider))
  else pure w

end Constructor

/-- The local variables of a function that waits for the reply to its message call. -/
inductive Pending (Bytes32 : Type) where
  /-- `revealWithCallback`, in the gas-limited branch: `req` is the storage pointer it keeps. -/
  | limited (req : RequestRef Bytes32) (provider : Address) (sequenceNumber : ℕ)
      (userContribution providerContribution randomNumber : Bytes32) (startingGas : ℕ)
  /-- `revealWithCallback`, in the other branch. -/
  | unlimited (callAddress provider : Address) (sequenceNumber : ℕ)
      (userContribution providerContribution randomNumber : Bytes32) (startingGas : ℕ)
  /-- `refundRequest`, while the requester receives its fee. -/
  | refund (provider requester : Address) (sequenceNumber amount : ℕ)
  /-- `withdrawFees`, while the vault receives the fees. -/
  | withdrawal
  /-- A function of another contract, which may call this one and may revert. -/
  | foreign

abbrev Step (Bytes32 : Type) := CallStack.Outcome (World Bytes32) (Pending Bytes32) Revert

section Functions

variable (K : Keccak Bytes32) [DecidableEq Bytes32] (w : World Bytes32) (msg : Msg)

/-! ### Provider registration -/

/-- `registerFor`. The `feeInWei` argument is ignored. -/
def registerFor (providerAddress : Address) (_feeInWei : ℕ) (commitment : Bytes32)
    (commitmentMetadata : Bytes) (chainLength : ℕ) (uri : Bytes) :
    Except Revert (World Bytes32) := do
  revertIf (msg.sender ≠ w.state.admin) .unauthorized
  revertIf (chainLength = 0) .assertionFailure
  revertIf (providerAddress = 0) .assertionFailure
  let provider := w.state.providers providerAddress
  require (provider.sequenceNumber ≠ 0 →
    provider.currentCommitmentSequenceNumber ≥ provider.sequenceNumber - 1)
    "in-flight requests exist"
  let endSequenceNumber ← checkedAdd 64 provider.sequenceNumber chainLength
  let sequenceNumber ← checkedAdd 64 provider.sequenceNumber 1
  let provider :=
    { provider with
      feeInWei := 0
      originalCommitment := commitment
      originalCommitmentSequenceNumber := provider.sequenceNumber
      currentCommitment := commitment
      currentCommitmentSequenceNumber := provider.sequenceNumber
      commitmentMetadata
      endSequenceNumber
      uri
      sequenceNumber }
  let w := w.setState (w.state.setProvider providerAddress provider)
  let w := w.record
    (.registered providerAddress provider.originalCommitmentSequenceNumber commitment)
  pure (w.emit (.registered providerAddress))

/-! ### Fee management -/

/-- `withdrawFees`, up to the call of the vault. -/
def withdrawFees (amount : ℕ) : Except Revert (World Bytes32) := do
  require (msg.sender = w.state.admin) "Only admin"
  require (w.state.accruedFeesInWei ≥ amount) "Insufficient balance"
  let w := w.setState { w.state with accruedFeesInWei := w.state.accruedFeesInWei - amount }
  -- a call that carries more ether than there is fails at once
  require (w.balance ≥ amount) "vault withdrawal failed"
  pure ((w.send amount).record (.withdrawn msg.sender w.state.vault amount))

/-- `withdrawFees`, after the call of the vault. -/
def withdrawFeesSent (result : CallResult) : Except Revert (World Bytes32) := do
  require result.success "vault withdrawal failed"
  pure w

/-! ### Requests -/

/-- `getFeeV2(address,uint32)`. -/
def getFeeV2 (s : State Bytes32) (_provider : Address) (_gasLimit : ℕ) : ℕ :=
  s.feeInWei

/-- The `gasLimit10k` of a new request. -/
def requestGasLimit10k (providerInfo : ProviderInfo Bytes32) (callbackGasLimit : ℕ) :
    Except Revert ℕ :=
  if providerInfo.defaultGasLimit = 0 then .ok 0
  else roundTo10kGas (max callbackGasLimit providerInfo.defaultGasLimit)

/-- `requestHelper`. The fields of the new request are written together. -/
def requestHelper (provider : Address) (userCommitment : Bytes32)
    (useBlockhash isRequestWithCallback : Bool) (callbackGasLimit : ℕ) :
    Except Revert (State Bytes32 × RequestRef Bytes32) := do
  let s := w.state
  let providerInfo := s.providers provider
  revertIf (providerInfo.sequenceNumber = 0) .noSuchProvider
  let assignedSequenceNumber := providerInfo.sequenceNumber
  revertIf (assignedSequenceNumber ≥ providerInfo.endSequenceNumber) .outOfRandomness
  let sequenceNumber ← checkedAdd 64 providerInfo.sequenceNumber 1
  let s := s.setProvider provider { providerInfo with sequenceNumber }
  let requiredFee := getFeeV2 s provider callbackGasLimit
  revertIf (msg.value ≠ requiredFee) .insufficientFee
  let accruedFeesInWei ← checkedAdd 128 s.accruedFeesInWei requiredFee
  let s := { s with accruedFeesInWei }
  let (s, req) := allocRequest K s provider assignedSequenceNumber
  let distance ← checkedSub assignedSequenceNumber providerInfo.currentCommitmentSequenceNumber
  let numHashes ← toUint 32 distance
  revertIf (providerInfo.maxNumHashes ≠ 0 ∧ numHashes > providerInfo.maxNumHashes)
    .lastRevealedTooOld
  let blockNumber ← toUint 64 w.blockNumber
  let gasLimit10k ← requestGasLimit10k providerInfo callbackGasLimit
  pure (s.write req
    { provider
      sequenceNumber := assignedSequenceNumber
      numHashes
      commitment := K.keccak256 [userCommitment, providerInfo.currentCommitment]
      requester := msg.sender
      blockNumber
      useBlockhash
      callbackStatus := if isRequestWithCallback then .notStarted else .notNecessary
      feePaid := requiredFee
      gasLimit10k }, req)

/-- `requestV2(address,bytes32,uint32)`, with the sequence number it returns. -/
def requestV2 (provider : Address) (userRandomNumber : Bytes32) (gasLimit : ℕ) :
    Except Revert (World Bytes32 × ℕ) := do
  let (s, ref) ← requestHelper K w msg provider (constructUserCommitment K userRandomNumber)
    false true gasLimit
  let req := s.read ref
  let w := ((w.setState s).receive msg.value).record (.paid msg.sender msg.value)
  let w := w.emit (.requested provider req.requester req.sequenceNumber userRandomNumber
    (req.gasLimit10k * tenThousand))
  pure (w, req.sequenceNumber)

/-! ### Reveals -/

/-- `revealHelper`, with the random number and the block hash it returns. -/
def revealHelper (ref : RequestRef Bytes32) (userContribution providerContribution : Bytes32) :
    Except Revert (World Bytes32 × Bytes32 × Bytes32) := do
  let req := w.state.read ref
  let providerCommitment := constructProviderCommitment K req.numHashes providerContribution
  let userCommitment := constructUserCommitment K userContribution
  revertIf (K.keccak256 [userCommitment, providerCommitment] ≠ req.commitment)
    .incorrectRevelation
  let blockHash := if req.useBlockhash then w.blockhash req.blockNumber else K.word 0
  revertIf (req.useBlockhash ∧ blockHash = K.word 0) .blockhashUnavailable
  let randomNumber := combineRandomValues K userContribution providerContribution blockHash
  let providerInfo := w.state.providers req.provider
  let s :=
    if providerInfo.currentCommitmentSequenceNumber < req.sequenceNumber then
      w.state.setProvider req.provider
        { providerInfo with
          currentCommitmentSequenceNumber := req.sequenceNumber
          currentCommitment := providerContribution }
    else w.state
  pure ((w.setState s).record (.revealed req.provider req.sequenceNumber providerContribution),
    randomNumber, blockHash)

/-- `reveal`, with the random number it returns. -/
def reveal (provider : Address) (sequenceNumber : ℕ)
    (userContribution providerContribution : Bytes32) :
    Except Revert (World Bytes32 × Bytes32) := do
  let req ← findActiveRequest K w.state provider sequenceNumber
  revertIf ((w.state.read req).callbackStatus ≠ .notNecessary) .invalidRevealCall
  revertIf ((w.state.read req).requester ≠ msg.sender) .unauthorized
  let (w, randomNumber, _) ← revealHelper K w req userContribution providerContribution
  let w := w.emit (.revealed provider (w.state.read req).requester sequenceNumber randomNumber
    userContribution providerContribution false [] 0)
  pure (w.setState (clearRequest K w.state provider sequenceNumber), randomNumber)

/-- The checks of `revealWithCallback` and `revealHelper`, before it branches. -/
def revealWithCallbackChecks (provider : Address) (sequenceNumber : ℕ)
    (userContribution providerContribution : Bytes32) :
    Except Revert (World Bytes32 × RequestRef Bytes32 × Bytes32) := do
  let req ← findActiveRequest K w.state provider sequenceNumber
  revertIf (¬ ((w.state.read req).callbackStatus = .notStarted ∨
    (w.state.read req).callbackStatus = .failed)) .invalidRevealCall
  let (w, randomNumber, _) ← revealHelper K w req userContribution providerContribution
  pure (w, req, randomNumber)

/-- `revealWithCallback`, up to the callback. `startingGas` and `endingGas` are its two readings of
`gasleft()`, the second one only when no callback is made; `len` is the code size of the
requester. -/
def revealWithCallback (provider : Address) (sequenceNumber : ℕ)
    (userContribution providerContribution : Bytes32) (startingGas endingGas len : ℕ) :
    Step Bytes32 :=
  match revealWithCallbackChecks K w provider sequenceNumber userContribution
      providerContribution with
  | .error error => .reverted error
  | .ok (w, ref, randomNumber) =>
      let req := w.state.read ref
      if req.gasLimit10k ≠ 0 ∧ req.callbackStatus = .notStarted then
        .calling
          ((w.setState (w.state.setCallbackStatus ref .inProgress)).record
            (.called provider sequenceNumber req.requester
              (forwardedGas startingGas (req.gasLimit10k * tenThousand))))
          (.limited ref provider sequenceNumber userContribution providerContribution randomNumber
            startingGas)
      else
        let callAddress := req.requester
        let w := w.setState (clearRequest K w.state provider sequenceNumber)
        if len ≠ 0 then
          .calling
            (w.record (.called provider sequenceNumber callAddress
              (forwardedGas startingGas (startingGas * 15 / 16))))
            (.unlimited callAddress provider sequenceNumber userContribution providerContribution
              randomNumber startingGas)
        else
          match (do toUint 32 (← checkedSub startingGas endingGas) : Except Revert ℕ) with
          | .error error => .reverted error
          | .ok gasUsed =>
              .done (w.emit (.revealed provider callAddress sequenceNumber randomNumber
                userContribution providerContribution false [] gasUsed))

/-- `revealWithCallback`, after the callback of the gas-limited branch. The request is read and
written through the pointer that was taken before the callback. -/
def revealWithCallbackLimited (ref : RequestRef Bytes32) (provider : Address)
    (sequenceNumber : ℕ) (userContribution providerContribution randomNumber : Bytes32)
    (startingGas : ℕ) (result : CallResult) : Except Revert (World Bytes32) := do
  let gasUsed ← toUint 32 (← checkedSub startingGas result.gasLeft)
  let ret := result.returnData.take 256
  let w := w.setState (w.state.setCallbackStatus ref .notStarted)
  let req := w.state.read ref
  if result.success then
    let w := w.record (.delivered provider sequenceNumber)
    let w := w.emit (.revealed provider req.requester sequenceNumber randomNumber
      userContribution providerContribution false ret gasUsed)
    pure (w.setState (clearRequest K w.state provider sequenceNumber))
  else if startingGas * 31 / 32 > req.gasLimit10k * tenThousand then
    let w := w.emit (.revealed provider req.requester sequenceNumber randomNumber
      userContribution providerContribution true ret gasUsed)
    pure (w.setState (w.state.setCallbackStatus ref .failed))
  else .error .insufficientGas

/-- `revealWithCallback`, after the callback of the other branch. -/
def revealWithCallbackUnlimited (callAddress provider : Address) (sequenceNumber : ℕ)
    (userContribution providerContribution randomNumber : Bytes32) (startingGas : ℕ)
    (result : CallResult) : Except Revert (World Bytes32) := do
  let callbackFailed := !result.success
  let gasUsed ← toUint 32 (← checkedSub startingGas result.gasLeft)
  let w := if result.success then w.record (.delivered provider sequenceNumber) else w
  pure (w.emit (.revealed provider callAddress sequenceNumber randomNumber userContribution
    providerContribution callbackFailed [] gasUsed))

/-! ### Refunds -/

/-- The checks of `refundRequest` and the clearing, before the transfer. -/
def refundRequestChecks (provider : Address) (sequenceNumber : ℕ) :
    Except Revert (World Bytes32 × Address × ℕ) := do
  let ref ← findActiveRequest K w.state provider sequenceNumber
  let req := w.state.read ref
  revertIf (req.requester ≠ msg.sender) .unauthorized
  revertIf (w.blockNumber < req.blockNumber + w.state.refundDelayBlocks) .refundNotAvailable
  pure (w.setState (clearRequest K w.state provider sequenceNumber), req.requester, req.feePaid)

/-- The accounting of a refund that pays something, up to the transfer. -/
def refundTransfer (provider : Address) (sequenceNumber : ℕ) (requester : Address) (amount : ℕ) :
    Except Revert (World Bytes32) := do
  require (w.state.accruedFeesInWei ≥ amount) "Insufficient accrued fees"
  let w := w.setState { w.state with accruedFeesInWei := w.state.accruedFeesInWei - amount }
  -- a call that carries more ether than there is fails at once
  require (w.balance ≥ amount) "refund transfer failed"
  pure ((w.send amount).record (.refunded provider sequenceNumber requester amount))

/-- `refundRequest`, up to the transfer. -/
def refundRequest (provider : Address) (sequenceNumber : ℕ) : Step Bytes32 :=
  match refundRequestChecks K w msg provider sequenceNumber with
  | .error error => .reverted error
  | .ok (w, requester, amount) =>
      if amount > 0 then
        match refundTransfer w provider sequenceNumber requester amount with
        | .error error => .reverted error
        | .ok w => .calling w (.refund provider requester sequenceNumber amount)
      else .done (w.emit (.requestRefunded provider requester sequenceNumber amount))

/-- `refundRequest`, after the transfer. -/
def refundRequestSent (provider requester : Address) (sequenceNumber amount : ℕ)
    (result : CallResult) : Except Revert (World Bytes32) := do
  require result.success "refund transfer failed"
  pure (w.emit (.requestRefunded provider requester sequenceNumber amount))

/-! ### Commitment advancement -/

/-- The sequence number after an advancement, bumped past it so that no revealed number is
assigned. -/
def bumpedSequenceNumber (providerInfo : ProviderInfo Bytes32) (advancedSequenceNumber : ℕ) :
    Except Revert ℕ :=
  if advancedSequenceNumber ≥ providerInfo.sequenceNumber then
    checkedAdd 64 advancedSequenceNumber 1
  else .ok providerInfo.sequenceNumber

/-- `advanceProviderCommitment`. -/
def advanceProviderCommitment (provider : Address) (advancedSequenceNumber : ℕ)
    (providerRevelation : Bytes32) : Except Revert (World Bytes32) := do
  let providerInfo := w.state.providers provider
  revertIf (advancedSequenceNumber ≤ providerInfo.currentCommitmentSequenceNumber) .updateTooOld
  revertIf (advancedSequenceNumber ≥ providerInfo.endSequenceNumber) .assertionFailure
  let numHashes ← toUint 32 (advancedSequenceNumber - providerInfo.currentCommitmentSequenceNumber)
  let providerCommitment := constructProviderCommitment K numHashes providerRevelation
  revertIf (providerCommitment ≠ providerInfo.currentCommitment) .incorrectRevelation
  let sequenceNumber ← bumpedSequenceNumber providerInfo advancedSequenceNumber
  let w := w.setState (w.state.setProvider provider
    { providerInfo with
      currentCommitmentSequenceNumber := advancedSequenceNumber
      currentCommitment := providerRevelation
      sequenceNumber })
  pure (w.record (.advanced provider advancedSequenceNumber providerRevelation))

/-! ### Provider configuration -/

/-- `setProviderUri`. -/
def setProviderUri (newUri : Bytes) : Except Revert (World Bytes32) := do
  let provider := w.state.providers msg.sender
  revertIf (provider.sequenceNumber = 0) .noSuchProvider
  let w := w.setState (w.state.setProvider msg.sender { provider with uri := newUri })
  pure (w.emit (.providerUriUpdated msg.sender provider.uri newUri))

/-- `setMaxNumHashes`. -/
def setMaxNumHashes (maxNumHashes : ℕ) : Except Revert (World Bytes32) := do
  let provider := w.state.providers msg.sender
  revertIf (provider.sequenceNumber = 0) .noSuchProvider
  let w := w.setState (w.state.setProvider msg.sender { provider with maxNumHashes })
  pure (w.emit (.providerMaxNumHashesAdvanced msg.sender provider.maxNumHashes maxNumHashes))

/-- `setDefaultGasLimit`. -/
def setDefaultGasLimit (gasLimit : ℕ) : Except Revert (World Bytes32) := do
  let provider := w.state.providers msg.sender
  revertIf (provider.sequenceNumber = 0) .noSuchProvider
  let _ ← roundTo10kGas gasLimit
  let w := w.setState (w.state.setProvider msg.sender { provider with defaultGasLimit := gasLimit })
  pure (w.emit (.providerDefaultGasLimitUpdated msg.sender provider.defaultGasLimit gasLimit))

/-! ### Admin functions -/

/-- `proposeAdmin`. -/
def proposeAdmin (newAdmin : Address) : Except Revert (World Bytes32) := do
  require (msg.sender = w.state.admin) "Only admin"
  require (newAdmin ≠ 0) "admin is zero address"
  pure (w.setState { w.state with proposedAdmin := newAdmin })

/-- `acceptAdmin`. -/
def acceptAdmin : Except Revert (World Bytes32) := do
  require (msg.sender = w.state.proposedAdmin) "Not proposed"
  pure (w.setState { w.state with admin := w.state.proposedAdmin, proposedAdmin := 0 })

/-- `setDefaultProvider`. -/
def setDefaultProvider (provider : Address) : Except Revert (World Bytes32) := do
  require (msg.sender = w.state.admin) "Only admin"
  pure (w.setState { w.state with defaultProvider := provider })

/-- `setFee`. -/
def setFee (feeInWei : ℕ) : Except Revert (World Bytes32) := do
  require (msg.sender = w.state.admin) "Only admin"
  pure (w.setState { w.state with feeInWei })

end Functions

end Dice
