/-
**The contract as a component that is called, and called again while it calls out.**

* `Call` — every state-changing external function of `DiceEntropy`, and the two things that can
  happen around it at any depth: ether forced in, and a function of another contract that makes calls
  of its own and may revert as a whole.
* `dice` — the component: `start` runs a function up to its message call, `resume` runs the rest.
  Between transactions blocks are mined.
* `Reachable` — the configurations of all runs from all deployments, under a guard on the calls.
-/

import Dice.Contract.Functions

namespace Dice

variable {Bytes32 : Type}

/-- The external functions that are not views, and what happens around the contract. -/
inductive Call (Bytes32 : Type) where
  | registerFor (providerAddress : Address) (feeInWei : ℕ) (commitment : Bytes32)
      (commitmentMetadata : Bytes) (chainLength : ℕ) (uri : Bytes)
  | withdrawFees (amount : ℕ)
  /-- `requestV2()`, `requestV2(uint32)` and `requestV2(address,uint32)`. -/
  | requestV2Disabled
  | requestV2 (provider : Address) (userRandomNumber : Bytes32) (gasLimit : ℕ)
  | reveal (provider : Address) (sequenceNumber : ℕ)
      (userContribution providerContribution : Bytes32)
  | revealWithCallback (provider : Address) (sequenceNumber : ℕ)
      (userContribution providerContribution : Bytes32) (startingGas endingGas len : ℕ)
  | refundRequest (provider : Address) (sequenceNumber : ℕ)
  | advanceProviderCommitment (provider : Address) (advancedSequenceNumber : ℕ)
      (providerRevelation : Bytes32)
  /-- `setProviderFee`, `setProviderFeeAsFeeManager`, `setFeeManager`, `withdraw` and
  `withdrawAsFeeManager`. -/
  | feeModelDisabled
  | setProviderUri (newUri : Bytes)
  | setMaxNumHashes (maxNumHashes : ℕ)
  | setDefaultGasLimit (gasLimit : ℕ)
  | proposeAdmin (newAdmin : Address)
  | acceptAdmin
  | setDefaultProvider (provider : Address)
  | setFee (feeInWei : ℕ)
  /-- Ether forced in from outside, by `SELFDESTRUCT` for example. -/
  | forceEther (amount : ℕ)
  /-- A function of another contract begins. -/
  | foreign
  deriving DecidableEq

/-- A call with its `msg`. -/
structure Message (Bytes32 : Type) where
  msg : Msg
  call : Call Bytes32
  deriving DecidableEq

/-- New blocks: the number moves on and the recent block hashes change. -/
structure Mined (Bytes32 : Type) where
  blocks : ℕ
  blockhash : ℕ → Bytes32

/-- `payable`. -/
def Call.payable : Call Bytes32 → Bool
  | .requestV2 .. => true
  | .requestV2Disabled => true
  | _ => false

/-- A function that makes no message call. -/
def atomically (result : Except Revert (World Bytes32)) : Step Bytes32 :=
  match result with
  | .ok w => .done w
  | .error error => .reverted error

variable (K : Keccak Bytes32) [DecidableEq Bytes32]

/-- The first half of a call. -/
def start (m : Message Bytes32) (w : World Bytes32) : Step Bytes32 :=
  if m.msg.value ≠ 0 ∧ m.call.payable = false then .reverted .notPayable
  else match m.call with
  | .registerFor providerAddress feeInWei commitment commitmentMetadata chainLength uri =>
      atomically (registerFor w m.msg providerAddress feeInWei commitment commitmentMetadata
        chainLength uri)
  | .withdrawFees amount =>
      match withdrawFees w m.msg amount with
      | .ok w => .calling w .withdrawal
      | .error error => .reverted error
  | .requestV2Disabled => .reverted .assertionFailure
  | .requestV2 provider userRandomNumber gasLimit =>
      atomically ((requestV2 K w m.msg provider userRandomNumber gasLimit).map Prod.fst)
  | .reveal provider sequenceNumber userContribution providerContribution =>
      atomically ((reveal K w m.msg provider sequenceNumber userContribution
        providerContribution).map Prod.fst)
  | .revealWithCallback provider sequenceNumber userContribution providerContribution startingGas
      endingGas len =>
      revealWithCallback K w provider sequenceNumber userContribution providerContribution
        startingGas endingGas len
  | .refundRequest provider sequenceNumber => refundRequest K w m.msg provider sequenceNumber
  | .advanceProviderCommitment provider advancedSequenceNumber providerRevelation =>
      atomically (advanceProviderCommitment K w provider advancedSequenceNumber providerRevelation)
  | .feeModelDisabled => .reverted .unauthorized
  | .setProviderUri newUri => atomically (setProviderUri w m.msg newUri)
  | .setMaxNumHashes maxNumHashes => atomically (setMaxNumHashes w m.msg maxNumHashes)
  | .setDefaultGasLimit gasLimit => atomically (setDefaultGasLimit w m.msg gasLimit)
  | .proposeAdmin newAdmin => atomically (proposeAdmin w m.msg newAdmin)
  | .acceptAdmin => atomically (acceptAdmin w m.msg)
  | .setDefaultProvider provider => atomically (setDefaultProvider w m.msg provider)
  | .setFee feeInWei => atomically (setFee w m.msg feeInWei)
  | .forceEther amount => .done ((w.receive amount).record (.forced amount))
  | .foreign => .calling w .foreign

/-- The rest of a call, after the reply. -/
def resume (pending : Pending Bytes32) (result : CallResult) (w : World Bytes32) :
    Except Revert (World Bytes32) :=
  match pending with
  | .limited req provider sequenceNumber userContribution providerContribution randomNumber
      startingGas =>
      revealWithCallbackLimited K w req provider sequenceNumber userContribution
        providerContribution randomNumber startingGas result
  | .unlimited callAddress provider sequenceNumber userContribution providerContribution
      randomNumber startingGas =>
      revealWithCallbackUnlimited w callAddress provider sequenceNumber userContribution
        providerContribution randomNumber startingGas result
  | .refund provider requester sequenceNumber amount =>
      refundRequestSent w provider requester sequenceNumber amount result
  | .withdrawal => withdrawFeesSent w result
  | .foreign => do
      require result.success "reverted"
      pure w

def mine (mined : Mined Bytes32) (w : World Bytes32) : World Bytes32 :=
  { w with
    blockNumber := w.blockNumber + mined.blocks
    blockhash := mined.blockhash }

/-- **The contract.** -/
def dice : CallStack.Component (World Bytes32) (Message Bytes32) (Pending Bytes32) CallResult
    Revert (Mined Bytes32) where
  start := start K
  succeeded := CallResult.success
  resume := resume K
  idle := mine

abbrev Config (Bytes32 : Type) := CallStack.Config (World Bytes32) (Pending Bytes32)

abbrev Action (Bytes32 : Type) := CallStack.Action (Message Bytes32) CallResult (Mined Bytes32)

/-- No restriction on the calls. -/
def anyCall : Message Bytes32 → World Bytes32 → Prop := fun _ _ => True

/-- **The configurations of all runs**: from any successful deployment, by any calls that meet the
guard, nested in any way. -/
def Reachable (guard : Message Bytes32 → World Bytes32 → Prop) (c : Config Bytes32) : Prop :=
  ∃ d w, constructor K d = .ok w ∧ (dice K).Reachable guard ⟨w, []⟩ c

/-- One more allowed step. -/
theorem Reachable.step {guard : Message Bytes32 → World Bytes32 → Prop} {c : Config Bytes32}
    (reach : Reachable K guard c) (action : Action Bytes32)
    (allowed : CallStack.Component.Allowed guard c action) :
    Reachable K guard ((dice K).step c action) := by
  obtain ⟨d, w, deployed, run⟩ := reach
  exact ⟨d, w, deployed, .step action run allowed⟩

end Dice
