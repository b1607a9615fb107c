/-
**The data of the contract**: `DiceStructsV2`, `DiceState`, `DiceErrors`, `DiceEventsV2` and
`DiceStatusConstants`, and the hash functions everything is stated over.

The type `Bytes32` of 32-byte words is a parameter, and so is `keccak256` on concatenations of such
words: results that need it assume it injective on the type, which no finite type of words allows. Of
`requestHash` no more is assumed than 32-byte words have room for (`Keccak.nonempty_words`).
Unsigned integers are natural numbers; the checked arithmetic and the casts of the source are
explicit in the functions. Every field of an event but the constantly empty `extraArgs` is kept.
-/

import Mathlib.Algebra.GroupWithZero.Nat
import Mathlib.Data.List.Basic
import Mathlib.Logic.Function.Basic

namespace Dice

/-- `address`. -/
abbrev Address := BitVec 160

/-- `bytes`. -/
abbrev Bytes := List UInt8

/-- A request is named by its provider and its sequence number. -/
abbrev RequestKey := Address × ℕ

/-- `NUM_REQUESTS`, the size of the requests array. -/
abbrev numRequests : ℕ := 32

/-- **The hash functions of the contract.** `requestHash` is the full hash of `requestKey`, that is
`keccak256` of the 28 bytes of provider and sequence number, and is taken injective for the sequence
numbers that a `uint64` can hold; `shortHash` reads the low five bits of the first byte of a word. -/
structure Keccak (Bytes32 : Type) where
  keccak256 : List Bytes32 → Bytes32
  requestHash : Address → ℕ → Bytes32
  requestHash_injective : ∀ {key key' : RequestKey}, key.2 < 2 ^ 64 → key'.2 < 2 ^ 64 →
    requestHash key.1 key.2 = requestHash key'.1 key'.2 → key = key'
  shortHash : Bytes32 → Fin numRequests
  word : ℕ → Bytes32

/-- The 28 bytes fit into a word of 32. -/
theorem Keccak.nonempty_words : Nonempty (Keccak (BitVec 256)) := by
  refine ⟨⟨fun _ => 0, fun provider n => .ofNat 256 (provider.toNat * 2 ^ 64 + n), ?_, fun _ => 0,
    .ofNat 256⟩⟩
  rintro ⟨provider, n⟩ ⟨provider', n'⟩ small small' same
  have values := congrArg BitVec.toNat same
  simp only [BitVec.toNat_ofNat] at values small small'
  have fits := provider.isLt
  have fits' := provider'.isLt
  rw [Nat.mod_eq_of_lt (by omega), Nat.mod_eq_of_lt (by omega)] at values
  have sameProvider : provider = provider' := BitVec.eq_of_toNat_eq (by omega)
  have sameNumber : n = n' := by omega
  rw [sameProvider, sameNumber]

/-- What indexes the overflow mapping: the full hash of a request key. The sequence numbers of the source
are `uint64`; a number beyond them, which no call can have, gets a key of its own. -/
inductive FullHash (Bytes32 : Type) where
  | hash (value : Bytes32)
  | beyond (key : RequestKey)
  deriving DecidableEq

/-- `DiceStatusConstants`. -/
inductive CallbackStatus where
  | notNecessary
  | notStarted
  | inProgress
  | failed
  deriving DecidableEq, Repr

/-- `DiceStructsV2.ProviderInfo`. -/
structure ProviderInfo (Bytes32 : Type) where
  feeInWei : ℕ
  accruedFeesInWei : ℕ
  originalCommitment : Bytes32
  originalCommitmentSequenceNumber : ℕ
  commitmentMetadata : Bytes
  uri : Bytes
  endSequenceNumber : ℕ
  sequenceNumber : ℕ
  currentCommitment : Bytes32
  currentCommitmentSequenceNumber : ℕ
  feeManager : Address
  maxNumHashes : ℕ
  defaultGasLimit : ℕ
  deriving DecidableEq, Repr

/-- `DiceStructsV2.Request`. -/
structure Request (Bytes32 : Type) where
  provider : Address
  sequenceNumber : ℕ
  numHashes : ℕ
  commitment : Bytes32
  blockNumber : ℕ
  requester : Address
  useBlockhash : Bool
  callbackStatus : CallbackStatus
  gasLimit10k : ℕ
  feePaid : ℕ
  deriving DecidableEq, Repr

/-- `DiceInternalStructs.State`. -/
structure State (Bytes32 : Type) where
  admin : Address
  feeInWei : ℕ
  accruedFeesInWei : ℕ
  vault : Address
  defaultProvider : Address
  requests : Fin numRequests → Request Bytes32
  requestsOverflow : FullHash Bytes32 → Request Bytes32
  providers : Address → ProviderInfo Bytes32
  proposedAdmin : Address
  refundDelayBlocks : ℕ

/-- A provider record that was never written. -/
def ProviderInfo.unset {Bytes32 : Type} (K : Keccak Bytes32) : ProviderInfo Bytes32 where
  feeInWei := 0
  accruedFeesInWei := 0
  originalCommitment := K.word 0
  originalCommitmentSequenceNumber := 0
  commitmentMetadata := []
  uri := []
  endSequenceNumber := 0
  sequenceNumber := 0
  currentCommitment := K.word 0
  currentCommitmentSequenceNumber := 0
  feeManager := 0
  maxNumHashes := 0
  defaultGasLimit := 0

/-- A request record that was never written, or was deleted. -/
def Request.unset {Bytes32 : Type} (K : Keccak Bytes32) : Request Bytes32 where
  provider := 0
  sequenceNumber := 0
  numHashes := 0
  commitment := K.word 0
  blockNumber := 0
  requester := 0
  useBlockhash := false
  callbackStatus := .notNecessary
  gasLimit10k := 0
  feePaid := 0

/-- Why a call reverts: `DiceErrors`, the reason strings of `require`, the panics of checked
arithmetic, a failed `SafeCast`, and value sent to a function that is not payable. -/
inductive Revert where
  | assertionFailure
  | noSuchProvider
  | noSuchRequest
  | outOfRandomness
  | insufficientFee
  | incorrectRevelation
  | unauthorized
  | blockhashUnavailable
  | invalidRevealCall
  | lastRevealedTooOld
  | updateTooOld
  | insufficientGas
  | maxGasLimitExceeded
  | refundNotAvailable
  | require (reason : String)
  | arithmeticPanic
  | safeCastOverflow
  | notPayable
  deriving DecidableEq, Repr

/-- `DiceEventsV2`, as far as the contract emits them. -/
inductive Event (Bytes32 : Type) where
  | registered (provider : Address)
  | requested (provider caller : Address) (sequenceNumber : ℕ) (userContribution : Bytes32)
      (gasLimit : ℕ)
  | revealed (provider caller : Address) (sequenceNumber : ℕ)
      (randomNumber userContribution providerContribution : Bytes32) (callbackFailed : Bool)
      (callbackReturnValue : Bytes) (callbackGasUsed : ℕ)
  | providerDefaultGasLimitUpdated (provider : Address) (oldDefaultGasLimit newDefaultGasLimit : ℕ)
  | providerUriUpdated (provider : Address) (oldUri newUri : Bytes)
  | providerMaxNumHashesAdvanced (provider : Address) (oldMaxNumHashes newMaxNumHashes : ℕ)
  | requestRefunded (provider requester : Address) (sequenceNumber amount : ℕ)
  deriving DecidableEq, Repr

/-- What a run leaves behind: the events, the ether that moved, the callbacks that were made and
succeeded, and the chain values that were put on chain. -/
inductive Entry (Bytes32 : Type) where
  | emitted (event : Event Bytes32)
  | paid (sender : Address) (amount : ℕ)
  | forced (amount : ℕ)
  | withdrawn (sender recipient : Address) (amount : ℕ)
  | refunded (provider : Address) (sequenceNumber : ℕ) (recipient : Address) (amount : ℕ)
  | called (provider : Address) (sequenceNumber : ℕ) (recipient : Address) (gas : ℕ)
  | delivered (provider : Address) (sequenceNumber : ℕ)
  | registered (provider : Address) (index : ℕ) (commitment : Bytes32)
  | advanced (provider : Address) (index : ℕ) (value : Bytes32)
  | revealed (provider : Address) (index : ℕ) (value : Bytes32)
  deriving DecidableEq, Repr

/-- The contract on its chain: storage, ether balance, block data, and the history of the run with
the newest entry first. All of it is rolled back when a call reverts. -/
structure World (Bytes32 : Type) where
  state : State Bytes32
  balance : ℕ
  blockNumber : ℕ
  blockhash : ℕ → Bytes32
  history : List (Entry Bytes32)

namespace World

variable {Bytes32 : Type}

def setState (w : World Bytes32) (s : State Bytes32) : World Bytes32 :=
  { w with state := s }

def record (w : World Bytes32) (entry : Entry Bytes32) : World Bytes32 :=
  { w with history := entry :: w.history }

/-- `emit`. -/
def emit (w : World Bytes32) (event : Event Bytes32) : World Bytes32 :=
  w.record (.emitted event)

/-- Ether received with a call. -/
def receive (w : World Bytes32) (amount : ℕ) : World Bytes32 :=
  { w with balance := w.balance + amount }

/-- Ether sent with a message call. -/
def send (w : World Bytes32) (amount : ℕ) : World Bytes32 :=
  { w with balance := w.balance - amount }

section Projections

variable (w : World Bytes32) (s : State Bytes32) (entry : Entry Bytes32) (event : Event Bytes32)
variable (amount : ℕ)

@[simp] theorem setState_state : (w.setState s).state = s := rfl
@[simp] theorem setState_balance : (w.setState s).balance = w.balance := rfl
@[simp] theorem setState_blockNumber : (w.setState s).blockNumber = w.blockNumber := rfl
@[simp] theorem setState_blockhash : (w.setState s).blockhash = w.blockhash := rfl
@[simp] theorem setState_history : (w.setState s).history = w.history := rfl
@[simp] theorem record_state : (w.record entry).state = w.state := rfl
@[simp] theorem record_balance : (w.record entry).balance = w.balance := rfl
@[simp] theorem record_blockNumber : (w.record entry).blockNumber = w.blockNumber := rfl
@[simp] theorem record_blockhash : (w.record entry).blockhash = w.blockhash := rfl
@[simp] theorem record_history : (w.record entry).history = entry :: w.history := rfl
@[simp] theorem emit_state : (w.emit event).state = w.state := rfl
@[simp] theorem emit_balance : (w.emit event).balance = w.balance := rfl
@[simp] theorem emit_blockNumber : (w.emit event).blockNumber = w.blockNumber := rfl
@[simp] theorem emit_blockhash : (w.emit event).blockhash = w.blockhash := rfl
@[simp] theorem emit_history : (w.emit event).history = .emitted event :: w.history := rfl
@[simp] theorem receive_state : (w.receive amount).state = w.state := rfl
@[simp] theorem receive_balance : (w.receive amount).balance = w.balance + amount := rfl
@[simp] theorem receive_blockNumber : (w.receive amount).blockNumber = w.blockNumber := rfl
@[simp] theorem receive_blockhash : (w.receive amount).blockhash = w.blockhash := rfl
@[simp] theorem receive_history : (w.receive amount).history = w.history := rfl
@[simp] theorem send_state : (w.send amount).state = w.state := rfl
@[simp] theorem send_balance : (w.send amount).balance = w.balance - amount := rfl
@[simp] theorem send_blockNumber : (w.send amount).blockNumber = w.blockNumber := rfl
@[simp] theorem send_blockhash : (w.send amount).blockhash = w.blockhash := rfl
@[simp] theorem send_history : (w.send amount).history = w.history := rfl

end Projections

end World

end Dice
