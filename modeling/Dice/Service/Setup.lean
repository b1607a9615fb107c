/-
**`setup_provider` for one chain.**

* `setupChainProvider` — the command, with its transactions decided by the contract and counted.
* `Unused` — what every reachable contract state keeps of a provider's record: no fee, no fee manager,
  and a gas limit within the maximum.
* `Matches` — the registration on chain has numbers left and is one of the configured chain.
* `setup_converges_iff` — the command completes, leaves the chain configured as the configuration says
  and has nothing left to do when it is run again, exactly when the configuration is `Ready`.

The functions that set a provider's fee and fee manager are disabled in the contract, so the command
fails whenever it tries to use them.
-/

import Dice.Contract.Rotations
import Dice.Service.Registration

set_option linter.unusedSectionVars false

namespace Dice

variable {Bytes32 : Type}

/-- The contract as the command sees it, and how many transactions were sent to it. -/
structure Node (Bytes32 : Type) where
  world : World Bytes32
  transactions : ℕ

section Command

variable (K : Keccak Bytes32) (lib : Libraries Bytes32) [DecidableEq Bytes32]
variable (providerAddress : {address : Address // address ≠ 0}) (providerInfo : ProviderInfo Bytes32)

/-- A transaction of the provider. One that would revert fails when its gas is estimated, before it is
sent; none of the functions used makes a call. -/
def sendTransaction (call : Call Bytes32) (node : Node Bytes32) :
    Except CommandError (Node Bytes32) :=
  match start K ⟨providerMsg providerAddress, call⟩ node.world with
  | .done world => .ok ⟨world, node.transactions + 1⟩
  | .reverted error => .error (.contract error)
  | .calling _ _ => .error .panicked

/-- A transaction if the chain differs from the configuration. -/
def syncIf (differs : Prop) [Decidable differs] (call : Call Bytes32) (node : Node Bytes32) :
    Except CommandError (Node Bytes32) :=
  if differs then sendTransaction K providerAddress call node else .ok node

/-- `sync_uri`. -/
def syncUri (uri : Bytes) : Node Bytes32 → Except CommandError (Node Bytes32) :=
  syncIf K providerAddress (providerInfo.uri ≠ uri) (.setProviderUri uri)

/-- `sync_fee`, by `setProviderFee`. -/
def syncFee (providerFee : ℕ) : Node Bytes32 → Except CommandError (Node Bytes32) :=
  syncIf K providerAddress (providerInfo.feeInWei ≠ providerFee) .feeModelDisabled

/-- `sync_fee_manager`, by `setFeeManager`. -/
def syncFeeManager (feeManager : Address) : Node Bytes32 → Except CommandError (Node Bytes32) :=
  syncIf K providerAddress (providerInfo.feeManager ≠ feeManager) .feeModelDisabled

/-- `sync_max_num_hashes`. -/
def syncMaxNumHashes (maxNumHashes : ℕ) : Node Bytes32 → Except CommandError (Node Bytes32) :=
  syncIf K providerAddress (providerInfo.maxNumHashes ≠ maxNumHashes)
    (.setMaxNumHashes maxNumHashes)

/-- `sync_default_gas_limit`. -/
def syncDefaultGasLimit (defaultGasLimit : ℕ) :
    Node Bytes32 → Except CommandError (Node Bytes32) :=
  syncIf K providerAddress (providerInfo.defaultGasLimit ≠ defaultGasLimit)
    (.setDefaultGasLimit defaultGasLimit)

variable (providerConfig : ProviderConfig) (chainId : Text) (chainConfig : EthereumConfig Bytes32)

/-- Whether `setup_chain_provider` registers: there is no registration or no number left in it, or it
is not one of the configured chain. -/
def needsRegistration : Except CommandError Bool :=
  if providerInfo.endSequenceNumber ≤ providerInfo.sequenceNumber then .ok true
  else checkRegistration lib providerConfig chainId chainConfig providerAddress.1 providerInfo

/-- `setup_chain_provider`, up to the second reading of the provider's record. -/
def setupRegistration (random : Bytes32) (node : Node Bytes32) :
    Except CommandError (Bool × Node Bytes32) := do
  let register ← needsRegistration lib providerAddress
    (node.world.state.providers providerAddress.1) providerConfig chainId chainConfig
  if register then
    let world ← registerProviderFromConfig lib providerConfig chainId chainConfig random node.world
    pure (register, ⟨world, node.transactions + 1⟩)
  else pure (register, node)

/-- The rest of `setup_chain_provider`. -/
def syncConfiguration (register : Bool) (node : Node Bytes32) :
    Except CommandError (Node Bytes32) := do
  let providerInfo := node.world.state.providers providerAddress.1
  let node ← (if register = true ∨ chainConfig.syncFeeOnlyOnRegister = false then
      syncFee K providerAddress providerInfo chainConfig.fee node
    else pure node)
  let uri ← getRegisterUri lib providerConfig.uri chainId
  let node ← syncUri K providerAddress providerInfo (lib.utf8 uri) node
  let node ← syncFeeManager K providerAddress providerInfo (providerConfig.feeManager.getD 0) node
  let node ← syncMaxNumHashes K providerAddress providerInfo (chainConfig.maxNumHashes.getD 0) node
  syncDefaultGasLimit K providerAddress providerInfo chainConfig.gasLimit node

/-- `setup_chain_provider`, with the random value that a registration draws. -/
def setupChainProvider (random : Bytes32) (node : Node Bytes32) :
    Except CommandError (Node Bytes32) := do
  let privateKey ← okOr
    (.message "Please specify a provider private key in the config file.".toList)
    (← providerConfig.privateKey.load lib)
  let providerAddress ← okOr .wallet (lib.walletAddress privateKey)
  let (register, node) ← setupRegistration lib providerAddress providerConfig chainId chainConfig
    random node
  syncConfiguration K lib providerAddress providerConfig chainId chainConfig register node

end Command

/-! ### What the contract keeps of unused fields -/

/-- No fee, no fee manager, and a gas limit within the maximum. -/
structure ProviderInfo.Unused (p : ProviderInfo Bytes32) : Prop where
  fee : p.feeInWei = 0
  manager : p.feeManager = 0
  gas : p.defaultGasLimit ≤ maxGasLimit

/-- Of every provider. -/
def Unused (w : World Bytes32) : Prop := ∀ provider, (w.state.providers provider).Unused

section Invariant

variable {K : Keccak Bytes32} [DecidableEq Bytes32] {w w' : World Bytes32} {provider : Address}

theorem Unused.of_same (unused : Unused w) (same : w'.state.providers = w.state.providers) :
    Unused w' := by
  intro provider
  rw [same]
  exact unused provider

theorem Unused.setProvider (unused : Unused w) {info : ProviderInfo Bytes32} (kept : info.Unused)
    (providers : w'.state.providers = (w.state.setProvider provider info).providers) :
    Unused w' := by
  intro other
  rw [providers, State.setProvider_providers]
  split
  · exact kept
  · exact unused other

theorem Unused.accepted (unused : Unused w) (provider : Address) (n : ℕ) (v : Bytes32) :
    Unused (w.accepted provider n v) := by
  have before := unused provider
  refine unused.setProvider ?_ rfl
  unfold ProviderInfo.revealedAt
  split
  · exact ⟨before.fee, before.manager, before.gas⟩
  · exact before

theorem roundTo10kGas_le {gas gas10k : ℕ} (rounded : roundTo10kGas gas = .ok gas10k) :
    gas ≤ maxGasLimit := by
  simp only [roundTo10kGas, bind_ok, revertIf_ok, exists_const] at rounded
  exact Nat.le_of_not_lt rounded.1

theorem Configures.unused {m : Message Bytes32} {p q : ProviderInfo Bytes32} {event : Event Bytes32}
    (configures : Configures m p q event) (before : p.Unused) : q.Unused := by
  cases configures with
  | uri _ => exact ⟨before.fee, before.manager, before.gas⟩
  | maxNumHashes _ => exact ⟨before.fee, before.manager, before.gas⟩
  | defaultGasLimit _ rounded => exact ⟨before.fee, before.manager, roundTo10kGas_le rounded⟩

theorem Unused.rotated (unused : Unused w) (provider : Address) (commitment : Bytes32)
    (commitmentMetadata : Bytes) (chainLength : ℕ) (uri : Bytes) :
    Unused (w.rotated provider commitment commitmentMetadata chainLength uri) := by
  refine unused.setProvider ?_ rfl
  exact ⟨rfl, (unused provider).manager, (unused provider).gas⟩

theorem Finishes.unused {m : Message Bytes32} (unused : Unused w) (finishes : Finishes K m w w') :
    Unused w' := by
  cases finishes with
  | registered _ _ => exact unused.rotated _ _ _ _ _
  | @requested provider _ _ _ _ _ =>
    have before := unused provider
    refine unused.setProvider ?_ rfl
    exact ⟨before.fee, before.manager, before.gas⟩
  | @revealed provider n _ v _ _ _ _ _ => exact (unused.accepted provider n v).of_same rfl
  | @noCallback provider n _ _ _ v _ _ _ _ _ _ => exact (unused.accepted provider n v).of_same rfl
  | refundedNothing _ _ _ => exact unused.of_same rfl
  | @advanced provider _ _ _ _ =>
    have before := unused provider
    refine unused.setProvider ?_ rfl
    exact ⟨before.fee, before.manager, before.gas⟩
  | configured _ configures => exact unused.setProvider (configures.unused (unused _)) rfl
  | administered administers => exact unused.of_same administers.providers
  | forced _ => exact unused.of_same rfl

theorem Calls.unused {m : Message Bytes32} {pending : Pending Bytes32} (unused : Unused w)
    (calls : Calls K m w w' pending) : Unused w' := by
  cases calls with
  | @limited provider n _ _ _ _ v _ _ _ _ _ => exact (unused.accepted provider n v).of_same rfl
  | @unlimited provider n _ _ _ _ v _ _ _ _ _ => exact (unused.accepted provider n v).of_same rfl
  | refund _ _ _ _ _ => exact unused.of_same rfl
  | withdrawal _ _ _ _ => exact unused.of_same rfl
  | foreign _ => exact unused

theorem unused_rely (guard : Message Bytes32 → World Bytes32 → Prop) :
    CallStack.Rely (dice K) guard (Sound K) (Evolves K) (fun w => InStep w ∧ Unused w)
      fun _ _ => True :=
  rely_of_invariant
    (fun sound holds _ half => ⟨holds.1.effect sound (half.chainEffect sound), half.unused holds.2⟩)
    (fun sound holds _ half => ⟨holds.1.effect sound (half.chainEffect sound), half.unused holds.2⟩)
    (fun sound holds half =>
      ⟨holds.1.quiet (half.quiet sound), holds.2.of_same (half.quiet sound).providers⟩)
    (fun holds => ⟨⟨holds.1.paced, holds.1.zero⟩, holds.2⟩)

theorem constructor_unused {d : Deployment Bytes32} (deployed : constructor K d = .ok w) :
    InStep w ∧ Unused w := by
  have empty : Unused (d.world K) := fun _ => ⟨rfl, rfl, Nat.zero_le _⟩
  refine ⟨constructor_inStep deployed, ?_⟩
  rcases constructor_rotated deployed with ⟨_, rfl⟩ | ⟨_, rfl⟩
  · exact empty
  · exact empty.rotated _ _ _ _ _

end Invariant

/-! ### The transactions -/

section Transactions

variable {K : Keccak Bytes32} {lib : Libraries Bytes32} [DecidableEq Bytes32]
variable {providerAddress : {address : Address // address ≠ 0}} {p : ProviderInfo Bytes32}
variable {node node' : Node Bytes32}

/-- The provider's record. -/
def Node.info (node : Node Bytes32) (provider : Address) : ProviderInfo Bytes32 :=
  node.world.state.providers provider

/-- The node after a transaction that rewrote the provider's record. -/
def Node.configured (node : Node Bytes32) (provider : Address) (info : ProviderInfo Bytes32)
    (event : Event Bytes32) : Node Bytes32 :=
  ⟨(node.world.setState (node.world.state.setProvider provider info)).emit event,
    node.transactions + 1⟩

@[simp] theorem Node.configured_info (node : Node Bytes32) (provider : Address)
    (info : ProviderInfo Bytes32) (event : Event Bytes32) :
    (node.configured provider info event).info provider = info :=
  Function.update_self _ _ _

@[simp] theorem Node.configured_transactions (node : Node Bytes32) (provider : Address)
    (info : ProviderInfo Bytes32) (event : Event Bytes32) :
    (node.configured provider info event).transactions = node.transactions + 1 := rfl

/-- A field that the chain has already is left alone. -/
theorem syncIf_same {differs : Prop} [Decidable differs] (same : ¬ differs)
    (call : Call Bytes32) (node : Node Bytes32) :
    syncIf K providerAddress differs call node = .ok node := if_neg same

/-- The disabled functions are never used with success. -/
theorem syncDisabled_iff {differs : Prop} [Decidable differs] :
    syncIf K providerAddress differs .feeModelDisabled node = .ok node' ↔
      ¬ differs ∧ node' = node := by
  unfold syncIf
  split
  · next holds => exact ⟨fun failed => (nomatch failed), fun same => absurd holds same.1⟩
  · next same =>
    exact ⟨fun ok => ⟨same, (Except.ok.inj ok).symm⟩, fun equal => congrArg Except.ok equal.2.symm⟩

theorem syncUri_ok (registered : (node.info providerAddress.1).sequenceNumber ≠ 0)
    (current : p.uri = (node.info providerAddress.1).uri) (uri : Bytes) :
    ∃ node', syncUri K providerAddress p uri node = .ok node' ∧
      node'.info providerAddress.1 = { node.info providerAddress.1 with uri } := by
  unfold syncUri
  by_cases same : p.uri = uri
  · refine ⟨node, syncIf_same (not_not.mpr same) _ _, ?_⟩
    rw [← same, current]
  · refine ⟨_, ?_, node.configured_info providerAddress.1 _ (.providerUriUpdated providerAddress.1
      (node.info providerAddress.1).uri uri)⟩
    have nonzero : ¬ (node.world.state.providers providerAddress.1).sequenceNumber = 0 := registered
    rw [syncIf, if_pos same]
    simp only [sendTransaction, start, providerMsg, ne_eq, not_true_eq_false, false_and, if_false,
      setProviderUri, revertIf, nonzero]
    rfl

theorem syncMaxNumHashes_ok (registered : (node.info providerAddress.1).sequenceNumber ≠ 0)
    (current : p.maxNumHashes = (node.info providerAddress.1).maxNumHashes) (maxNumHashes : ℕ) :
    ∃ node', syncMaxNumHashes K providerAddress p maxNumHashes node = .ok node' ∧
      node'.info providerAddress.1 = { node.info providerAddress.1 with maxNumHashes } := by
  unfold syncMaxNumHashes
  by_cases same : p.maxNumHashes = maxNumHashes
  · refine ⟨node, syncIf_same (not_not.mpr same) _ _, ?_⟩
    rw [← same, current]
  · refine ⟨_, ?_, node.configured_info providerAddress.1 _ (.providerMaxNumHashesAdvanced
      providerAddress.1 (node.info providerAddress.1).maxNumHashes maxNumHashes)⟩
    have nonzero : ¬ (node.world.state.providers providerAddress.1).sequenceNumber = 0 := registered
    rw [syncIf, if_pos same]
    simp only [sendTransaction, start, providerMsg, ne_eq, not_true_eq_false, false_and, if_false,
      setMaxNumHashes, revertIf, nonzero]
    rfl

/-- A gas limit within the maximum is accepted by `roundTo10kGas`. -/
theorem roundTo10kGas_of_le {gas : ℕ} (small : gas ≤ maxGasLimit) :
    ∃ gas10k, roundTo10kGas gas = .ok gas10k := by
  have bound : gas ≤ 65535 * 10000 := small
  have fits : (if gas / tenThousand * tenThousand < gas then gas / tenThousand + 1
      else gas / tenThousand) < 2 ^ 16 := by
    unfold tenThousand
    split <;> omega
  unfold roundTo10kGas revertIf toUint
  rw [if_neg (Nat.not_lt.mpr small)]
  exact ⟨_, if_pos fits⟩

theorem syncDefaultGasLimit_ok (registered : (node.info providerAddress.1).sequenceNumber ≠ 0)
    (current : p.defaultGasLimit = (node.info providerAddress.1).defaultGasLimit)
    {defaultGasLimit : ℕ} (small : defaultGasLimit ≤ maxGasLimit) :
    ∃ node', syncDefaultGasLimit K providerAddress p defaultGasLimit node = .ok node' ∧
      node'.info providerAddress.1 = { node.info providerAddress.1 with defaultGasLimit } := by
  unfold syncDefaultGasLimit
  by_cases same : p.defaultGasLimit = defaultGasLimit
  · refine ⟨node, syncIf_same (not_not.mpr same) _ _, ?_⟩
    rw [← same, current]
  · refine ⟨_, ?_, node.configured_info providerAddress.1 _ (.providerDefaultGasLimitUpdated
      providerAddress.1 (node.info providerAddress.1).defaultGasLimit defaultGasLimit)⟩
    have nonzero : ¬ (node.world.state.providers providerAddress.1).sequenceNumber = 0 := registered
    obtain ⟨gas10k, rounded⟩ := roundTo10kGas_of_le small
    rw [syncIf, if_pos same]
    simp only [sendTransaction, start, providerMsg, ne_eq, not_true_eq_false, false_and, if_false,
      setDefaultGasLimit, revertIf, nonzero, rounded]
    rfl

/-- A gas limit above the maximum is refused. -/
theorem syncDefaultGasLimit_le {defaultGasLimit : ℕ} (before : p.defaultGasLimit ≤ maxGasLimit)
    (ok : syncDefaultGasLimit K providerAddress p defaultGasLimit node = .ok node') :
    defaultGasLimit ≤ maxGasLimit := by
  unfold syncDefaultGasLimit syncIf at ok
  split at ok
  · unfold sendTransaction at ok
    split at ok
    · next world started =>
      have unpaid : ¬ ((providerMsg providerAddress).value ≠ 0 ∧
          (Call.setDefaultGasLimit defaultGasLimit : Call Bytes32).payable = false) :=
        fun paid => paid.1 rfl
      rw [start, if_neg unpaid] at started
      have accepted := atomically_done.mp started
      simp only [setDefaultGasLimit, bind_ok] at accepted
      obtain ⟨_, _, gas10k, rounded, _⟩ := accepted
      exact roundTo10kGas_le rounded
    · cases ok
    · cases ok
  · next same => exact not_not.mp same ▸ before

end Transactions

/-! ### Configurations -/

/-- **A valid configuration of one chain**, with what its secrets and its URI stand for. -/
structure ValidConfig (lib : Libraries Bytes32) where
  providerConfig : ProviderConfig
  chainId : Text
  chainConfig : EthereumConfig Bytes32
  privateKey : Text
  providerAddress : {address : Address // address ≠ 0}
  secret : Text
  uri : Text
  keyLoaded : providerConfig.privateKey.load lib = .ok (some privateKey)
  wallet : lib.walletAddress privateKey = some providerAddress
  secretLoaded : providerConfig.secret.load lib = .ok (some secret)
  secretDecoded : ∃ secretBytes, lib.hexDecode (trim secret) = some secretBytes
  registerUri : getRegisterUri lib providerConfig.uri chainId = .ok uri
  interval : 0 < providerConfig.chainSampleInterval
  length : 2 ≤ providerConfig.chainLength
  allocates : providerConfig.chainLength < 2 ^ 58

namespace ValidConfig

variable {K : Keccak Bytes32} {lib : Libraries Bytes32} [DecidableEq Bytes32]
variable (s : ValidConfig lib) {p : ProviderInfo Bytes32} {node node' : Node Bytes32}
variable {register : Bool} {random : Bytes32}

/-- The command under this configuration. -/
def setup (K : Keccak Bytes32) (random : Bytes32) (node : Node Bytes32) :
    Except CommandError (Node Bytes32) :=
  setupChainProvider K lib s.providerConfig s.chainId s.chainConfig random node

/-- The first value of the chain that a seed leads to. -/
def Derives (seed start : Bytes32) : Prop :=
  generateSecret lib s.secret s.chainId s.providerAddress.1 s.chainConfig.contractAddr seed =
    .ok start

/-- The metadata on chain can be read, if there are numbers left. -/
def Readable (lib : Libraries Bytes32) (p : ProviderInfo Bytes32) : Prop :=
  p.sequenceNumber < p.endSequenceNumber →
    ∃ metadata, lib.deserialize p.commitmentMetadata = some metadata

/-- **The registration on chain is one of the configured chain**, and has numbers left. -/
structure Matches (p : ProviderInfo Bytes32) : Prop where
  left : p.sequenceNumber < p.endSequenceNumber
  chain : ∃ metadata start, lib.deserialize p.commitmentMetadata = some metadata ∧
    metadata.chainLength = s.providerConfig.chainLength ∧ s.Derives metadata.seed start ∧
    (pebbleDigest lib)^[s.providerConfig.chainLength] start = p.originalCommitment

/-- The record with the configured values. -/
def configured (p : ProviderInfo Bytes32) : ProviderInfo Bytes32 :=
  { p with
    uri := lib.utf8 s.uri
    maxNumHashes := s.chainConfig.maxNumHashes.getD 0
    defaultGasLimit := s.chainConfig.gasLimit }

/-- **A chain that is set up**: the configured values, and a registration of the configured chain
and its length that has numbers left. -/
structure SetUp (p : ProviderInfo Bytes32) : Prop where
  uri : p.uri = lib.utf8 s.uri
  maxNumHashes : p.maxNumHashes = s.chainConfig.maxNumHashes.getD 0
  defaultGasLimit : p.defaultGasLimit = s.chainConfig.gasLimit
  matched : s.Matches p
  span : p.endSequenceNumber =
    p.originalCommitmentSequenceNumber + s.providerConfig.chainLength

/-- **The command converges**: it completes, the chain is set up, and a second run completes at once
without a transaction. -/
def Converges (K : Keccak Bytes32) (random : Bytes32) (node : Node Bytes32) : Prop :=
  ∃ node', s.setup K random node = .ok node' ∧ s.SetUp (node'.info s.providerAddress.1) ∧
    ∀ random', s.setup K random' node' = .ok node'

/-- **When the command can converge.** It must not have to use the disabled functions, so the fee and
the fee manager are zero, or the fee is not looked at; the gas limit is one that the contract takes;
the metadata can be read; a new registration fits into 64 bits; and the metadata of a registration
that is kept tells its length. -/
structure Ready (p : ProviderInfo Bytes32) : Prop where
  fee : s.chainConfig.fee = 0 ∨ s.chainConfig.syncFeeOnlyOnRegister = true ∧ s.Matches p
  manager : s.providerConfig.feeManager.getD 0 = 0
  gas : s.chainConfig.gasLimit ≤ maxGasLimit
  readable : Readable lib p
  fits : ¬ s.Matches p → p.sequenceNumber + s.providerConfig.chainLength < 2 ^ 64
  span : s.Matches p → p.endSequenceNumber =
    p.originalCommitmentSequenceNumber + s.providerConfig.chainLength

/-! ### The registration decision -/

theorem derives (seed : Bytes32) : ∃ start, s.Derives seed start := by
  obtain ⟨secretBytes, decoded⟩ := s.secretDecoded
  refine ⟨lib.digest (secretBytes ++ lib.utf8 s.chainId ++ addressBytes s.providerAddress.1 ++
    addressBytes s.chainConfig.contractAddr ++ lib.bytes seed), ?_⟩
  unfold Derives generateSecret
  rw [decoded]
  rfl

theorem checkRegistration_decoded {metadata : CommitmentMetadata Bytes32}
    (decoded : lib.deserialize p.commitmentMetadata = some metadata)
    (left : p.sequenceNumber < p.endSequenceNumber) :
    ∃ again, checkRegistration lib s.providerConfig s.chainId s.chainConfig s.providerAddress.1 p =
      .ok again ∧ (again = false ↔ s.Matches p) := by
  obtain ⟨start, derived⟩ := s.derives metadata.seed
  by_cases length : metadata.chainLength = s.providerConfig.chainLength
  · refine ⟨_, checkRegistration_eq decoded s.secretLoaded length derived s.interval
      (Nat.le_of_succ_le s.length) s.allocates, ?_⟩
    rw [decide_eq_false_iff_not, not_not]
    refine ⟨fun opens => ⟨left, metadata, start, decoded, length, derived, opens⟩, ?_⟩
    rintro ⟨_, _, start', decoded', _, derived', opens⟩
    cases decoded.symm.trans decoded'
    cases derived.symm.trans derived'
    exact opens
  · refine ⟨true, ?_, fun same => (nomatch same), fun matched => absurd matched.chain ?_⟩
    · simp only [checkRegistration, bind_ok, okOr_ok]
      refine ⟨metadata, decoded, some s.secret, s.secretLoaded, s.secret, rfl, ?_⟩
      rw [if_pos length]
      rfl
    · rintro ⟨_, _, decoded', length', _⟩
      cases decoded.symm.trans decoded'
      exact length length'

/-- **Whether the command registers.** -/
theorem needsRegistration_ok_iff :
    needsRegistration lib s.providerAddress p s.providerConfig s.chainId s.chainConfig =
        .ok register ↔
      Readable lib p ∧ (register = false ↔ s.Matches p) := by
  unfold needsRegistration
  by_cases exhausted : p.endSequenceNumber ≤ p.sequenceNumber
  · rw [if_pos exhausted]
    have unmatched : ¬ s.Matches p := fun matched => absurd matched.left (Nat.not_lt.mpr exhausted)
    have readable : Readable lib p := fun left => absurd left (Nat.not_lt.mpr exhausted)
    cases register <;> simp [unmatched, readable]
  · rw [if_neg exhausted]
    have left := Nat.lt_of_not_le exhausted
    cases decoded : lib.deserialize p.commitmentMetadata with
    | none =>
      have unread : ¬ Readable lib p := by
        intro readable
        obtain ⟨metadata, read⟩ := readable left
        cases decoded.symm.trans read
      refine ⟨fun ok => ?_, fun holds => absurd holds.1 unread⟩
      simp only [checkRegistration, bind_ok, okOr_ok] at ok
      obtain ⟨metadata, read, _⟩ := ok
      cases decoded.symm.trans read
    | some metadata =>
      obtain ⟨again, checked, matched⟩ := s.checkRegistration_decoded decoded left
      rw [checked, Except.ok.injEq, ← matched]
      constructor
      · rintro rfl
        exact ⟨fun _ => ⟨metadata, decoded⟩, Iff.rfl⟩
      · rintro ⟨_, same⟩
        cases again <;> cases register <;> simp_all

/-! ### The two halves of the command -/

/-- The record after the registration. -/
def registeredInfo (p : ProviderInfo Bytes32) (random start : Bytes32) : ProviderInfo Bytes32 :=
  p.rotated ((pebbleDigest lib)^[s.providerConfig.chainLength] start)
    (lib.serialize ⟨random, s.providerConfig.chainLength⟩) s.providerConfig.chainLength
    (lib.utf8 s.uri)

theorem setup_ok :
    s.setup K random node = .ok node' ↔ ∃ register middle,
      setupRegistration lib s.providerAddress s.providerConfig s.chainId s.chainConfig random node =
        .ok (register, middle) ∧
      syncConfiguration K lib s.providerAddress s.providerConfig s.chainId s.chainConfig register
        middle = .ok node' := by
  have address : lib.walletAddress s.privateKey = some s.providerAddress := s.wallet
  simp only [setup, setupChainProvider, s.keyLoaded, bind_ok, okOr_ok, Except.ok.injEq,
    exists_eq_left', Option.some.injEq, address, Prod.exists]

/-- A registration is kept. -/
theorem setupRegistration_kept (matched : s.Matches (node.info s.providerAddress.1)) :
    setupRegistration lib s.providerAddress s.providerConfig s.chainId s.chainConfig random node =
      .ok (false, node) := by
  obtain ⟨metadata, start, decoded, _⟩ := matched.chain
  have decided := s.needsRegistration_ok_iff.mpr
    ⟨fun _ => ⟨metadata, decoded⟩, iff_of_true rfl matched⟩
  simp only [setupRegistration, bind_ok]
  exact ⟨false, decided, rfl⟩

/-- A registration is made. -/
theorem setupRegistration_made (readable : Readable lib (node.info s.providerAddress.1))
    (unmatched : ¬ s.Matches (node.info s.providerAddress.1)) {start : Bytes32}
    (derived : s.Derives random start)
    (checks : RegisterChecks node.world (providerMsg s.providerAddress) s.providerAddress.1
      s.providerConfig.chainLength) :
    ∃ middle, setupRegistration lib s.providerAddress s.providerConfig s.chainId s.chainConfig
        random node = .ok (true, middle) ∧
      middle.info s.providerAddress.1 =
        s.registeredInfo (node.info s.providerAddress.1) random start := by
  have decided := s.needsRegistration_ok_iff.mpr
    ⟨readable, iff_of_false (Bool.false_ne_true ∘ Eq.symm) unmatched⟩
  have nonempty := Nat.le_of_succ_le s.length
  have root : (PebbleHashChain.built (pebbleDigest lib) start s.providerConfig.chainLength
      s.providerConfig.chainSampleInterval).revealIth (pebbleDigest lib) 0 =
        .ok ((pebbleDigest lib)^[s.providerConfig.chainLength] start) :=
    (built_root s.interval s.allocates).mpr ⟨nonempty, s.allocates, rfl⟩
  let world := node.world.rotated s.providerAddress.1
    ((pebbleDigest lib)^[s.providerConfig.chainLength] start)
    (lib.serialize ⟨random, s.providerConfig.chainLength⟩) s.providerConfig.chainLength
    (lib.utf8 s.uri)
  refine ⟨⟨world, node.transactions + 1⟩, ?_, rotated_provider _ _ _ _ _ _⟩
  simp only [setupRegistration, bind_ok]
  refine ⟨true, decided, ?_⟩
  rw [if_pos rfl, bind_ok]
  refine ⟨_, ?_, rfl⟩
  simp only [registerProviderFromConfig, fromConfig, bind_ok, okOr_ok, mapError_ok, newChain_ok]
  exact ⟨_, s.keyLoaded, _, rfl, _, s.wallet, _, s.secretLoaded, _, rfl, _,
    ⟨start, derived, s.interval, s.allocates, rfl⟩, _, root, _, s.registerUri,
    registerFor_of_checks checks _ _ _ _⟩

/-- What the first half does when it succeeds. -/
theorem setupRegistration_ok {middle : Node Bytes32}
    (ok : setupRegistration lib s.providerAddress s.providerConfig s.chainId s.chainConfig random
      node = .ok (register, middle)) :
    Readable lib (node.info s.providerAddress.1) ∧
      (register = false ∧ s.Matches (node.info s.providerAddress.1) ∧ middle = node ∨
        register = true ∧ ¬ s.Matches (node.info s.providerAddress.1) ∧
          (node.info s.providerAddress.1).sequenceNumber + s.providerConfig.chainLength < 2 ^ 64 ∧
          ∃ start, middle.info s.providerAddress.1 =
            s.registeredInfo (node.info s.providerAddress.1) random start) := by
  simp only [setupRegistration, bind_ok] at ok
  obtain ⟨again, decided, ok⟩ := ok
  obtain ⟨readable, kept⟩ := s.needsRegistration_ok_iff.mp decided
  refine ⟨readable, ?_⟩
  cases again with
  | false =>
    obtain ⟨rfl, rfl⟩ := Prod.ext_iff.mp (pure_ok.mp ok)
    exact .inl ⟨rfl, kept.mp rfl, rfl⟩
  | true =>
    rw [if_pos rfl, bind_ok] at ok
    obtain ⟨world, registered, ok⟩ := ok
    obtain ⟨rfl, rfl⟩ := Prod.ext_iff.mp (pure_ok.mp ok)
    obtain ⟨_, _, _, start, _, _, keyLoaded, wallet, _, _, _, opened, registerUri, checks, rfl⟩ :=
      registerProviderFromConfig_ok registered
    obtain rfl := opened.opens
    cases keyLoaded.symm.trans s.keyLoaded
    cases wallet.symm.trans s.wallet
    cases registerUri.symm.trans s.registerUri
    have unmatched : ¬ s.Matches (node.info s.providerAddress.1) :=
      fun matched => Bool.false_ne_true (kept.mpr matched).symm
    exact .inr ⟨rfl, unmatched, checks.fits, start, rotated_provider _ _ _ _ _ _⟩

/-- What the second half needs. -/
theorem syncConfiguration_ok :
    syncConfiguration K lib s.providerAddress s.providerConfig s.chainId s.chainConfig register
        node = .ok node' ↔
      (register = true ∨ s.chainConfig.syncFeeOnlyOnRegister = false →
        (node.info s.providerAddress.1).feeInWei = s.chainConfig.fee) ∧
      (node.info s.providerAddress.1).feeManager = s.providerConfig.feeManager.getD 0 ∧
      ∃ first second,
        syncUri K s.providerAddress (node.info s.providerAddress.1) (lib.utf8 s.uri) node =
          .ok first ∧
        syncMaxNumHashes K s.providerAddress (node.info s.providerAddress.1)
          (s.chainConfig.maxNumHashes.getD 0) first = .ok second ∧
        syncDefaultGasLimit K s.providerAddress (node.info s.providerAddress.1)
          s.chainConfig.gasLimit second = .ok node' := by
  have uri : getRegisterUri lib s.providerConfig.uri s.chainId = .ok s.uri := s.registerUri
  have fee : ∀ first, (if register = true ∨ s.chainConfig.syncFeeOnlyOnRegister = false then
      syncFee K s.providerAddress (node.info s.providerAddress.1) s.chainConfig.fee node
      else pure node) = .ok first ↔
      (register = true ∨ s.chainConfig.syncFeeOnlyOnRegister = false →
        (node.info s.providerAddress.1).feeInWei = s.chainConfig.fee) ∧ first = node := by
    intro first
    split
    · next used =>
      rw [syncFee, syncDisabled_iff, not_not]
      exact and_congr_left fun _ => ⟨fun same _ => same, fun same => same used⟩
    · next unused =>
      rw [pure_ok]
      exact ⟨fun same => ⟨fun used => absurd used unused, same.symm⟩, fun same => same.2.symm⟩
  unfold syncConfiguration
  simp only [bind_ok, uri, Except.ok.injEq, exists_eq_left', syncFeeManager, syncDisabled_iff, not_not]
  constructor
  · rintro ⟨_, paid, second, synced, _, ⟨manager, rfl⟩, third, max, gas⟩
    obtain ⟨same, rfl⟩ := (fee _).mp paid
    exact ⟨same, manager, _, _, synced, max, gas⟩
  · rintro ⟨same, manager, first, second, synced, max, gas⟩
    exact ⟨node, (fee node).mpr ⟨same, rfl⟩, first, synced, first, ⟨manager, rfl⟩, second, max, gas⟩

/-- **The second half leaves the configured values.** -/
theorem syncConfiguration_configured
    (registered : (node.info s.providerAddress.1).sequenceNumber ≠ 0)
    (fee : register = true ∨ s.chainConfig.syncFeeOnlyOnRegister = false →
      (node.info s.providerAddress.1).feeInWei = s.chainConfig.fee)
    (manager : (node.info s.providerAddress.1).feeManager = s.providerConfig.feeManager.getD 0)
    (gas : s.chainConfig.gasLimit ≤ maxGasLimit) :
    ∃ node', syncConfiguration K lib s.providerAddress s.providerConfig s.chainId s.chainConfig
        register node = .ok node' ∧
      node'.info s.providerAddress.1 = s.configured (node.info s.providerAddress.1) := by
  obtain ⟨first, uriSynced, firstInfo⟩ := syncUri_ok (K := K) registered rfl (lib.utf8 s.uri)
  have registered' : (first.info s.providerAddress.1).sequenceNumber ≠ 0 := by
    rw [firstInfo]
    exact registered
  have max : (node.info s.providerAddress.1).maxNumHashes =
      (first.info s.providerAddress.1).maxNumHashes := by rw [firstInfo]
  obtain ⟨second, maxSynced, secondInfo⟩ := syncMaxNumHashes_ok (K := K) registered' max
    (s.chainConfig.maxNumHashes.getD 0)
  have registered'' : (second.info s.providerAddress.1).sequenceNumber ≠ 0 := by
    rw [secondInfo]
    exact registered'
  have limit : (node.info s.providerAddress.1).defaultGasLimit =
      (second.info s.providerAddress.1).defaultGasLimit := by rw [secondInfo, firstInfo]
  obtain ⟨node', gasSynced, info⟩ := syncDefaultGasLimit_ok (K := K) registered'' limit gas
  refine ⟨node', s.syncConfiguration_ok.mpr ⟨fee, manager, first, second, uriSynced, maxSynced,
    gasSynced⟩, ?_⟩
  rw [info, secondInfo, firstInfo]
  rfl

/-! ### Convergence -/

/-- The new registration is one of the configured chain. -/
theorem matches_registeredInfo {start : Bytes32} (derived : s.Derives random start)
    (fits : p.sequenceNumber + s.providerConfig.chainLength < 2 ^ 64) :
    s.Matches (s.registeredInfo p random start) where
  left := by
    have length := s.length
    show p.sequenceNumber + 1 < p.sequenceNumber + s.providerConfig.chainLength
    omega
  chain := by
    have small : s.providerConfig.chainLength < 2 ^ 64 := by omega
    exact ⟨_, start, lib.deserialize_serialize ⟨random, s.providerConfig.chainLength⟩ small, rfl,
      derived, rfl⟩

/-- From the first half on, the command converges. -/
theorem converges_of_registration {middle : Node Bytes32}
    (first : setupRegistration lib s.providerAddress s.providerConfig s.chainId s.chainConfig random
      node = .ok (register, middle))
    (matched : s.Matches (middle.info s.providerAddress.1))
    (registered : (middle.info s.providerAddress.1).sequenceNumber ≠ 0)
    (span : (middle.info s.providerAddress.1).endSequenceNumber =
      (middle.info s.providerAddress.1).originalCommitmentSequenceNumber +
        s.providerConfig.chainLength)
    (fee : register = true ∨ s.chainConfig.syncFeeOnlyOnRegister = false →
      (middle.info s.providerAddress.1).feeInWei = s.chainConfig.fee)
    (manager : (middle.info s.providerAddress.1).feeManager = s.providerConfig.feeManager.getD 0)
    (gas : s.chainConfig.gasLimit ≤ maxGasLimit) : s.Converges K random node := by
  obtain ⟨node', second, info⟩ := s.syncConfiguration_configured (K := K) registered fee manager gas
  have matched' : s.Matches (node'.info s.providerAddress.1) := by
    rw [info]
    exact ⟨matched.left, matched.chain⟩
  have setUp : s.SetUp (node'.info s.providerAddress.1) := by
    refine ⟨?_, ?_, ?_, matched', ?_⟩ <;> rw [info]
    · rfl
    · rfl
    · rfl
    · exact span
  refine ⟨node', s.setup_ok.mpr ⟨register, middle, first, second⟩, setUp, fun random' => ?_⟩
  -- the second run registers nothing, and finds every value as it wants it
  refine s.setup_ok.mpr ⟨false, node', s.setupRegistration_kept matched', ?_⟩
  refine s.syncConfiguration_ok.mpr ⟨fun used => ?_, ?_, node', node',
    syncIf_same (not_not.mpr setUp.uri) _ _, syncIf_same (not_not.mpr setUp.maxNumHashes) _ _,
    syncIf_same (not_not.mpr setUp.defaultGasLimit) _ _⟩
  · rw [info]
    exact fee (.inr (used.resolve_left Bool.false_ne_true))
  · rw [info]
    exact manager

/-- **When `setup-provider` converges.** For every valid configuration whose provider is the admin,
and every reachable contract state in which the provider's commitment is at its last assigned number
or the provider is not registered: the command completes, leaves the chain set up, and has nothing
left to do when it is run again, exactly when the configuration is ready. -/
theorem setup_converges_iff {c : Config Bytes32} (reach : Reachable K anyCall c)
    (admin : c.world.state.admin = s.providerAddress.1)
    (settled : (c.world.state.providers s.providerAddress.1).sequenceNumber ≠ 0 →
      (c.world.state.providers s.providerAddress.1).currentCommitmentSequenceNumber =
        (c.world.state.providers s.providerAddress.1).sequenceNumber - 1)
    (random : Bytes32) (transactions : ℕ) :
    s.Converges K random ⟨c.world, transactions⟩ ↔
      s.Ready (c.world.state.providers s.providerAddress.1) := by
  obtain ⟨inStep, unused⟩ := (reach.holds (unused_rely anyCall) constructor_unused).1.2
  have paced := inStep.paced s.providerAddress.1
  have unused := unused s.providerAddress.1
  have registered : s.Matches (c.world.state.providers s.providerAddress.1) →
      (c.world.state.providers s.providerAddress.1).sequenceNumber ≠ 0 := by
    intro matched zero
    have left := matched.left
    rw [paced.unregistered zero] at left
    exact absurd left (Nat.not_lt_zero _)
  constructor
  · rintro ⟨node', ok, setUp, _⟩
    obtain ⟨register, middle, first, second⟩ := s.setup_ok.mp ok
    obtain ⟨fee, manager, _, _, _, _, gasSynced⟩ := s.syncConfiguration_ok.mp second
    obtain ⟨readable, ⟨rfl, matched, rfl⟩ | ⟨rfl, unmatched, fits, start, info⟩⟩ :=
      s.setupRegistration_ok first
    · have gas := syncDefaultGasLimit_le unused.gas gasSynced
      have known : ((Node.mk c.world transactions).info s.providerAddress.1).sequenceNumber ≠ 0 :=
        registered matched
      obtain ⟨_, second', info⟩ := s.syncConfiguration_configured (K := K) known fee manager gas
      cases second.symm.trans second'
      have span := setUp.span
      rw [info] at span
      refine ⟨?_, manager.symm.trans unused.manager, gas, readable,
        fun unmatched => absurd matched unmatched, fun _ => span⟩
      cases only : s.chainConfig.syncFeeOnlyOnRegister with
      | true => exact .inr ⟨rfl, matched⟩
      | false => exact .inl ((fee (.inr only)).symm.trans unused.fee)
    · have fee := fee (.inl rfl)
      rw [info] at fee manager
      have gas : s.chainConfig.gasLimit ≤ maxGasLimit := by
        refine syncDefaultGasLimit_le ?_ gasSynced
        rw [info]
        exact unused.gas
      exact ⟨.inl fee.symm, manager.symm.trans unused.manager, gas, readable, fun _ => fits,
        fun matched => absurd matched unmatched⟩
  · intro ready
    by_cases matched : s.Matches (c.world.state.providers s.providerAddress.1)
    · refine s.converges_of_registration (s.setupRegistration_kept matched) matched
        (registered matched) (ready.span matched) (fun used => ?_)
        (unused.manager.trans ready.manager.symm) ready.gas
      rcases ready.fee with free | ⟨only, _⟩
      · exact unused.fee.trans free.symm
      · rw [only] at used
        exact absurd used (by decide)
    · obtain ⟨start, derived⟩ := s.derives random
      have fits := ready.fits matched
      have length := s.length
      have checks : RegisterChecks (Node.mk c.world transactions).world
          (providerMsg s.providerAddress) s.providerAddress.1 s.providerConfig.chainLength :=
        ⟨admin.symm, by omega, s.providerAddress.2, fun old => (settled old).ge, fits⟩
      have readable : Readable lib ((Node.mk c.world transactions).info s.providerAddress.1) :=
        ready.readable
      obtain ⟨middle, first, info⟩ := s.setupRegistration_made readable matched derived checks
      have free : s.chainConfig.fee = 0 := ready.fee.resolve_right fun kept => matched kept.2
      refine s.converges_of_registration first ?_ ?_ ?_ ?_ ?_ ready.gas
      · rw [info]
        exact s.matches_registeredInfo derived fits
      · rw [info]
        exact Nat.succ_ne_zero _
      · rw [info]
        rfl
      · rw [info]
        exact fun _ => free.symm
      · rw [info]
        exact unused.manager.trans ready.manager.symm

end ValidConfig

namespace Plain

/-- The configuration of the concrete registration. -/
def validConfig : ValidConfig libraries where
  providerConfig
  chainId
  chainConfig
  privateKey := "0000000000000000000000000000000000000000000000000000000000000001".toList
  providerAddress := address
  secret
  uri := "http://localhost:8080/v1/chains/local".toList
  keyLoaded := rfl
  wallet := rfl
  secretLoaded := rfl
  secretDecoded := Option.isSome_iff_exists.mp (by decide +kernel)
  registerUri := by decide +kernel
  interval := by decide
  length := by decide
  allocates := by decide

/-- The same, with the fee of the sample configuration. -/
def paidConfig : ValidConfig libraries :=
  { validConfig with chainConfig := { chainConfig with fee := 1500000000000000 } }

theorem reachable_deployed : Reachable keccak anyCall ⟨deployment.world keccak, []⟩ :=
  ⟨deployment, _, deployed, .refl⟩

end Plain

/-- Nobody is registered on a fresh deployment, and the configuration asks for no fee. -/
theorem Plain.ready : Plain.validConfig.Ready
    ((Plain.deployment.world Plain.keccak).state.providers Plain.address.1) where
  fee := .inl rfl
  manager := rfl
  gas := by decide
  readable left := absurd left (Nat.lt_irrefl 0)
  fits _ := by decide
  span matched := absurd matched.left (Nat.lt_irrefl 0)

theorem ValidConfig.setup_converges_iff_plain :
    Plain.validConfig.Converges Plain.keccak Plain.random ⟨Plain.deployment.world Plain.keccak, 0⟩ :=
  (Plain.validConfig.setup_converges_iff Plain.reachable_deployed rfl (fun registered =>
    absurd rfl registered) Plain.random 0).mpr Plain.ready

/-- **The command fails for a fee.** With the fee of the sample configuration, on a fresh deployment
by the provider, the command registers and then fails. -/
theorem ValidConfig.setup_not_converging :
    Reachable Plain.keccak anyCall ⟨Plain.deployment.world Plain.keccak, []⟩ ∧
    (Plain.deployment.world Plain.keccak).state.admin = Plain.paidConfig.providerAddress.1 ∧
    ((Plain.deployment.world Plain.keccak).state.providers
      Plain.paidConfig.providerAddress.1).sequenceNumber = 0 ∧
    (∀ key, (Plain.deployment.world Plain.keccak).state.lookup Plain.keccak key = none) ∧
    ¬ Plain.paidConfig.Converges Plain.keccak Plain.random
      ⟨Plain.deployment.world Plain.keccak, 0⟩ := by
  refine ⟨Plain.reachable_deployed, rfl, rfl, Plain.deployment.lookup_none, ?_⟩
  rintro ⟨node', ok, _⟩
  have failed : (Plain.paidConfig.setup Plain.keccak Plain.random
      ⟨Plain.deployment.world Plain.keccak, 0⟩).isOk = false := by decide +kernel
  rw [ok] at failed
  cases failed

end Dice
