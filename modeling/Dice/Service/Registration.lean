/-
**Registering a provider, and rebuilding its chain.**

Three commands make a hash chain: `register_provider` from the configured secret and a random value,
`setup_provider` from the secret and the seed that stands in the on-chain metadata, and `run` from
that seed alone.

* `registerProviderFromConfig`, `checkRegistration`, `setupChainState` — the three commands, up to
  their RPC calls, which are taken to succeed.
* `checkRegistration_iff`, `setupChainState_iff` — which records `setup_provider` and `run` accept:
  those whose root comes from the derived secret, and those whose root comes from the seed itself.
* `rebuilt_iff` — `run` rebuilds a registered chain exactly when the random value is its own derived
  secret; and the records on which the two commands agree.

`hex`, `bincode`, the wallet, the URL parser and the file system are parameters (`Libraries`), with
what the commands rely on as laws. Texts are lists of characters.
-/

import Mathlib.Data.List.Sort
import Dice.Library.U64
import Dice.Contract.Symbolic
import Dice.Service.HashChains

set_option linter.unusedSectionVars false

namespace Dice

/-- `str` and `String`. -/
abbrev Text := List Char

/-! ### Configuration -/

/-- `CommitmentMetadata`. -/
structure CommitmentMetadata (Bytes32 : Type) where
  seed : Bytes32
  chainLength : ℕ
  deriving DecidableEq, Repr

/-- `Commitment`. -/
structure Commitment (Bytes32 : Type) where
  seed : Bytes32
  chainLength : ℕ
  originalCommitmentSequenceNumber : ℕ
  deriving DecidableEq, Repr

/-- The order in which `setup_chain_state` sorts commitments. -/
def Commitment.Le {Bytes32 : Type} (c1 c2 : Commitment Bytes32) : Prop :=
  c1.originalCommitmentSequenceNumber ≤ c2.originalCommitmentSequenceNumber

instance {Bytes32 : Type} : DecidableRel (@Commitment.Le Bytes32) :=
  fun c1 c2 => inferInstanceAs (Decidable
    (c1.originalCommitmentSequenceNumber ≤ c2.originalCommitmentSequenceNumber))

instance {Bytes32 : Type} : Std.Total (@Commitment.Le Bytes32) :=
  ⟨fun _ _ => Nat.le_total _ _⟩

instance {Bytes32 : Type} : IsTrans (Commitment Bytes32) Commitment.Le :=
  ⟨fun _ _ _ first second => Nat.le_trans first second⟩

/-- `SecretString`. -/
structure SecretString where
  value : Option Text
  file : Option Text
  deriving DecidableEq, Repr

/-- `ProviderConfig`. -/
structure ProviderConfig where
  uri : Text
  privateKey : SecretString
  secret : SecretString
  chainLength : ℕ
  chainSampleInterval : ℕ
  feeManager : Option Address
  deriving DecidableEq, Repr

/-- `EthereumConfig`, as far as the commands read it. -/
structure EthereumConfig (Bytes32 : Type) where
  contractAddr : Address
  fee : ℕ
  syncFeeOnlyOnRegister : Bool
  commitments : Option (List (Commitment Bytes32))
  gasLimit : ℕ
  maxNumHashes : Option ℕ
  deriving DecidableEq, Repr

/-- Why a command fails: an `anyhow` message, an error of a library or of the chains, a call that the
contract refuses, or an index out of bounds. -/
inductive CommandError where
  | message (text : Text)
  | file
  | wallet
  | hex
  | url
  | decode (context : Text)
  | chain (error : ChainError)
  | contract (error : Revert)
  | panicked
  deriving DecidableEq, Repr

/-- **What is not in the repository**: Keccak-256 on bytes, the bytes of a 32-byte array and back,
`hex::decode`, `bincode`, the address of a private key, `Url::parse` with `join`, and files. The
hash is taken injective on the bytes of such an array. -/
structure Libraries (Bytes32 : Type) where
  digest : Bytes → Bytes32
  bytes : Bytes32 → Bytes
  digest_injective : Function.Injective fun value => digest (bytes value)
  fromSlice : Bytes → Bytes32
  hexDecode : Text → Option Bytes
  serialize : CommitmentMetadata Bytes32 → Bytes
  deserialize : Bytes → Option (CommitmentMetadata Bytes32)
  deserialize_serialize : ∀ metadata, metadata.chainLength < 2 ^ 64 →
    deserialize (serialize metadata) = some metadata
  deserialize_nil : deserialize [] = none
  walletAddress : Text → Option {address : Address // address ≠ 0}
  joinUrl : Text → Text → Option Text
  utf8 : Text → Bytes
  readFile : Text → Option Text

/-! ### Texts -/

/-- `char::is_whitespace`: the Unicode property `White_Space`. -/
def isWhitespace (c : Char) : Bool :=
  (9 ≤ c.toNat && c.toNat ≤ 13) || c.toNat = 0x20 || c.toNat = 0x85 || c.toNat = 0xA0 ||
    c.toNat = 0x1680 || (0x2000 ≤ c.toNat && c.toNat ≤ 0x200A) || c.toNat = 0x2028 ||
    c.toNat = 0x2029 || c.toNat = 0x202F || c.toNat = 0x205F || c.toNat = 0x3000

/-- `str::trim`. -/
def trim (text : Text) : Text :=
  ((text.dropWhile isWhitespace).reverse.dropWhile isWhitespace).reverse

/-- `trim_start_matches("0x")`. -/
def trimStart0x : Text → Text
  | '0' :: 'x' :: rest => trimStart0x rest
  | text => text

/-- The 20 bytes of an address. -/
def addressBytes (address : Address) : Bytes :=
  (List.range 20).map fun i => UInt8.ofNat (address.toNat / 256 ^ (19 - i))

/-- `ok_or`. -/
def okOr {α : Type} (error : CommandError) : Option α → Except CommandError α
  | some value => .ok value
  | none => .error error

section Commands

variable {Bytes32 : Type} (lib : Libraries Bytes32)

/-- `SecretString::load`. -/
def SecretString.load (secret : SecretString) : Except CommandError (Option Text) :=
  match secret.value with
  | some value => .ok (some value)
  | none =>
      match secret.file with
      | some file => (okOr .file (lib.readFile file)).map fun text => some (trim text)
      | none => .ok none

/-- `get_register_uri`. -/
def getRegisterUri (baseUri chainId : Text) : Except CommandError Text :=
  okOr .url (lib.joinUrl baseUri ("/v1/chains/".toList ++ chainId))

/-! ### Making chains -/

/-- `Keccak256::digest` of 32 bytes, with which chains are made. -/
def pebbleDigest (value : Bytes32) : Bytes32 := lib.digest (lib.bytes value)

/-- `PebbleHashChain::generate_secret`. -/
def generateSecret (secret chainId : Text) (providerAddress contractAddress : Address)
    (random : Bytes32) : Except CommandError Bytes32 := do
  let secretBytes ← okOr .hex (lib.hexDecode (trim secret))
  let input := secretBytes ++ lib.utf8 chainId ++ addressBytes providerAddress ++
    addressBytes contractAddress ++ lib.bytes random
  pure (lib.digest input)

/-- `PebbleHashChain::new`, with its error as one of a command. -/
def newChain (secret : Bytes32) (chainLength sampleInterval : ℕ) :
    Except CommandError (PebbleHashChain Bytes32) :=
  (PebbleHashChain.new (pebbleDigest lib) secret chainLength sampleInterval).mapError .chain

/-- `PebbleHashChain::from_config` and `from_config_async`. -/
def fromConfig (secret chainId : Text) (providerAddress contractAddress : Address)
    (random : Bytes32) (chainLength sampleInterval : ℕ) :
    Except CommandError (PebbleHashChain Bytes32) := do
  let secret ← generateSecret lib secret chainId providerAddress contractAddress random
  newChain lib secret chainLength sampleInterval

/-- `PebbleHashChain::from_seed_async`. -/
def fromSeed (seed : Bytes32) (chainLength sampleInterval : ℕ) :
    Except CommandError (PebbleHashChain Bytes32) :=
  newChain lib seed chainLength sampleInterval

/-- `HashChainState::reveal`, with its error as one of a command. -/
def revealNumber (state : HashChainState Bytes32) (sequenceNumber : ℕ) :
    Except CommandError Bytes32 :=
  (state.reveal (pebbleDigest lib) sequenceNumber).mapError .chain

/-! ### The commands -/

/-- A message of the provider, without value. -/
def providerMsg (address : {address : Address // address ≠ 0}) : Msg :=
  ⟨address.1, 0, address.2⟩

/-- `register_provider_from_config`, with the random value it draws. -/
def registerProviderFromConfig (providerConfig : ProviderConfig) (chainId : Text)
    (chainConfig : EthereumConfig Bytes32) (random : Bytes32) (w : World Bytes32) :
    Except CommandError (World Bytes32) := do
  let privateKey ← okOr (.message "Please specify a provider private key in the config".toList)
    (← providerConfig.privateKey.load lib)
  let providerAddress ← okOr .wallet (lib.walletAddress privateKey)
  let secret ← okOr (.message "Please specify a provider secret in the config".toList)
    (← providerConfig.secret.load lib)
  let chain ← fromConfig lib secret chainId providerAddress.1 chainConfig.contractAddr random
    providerConfig.chainLength providerConfig.chainSampleInterval
  let commitment ← (chain.revealIth (pebbleDigest lib) 0).mapError .chain
  let commitmentMetadata : CommitmentMetadata Bytes32 :=
    { seed := random, chainLength := providerConfig.chainLength }
  let uri ← getRegisterUri lib providerConfig.uri chainId
  (registerFor w (providerMsg providerAddress) providerAddress.1 chainConfig.fee commitment
    (lib.serialize commitmentMetadata) providerConfig.chainLength (lib.utf8 uri)).mapError .contract

variable [DecidableEq Bytes32]

/-- The context of an error of `bincode::deserialize`. -/
def metadataError (chainId : Text) : CommandError :=
  .decode ("Chain: ".toList ++ chainId ++ " - Failed to deserialize commitment metadata".toList)

/-- The check of `setup_chain_provider` on a registration that has numbers left: whether to register
again. -/
def checkRegistration (providerConfig : ProviderConfig) (chainId : Text)
    (chainConfig : EthereumConfig Bytes32) (providerAddress : Address)
    (providerInfo : ProviderInfo Bytes32) : Except CommandError Bool := do
  let metadata ← okOr (metadataError chainId) (lib.deserialize providerInfo.commitmentMetadata)
  let secret ← okOr (.message "Please specify a provider secret in the config file.".toList)
    (← providerConfig.secret.load lib)
  if metadata.chainLength ≠ providerConfig.chainLength then pure true
  else
    let hashChain ← fromConfig lib secret chainId providerAddress chainConfig.contractAddr
      metadata.seed providerConfig.chainLength providerConfig.chainSampleInterval
    let chainState ← (HashChainState.new [providerInfo.originalCommitmentSequenceNumber]
      [hashChain]).mapError .chain
    let root ← revealNumber lib chainState providerInfo.originalCommitmentSequenceNumber
    pure (decide (root ≠ providerInfo.originalCommitment))

/-- The metadata that `setup_chain_state` goes by. -/
def latestMetadata (secret chainId : Text) (providerInfo : ProviderInfo Bytes32) :
    Except CommandError (CommitmentMetadata Bytes32) :=
  if providerInfo.commitmentMetadata = [] then do
    let seedBytes ← okOr (.decode "Failed to decode provider secret".toList)
      (lib.hexDecode (trimStart0x secret))
    if seedBytes.length < 32 then .error .panicked
    else
      let chainLength := U64.sub providerInfo.endSequenceNumber
        providerInfo.originalCommitmentSequenceNumber
      pure { seed := lib.fromSlice (seedBytes.take 32), chainLength }
  else okOr (metadataError chainId) (lib.deserialize providerInfo.commitmentMetadata)

/-- `setup_chain_state`, up to the chains it returns. -/
def setupChainState (providerInfo : ProviderInfo Bytes32) (secret : Text)
    (chainSampleInterval : ℕ) (chainId : Text) (chainConfig : EthereumConfig Bytes32) :
    Except CommandError (HashChainState Bytes32) := do
  -- `sort_by` is stable, as insertion sort is
  let providerCommitments := (chainConfig.commitments.getD []).insertionSort Commitment.Le
  let metadata ← latestMetadata lib secret chainId providerInfo
  if (providerCommitments.getLast?.any fun last => decide
      (last.originalCommitmentSequenceNumber ≥ providerInfo.originalCommitmentSequenceNumber)) then
    .error (.message ("The current hash chain for chain id ".toList ++ chainId ++
      " has configured commitments for sequence numbers greater than the current ".toList ++
      "on-chain sequence number. Are the commitments configured correctly?".toList))
  else
    let providerCommitments := providerCommitments ++
      [{ seed := metadata.seed
         chainLength := metadata.chainLength
         originalCommitmentSequenceNumber := providerInfo.originalCommitmentSequenceNumber }]
    let offsets := providerCommitments.map Commitment.originalCommitmentSequenceNumber
    let hashChains ← providerCommitments.mapM fun commitment =>
      fromSeed lib commitment.seed commitment.chainLength chainSampleInterval
    let chainState ← (HashChainState.new offsets hashChains).mapError .chain
    let root ← revealNumber lib chainState providerInfo.originalCommitmentSequenceNumber
    if root ≠ providerInfo.originalCommitment then
      .error (.message ("The root of the generated hash chain for chain id ".toList ++ chainId ++
        " does not match the commitment. ".toList ++
        "Are the secret and chain length configured correctly?".toList))
    else pure chainState

/-! ### What the commands do when they succeed -/

section Inversion

variable {lib} {secret chainId : Text}

theorem okOr_ok {α : Type} {error : CommandError} {found : Option α} {a : α} :
    okOr error found = .ok a ↔ found = some a := by
  cases found <;> simp [okOr]

theorem mapError_ok {α ε ε' : Type} {x : Except ε α} {f : ε → ε'} {a : α} :
    x.mapError f = .ok a ↔ x = .ok a := by
  cases x <;> simp [Except.mapError]

theorem newChain_ok {seed : Bytes32} {chainLength sampleInterval : ℕ}
    {chain : PebbleHashChain Bytes32} :
    newChain lib seed chainLength sampleInterval = .ok chain ↔
      0 < sampleInterval ∧ chainLength < 2 ^ 58 ∧
        chain = .built (pebbleDigest lib) seed chainLength sampleInterval := by
  unfold newChain
  rw [mapError_ok, PebbleHashChain.new_ok]

/-- **A chain of that length, from that seed, can be made and has that root.** -/
structure OpensTo (lib : Libraries Bytes32) (seed : Bytes32) (chainLength : ℕ) (root : Bytes32) :
    Prop where
  nonempty : 1 ≤ chainLength
  fits : chainLength < 2 ^ 58
  opens : (pebbleDigest lib)^[chainLength] seed = root

/-- The root of a chain, if it has one. -/
theorem built_root {seed commitment : Bytes32} {chainLength sampleInterval : ℕ}
    (positive : 0 < sampleInterval) (fits : chainLength < 2 ^ 58) :
    (PebbleHashChain.built (pebbleDigest lib) seed chainLength sampleInterval).revealIth
        (pebbleDigest lib) 0 = .ok commitment ↔ OpensTo lib seed chainLength commitment := by
  by_cases nonempty : 1 ≤ chainLength
  · have made : (PebbleHashChain.built (pebbleDigest lib) seed chainLength sampleInterval).Made
        (pebbleDigest lib) seed := ⟨nonempty, PebbleHashChain.new_ok.mpr ⟨positive, fits, rfl⟩⟩
    rw [made.revealIth nonempty]
    exact ⟨fun same => ⟨nonempty, fits, Except.ok.inj same⟩, fun same => congrArg Except.ok same.opens⟩
  · have empty : chainLength = 0 := by omega
    subst empty
    exact ⟨fun failed => (nomatch failed), fun same => absurd same.nonempty nonempty⟩

/-- **What `register_provider` puts on chain.** -/
theorem registerProviderFromConfig_ok {providerConfig : ProviderConfig}
    {chainConfig : EthereumConfig Bytes32} {random : Bytes32} {w w' : World Bytes32}
    (ok : registerProviderFromConfig lib providerConfig chainId chainConfig random w = .ok w') :
    ∃ privateKey providerAddress secret start uri commitment,
      providerConfig.privateKey.load lib = .ok (some privateKey) ∧
      lib.walletAddress privateKey = some providerAddress ∧
      providerConfig.secret.load lib = .ok (some secret) ∧
      generateSecret lib secret chainId providerAddress.1 chainConfig.contractAddr random =
        .ok start ∧
      0 < providerConfig.chainSampleInterval ∧
      OpensTo lib start providerConfig.chainLength commitment ∧
      getRegisterUri lib providerConfig.uri chainId = .ok uri ∧
      RegisterChecks w (providerMsg providerAddress) providerAddress.1
        providerConfig.chainLength ∧
      w' = w.rotated providerAddress.1 commitment
        (lib.serialize ⟨random, providerConfig.chainLength⟩) providerConfig.chainLength
        (lib.utf8 uri) := by
  simp only [registerProviderFromConfig, fromConfig, bind_ok, okOr_ok, mapError_ok, newChain_ok]
    at ok
  obtain ⟨_, loaded, privateKey, rfl, providerAddress, wallet, _, secretLoaded, secret, rfl, chain,
    ⟨start, generated, positive, fits, rfl⟩, commitment, root, uri, register, registered⟩ := ok
  obtain ⟨checks, rfl⟩ := registerFor_ok registered
  exact ⟨privateKey, providerAddress, secret, start, uri, commitment, loaded, wallet, secretLoaded,
    generated, positive, (built_root positive fits).mp root, register, checks, rfl⟩

/-- The last of the sorted commitments decides. -/
theorem last_before_iff {sorted : List (Commitment Bytes32)} {n : ℕ}
    (pairwise : sorted.Pairwise Commitment.Le) :
    (sorted.getLast?.any fun last => decide (last.originalCommitmentSequenceNumber ≥ n)) = false ↔
      ∀ commitment ∈ sorted, commitment.originalCommitmentSequenceNumber < n := by
  rcases List.eq_nil_or_concat sorted with rfl | ⟨init, last, rfl⟩
  · exact ⟨fun _ _ member => absurd member List.not_mem_nil, fun _ => rfl⟩
  · rw [List.concat_eq_append] at *
    rw [List.getLast?_append_of_ne_nil _ (List.cons_ne_nil _ _)]
    show decide (last.originalCommitmentSequenceNumber ≥ n) = false ↔ _
    rw [decide_eq_false_iff_not, Nat.not_le]
    refine ⟨fun before commitment member => ?_, fun all => all last (by simp)⟩
    rcases List.mem_append.mp member with member | member
    · have ordered := (List.pairwise_append.mp pairwise).2.2 commitment member last
        List.mem_cons_self
      exact Nat.lt_of_le_of_lt ordered before
    · obtain rfl := List.mem_singleton.mp member
      exact before

/-- The commitments that `setup_chain_state` makes its chains from: the configured ones, sorted, and
the one on chain. -/
def allCommitments (chainConfig : EthereumConfig Bytes32) (latest : Commitment Bytes32) :
    List (Commitment Bytes32) :=
  (chainConfig.commitments.getD []).insertionSort Commitment.Le ++ [latest]

/-- The state with a chain for each of them. -/
def rebuiltState (lib : Libraries Bytes32) (commitments : List (Commitment Bytes32))
    (chainSampleInterval : ℕ) : HashChainState Bytes32 where
  offsets := commitments.map Commitment.originalCommitmentSequenceNumber
  hashChains := commitments.map fun commitment =>
    .built (pebbleDigest lib) commitment.seed commitment.chainLength chainSampleInterval

/-- The configured commitments all start before the registration on chain, and have chains. -/
def CommitmentsBefore (chainConfig : EthereumConfig Bytes32) (providerInfo : ProviderInfo Bytes32) :
    Prop :=
  ∀ commitment ∈ chainConfig.commitments.getD [], commitment.chainLength < 2 ^ 58 ∧
    commitment.originalCommitmentSequenceNumber < providerInfo.originalCommitmentSequenceNumber

variable {p : ProviderInfo Bytes32} {chainConfig : EthereumConfig Bytes32} {interval : ℕ}
variable {metadata : CommitmentMetadata Bytes32}

/-- The newest chain answers from its own start on. -/
theorem rebuiltState_reveal (lib : Libraries Bytes32) (chainConfig : EthereumConfig Bytes32)
    (latest : Commitment Bytes32) (interval : ℕ)
    (before : ∀ commitment ∈ chainConfig.commitments.getD [],
      commitment.originalCommitmentSequenceNumber < latest.originalCommitmentSequenceNumber)
    {n : ℕ} (from_ : latest.originalCommitmentSequenceNumber ≤ n) :
    (rebuiltState lib (allCommitments chainConfig latest) interval).reveal (pebbleDigest lib) n =
      (PebbleHashChain.built (pebbleDigest lib) latest.seed latest.chainLength interval).revealIth
        (pebbleDigest lib) (n - latest.originalCommitmentSequenceNumber) := by
  unfold rebuiltState allCommitments
  rw [List.map_append, List.map_append, List.map_singleton, List.map_singleton]
  apply HashChainState.reveal_of_split
  · rw [List.length_map, List.length_map]
  · intro offset member
    obtain ⟨commitment, inside, rfl⟩ := List.mem_map.mp member
    have start := before commitment ((List.mem_insertionSort _).mp inside)
    exact Nat.le_trans (Nat.le_of_lt start) from_
  · exact from_
  · exact fun _ member => absurd member List.not_mem_nil

/-- The metadata that `run` goes by: those on chain, or, where there are none, the start of the secret
and the length of the registration. -/
def SeededBy (lib : Libraries Bytes32) (secret : Text) (p : ProviderInfo Bytes32)
    (metadata : CommitmentMetadata Bytes32) : Prop :=
  p.commitmentMetadata ≠ [] ∧ lib.deserialize p.commitmentMetadata = some metadata ∨
    p.commitmentMetadata = [] ∧ ∃ seedBytes, lib.hexDecode (trimStart0x secret) = some seedBytes ∧
      32 ≤ seedBytes.length ∧ metadata = ⟨lib.fromSlice (seedBytes.take 32),
        U64.sub p.endSequenceNumber p.originalCommitmentSequenceNumber⟩

theorem latestMetadata_ok :
    latestMetadata lib secret chainId p = .ok metadata ↔ SeededBy lib secret p metadata := by
  unfold latestMetadata SeededBy
  by_cases empty : p.commitmentMetadata = []
  · rw [if_pos empty]
    simp only [empty, ne_eq, not_true_eq_false, false_and, true_and, false_or, bind_ok, okOr_ok]
    refine exists_congr fun seedBytes => and_congr_right fun _ => ?_
    by_cases short : seedBytes.length < 32
    · rw [if_pos short]
      exact ⟨fun failed => (nomatch failed), fun long => absurd short (Nat.not_lt.mpr long.1)⟩
    · rw [if_neg short, pure_ok]
      exact ⟨fun same => ⟨Nat.le_of_not_lt short, same.symm⟩, fun long => long.2.symm⟩
  · rw [if_neg empty, okOr_ok]
    exact ⟨fun decoded => .inl ⟨empty, decoded⟩,
      fun seeded => seeded.elim And.right fun absent => absurd absent.1 empty⟩

theorem SeededBy.unique {other : CommitmentMetadata Bytes32} (seeded : SeededBy lib secret p metadata)
    (seeded' : SeededBy lib secret p other) : metadata = other := by
  have one : latestMetadata lib secret [] p = .ok metadata := latestMetadata_ok.mpr seeded
  exact Except.ok.inj (one.symm.trans (latestMetadata_ok.mpr seeded'))

/-- The chains of `setup_chain_state` can be made when none is too long. -/
theorem fromSeeds_ok (positive : 0 < interval) {commitments : List (Commitment Bytes32)}
    {chains : List (PebbleHashChain Bytes32)} :
    (commitments.mapM fun commitment =>
        fromSeed lib commitment.seed commitment.chainLength interval) = .ok chains ↔
      (∀ commitment ∈ commitments, commitment.chainLength < 2 ^ 58) ∧
        chains = commitments.map fun commitment =>
          .built (pebbleDigest lib) commitment.seed commitment.chainLength interval := by
  induction commitments generalizing chains with
  | nil =>
    rw [List.mapM_nil, pure_ok]
    exact ⟨fun same => ⟨fun _ member => absurd member List.not_mem_nil, same.symm⟩,
      fun same => same.2.symm⟩
  | cons first rest ih =>
    simp only [List.mapM_cons, bind_ok, pure_ok, fromSeed, newChain_ok, List.forall_mem_cons,
      List.map_cons]
    constructor
    · rintro ⟨chain, ⟨_, fits, rfl⟩, others, made, rfl⟩
      obtain ⟨short, rfl⟩ := ih.mp made
      exact ⟨⟨fits, short⟩, rfl⟩
    · rintro ⟨⟨fits, short⟩, rfl⟩
      exact ⟨_, ⟨positive, fits, rfl⟩, _, ih.mpr ⟨short, rfl⟩, rfl⟩

/-- The first check of `setup_chain_state`. -/
theorem commitmentsBefore_iff :
    CommitmentsBefore chainConfig p ↔
      (∀ commitment ∈ chainConfig.commitments.getD [], commitment.chainLength < 2 ^ 58) ∧
      (((chainConfig.commitments.getD []).insertionSort Commitment.Le).getLast?.any fun last =>
        decide (last.originalCommitmentSequenceNumber ≥ p.originalCommitmentSequenceNumber)) =
          false := by
  rw [last_before_iff (List.pairwise_insertionSort Commitment.Le _)]
  simp only [List.mem_insertionSort]
  exact ⟨fun before => ⟨fun commitment member => (before commitment member).1,
    fun commitment member => (before commitment member).2⟩,
    fun parts commitment member => ⟨parts.1 commitment member, parts.2 commitment member⟩⟩

/-- **When `run` accepts a record**: the configured commitments start before it, and the seed alone
leads to the root. -/
theorem setupChainState_iff (positive : 0 < interval) {state : HashChainState Bytes32} :
    setupChainState lib p secret interval chainId chainConfig = .ok state ↔
      ∃ metadata, SeededBy lib secret p metadata ∧ CommitmentsBefore chainConfig p ∧
        OpensTo lib metadata.seed metadata.chainLength p.originalCommitment ∧
        state = rebuiltState lib (allCommitments chainConfig
          ⟨metadata.seed, metadata.chainLength, p.originalCommitmentSequenceNumber⟩) interval := by
  unfold setupChainState
  simp only [bind_ok, latestMetadata_ok]
  refine exists_congr fun metadata => and_congr_right fun _ => ?_
  have root := fun before => rebuiltState_reveal lib chainConfig
    ⟨metadata.seed, metadata.chainLength, p.originalCommitmentSequenceNumber⟩ interval before
    (Nat.le_refl p.originalCommitmentSequenceNumber)
  rw [Nat.sub_self] at root
  by_cases late : (((chainConfig.commitments.getD []).insertionSort Commitment.Le).getLast?.any
      fun last => decide (last.originalCommitmentSequenceNumber ≥
        p.originalCommitmentSequenceNumber)) = true
  · rw [if_pos late]
    refine ⟨fun failed => (nomatch failed), fun accepted => ?_⟩
    have early := (commitmentsBefore_iff.mp accepted.1).2
    rw [late] at early
    cases early
  · rw [if_neg late]
    simp only [bind_ok, fromSeeds_ok positive, mapError_ok, HashChainState.new, revealNumber,
      List.forall_mem_append, List.forall_mem_singleton, List.mem_insertionSort]
    constructor
    · rintro ⟨chains, ⟨⟨configured, fits⟩, rfl⟩, state', made, value, revealed, accepted⟩
      rw [List.length_map, List.length_map, if_neg (not_not.mpr rfl)] at made
      obtain rfl := Except.ok.inj made
      have before : CommitmentsBefore chainConfig p :=
        commitmentsBefore_iff.mpr ⟨configured, by simpa using late⟩
      have opened := (built_root positive fits).mp
        ((root fun commitment member => (before commitment member).2).symm.trans revealed)
      split at accepted
      · cases accepted
      · next same =>
        obtain rfl := not_not.mp same
        exact ⟨before, opened, (pure_ok.mp accepted).symm⟩
    · rintro ⟨before, opened, rfl⟩
      refine ⟨_, ⟨⟨(commitmentsBefore_iff.mp before).1, opened.fits⟩, rfl⟩,
        rebuiltState lib (allCommitments chainConfig ⟨metadata.seed, metadata.chainLength,
          p.originalCommitmentSequenceNumber⟩) interval, ?_, p.originalCommitment, ?_, ?_⟩
      · rw [List.length_map, List.length_map, if_neg (not_not.mpr rfl)]
        rfl
      · exact (root fun commitment member => (before commitment member).2).trans
          ((built_root positive opened.fits).mpr opened)
      · rw [if_neg (not_not.mpr rfl)]
        rfl

/-- **When `setup_provider` accepts a registration** of the configured length: when the chain that
it makes from the seed on chain opens to the commitment on chain. -/
theorem checkRegistration_eq {providerConfig : ProviderConfig} {providerAddress : Address}
    {start : Bytes32}
    (decoded : lib.deserialize p.commitmentMetadata = some metadata)
    (loaded : providerConfig.secret.load lib = .ok (some secret))
    (length : metadata.chainLength = providerConfig.chainLength)
    (generated : generateSecret lib secret chainId providerAddress chainConfig.contractAddr
      metadata.seed = .ok start)
    (positive : 0 < providerConfig.chainSampleInterval)
    (nonempty : 1 ≤ providerConfig.chainLength) (fits : providerConfig.chainLength < 2 ^ 58) :
    checkRegistration lib providerConfig chainId chainConfig providerAddress p =
      .ok (decide ((pebbleDigest lib)^[providerConfig.chainLength] start ≠ p.originalCommitment)) := by
  let chain := PebbleHashChain.built (pebbleDigest lib) start providerConfig.chainLength
    providerConfig.chainSampleInterval
  have made : newChain lib start providerConfig.chainLength providerConfig.chainSampleInterval =
      .ok chain := newChain_ok.mpr ⟨positive, fits, rfl⟩
  have root : revealNumber lib ⟨[p.originalCommitmentSequenceNumber], [chain]⟩
      p.originalCommitmentSequenceNumber =
        .ok ((pebbleDigest lib)^[providerConfig.chainLength] start) := by
    unfold revealNumber
    rw [mapError_ok, HashChainState.reveal_single chain (Nat.le_refl _), Nat.sub_self]
    exact (built_root positive fits).mpr ⟨nonempty, fits, rfl⟩
  simp only [checkRegistration, fromConfig, bind_ok, okOr_ok]
  refine ⟨metadata, decoded, some secret, loaded, secret, rfl, ?_⟩
  rw [if_neg (not_not.mpr length)]
  simp only [bind_ok, mapError_ok]
  exact ⟨chain, ⟨start, generated, made⟩, ⟨_, [chain]⟩, rfl, _, root, rfl⟩

/-- The input of the hash in `generate_secret`. -/
def secretInput (lib : Libraries Bytes32) (secretBytes : Bytes) (chainId : Text)
    (providerAddress contractAddress : Address) (random : Bytes32) : Bytes :=
  secretBytes ++ lib.utf8 chainId ++ addressBytes providerAddress ++ addressBytes contractAddress ++
    lib.bytes random

theorem generateSecret_ok {providerAddress contractAddress : Address} {random start : Bytes32} :
    generateSecret lib secret chainId providerAddress contractAddress random = .ok start ↔
      ∃ secretBytes, lib.hexDecode (trim secret) = some secretBytes ∧
        lib.digest (secretInput lib secretBytes chainId providerAddress contractAddress random) =
          start := by
  simp only [generateSecret, bind_ok, okOr_ok, pure_ok, secretInput]

/-- **A value that is its own derived secret**: the hash of the provider's secret, the chain id, the
two addresses and the value is the value again. -/
def SelfDerived (lib : Libraries Bytes32) (secret chainId : Text)
    (providerAddress contractAddress : Address) (value : Bytes32) : Prop :=
  ∃ secretBytes, lib.hexDecode (trim secret) = some secretBytes ∧
    lib.digest (secretInput lib secretBytes chainId providerAddress contractAddress value) = value

/-- **A root from the derived secret**: the metadata on chain have the configured length, and the
chain that starts at the hash of the provider's secret, the chain id, the two addresses and the seed
has the root on chain. -/
def DerivedRoot (lib : Libraries Bytes32) (secret chainId : Text)
    (providerAddress contractAddress : Address) (chainLength : ℕ) (p : ProviderInfo Bytes32)
    (metadata : CommitmentMetadata Bytes32) : Prop :=
  lib.deserialize p.commitmentMetadata = some metadata ∧ metadata.chainLength = chainLength ∧
    ∃ secretBytes, lib.hexDecode (trim secret) = some secretBytes ∧
      OpensTo lib (lib.digest (secretInput lib secretBytes chainId providerAddress contractAddress
        metadata.seed)) chainLength p.originalCommitment

/-- **A root from the seed itself**: the chain that starts at the seed on chain, or at the provider's
secret where there are no metadata, has the root on chain. -/
def SeedRoot (lib : Libraries Bytes32) (secret : Text) (p : ProviderInfo Bytes32) : Prop :=
  ∃ metadata, SeededBy lib secret p metadata ∧
    OpensTo lib metadata.seed metadata.chainLength p.originalCommitment

/-- **When `setup_provider` accepts a record**: exactly when the root comes from the derived secret. -/
theorem checkRegistration_iff {providerConfig : ProviderConfig} {providerAddress : Address}
    (loaded : providerConfig.secret.load lib = .ok (some secret))
    (positive : 0 < providerConfig.chainSampleInterval) :
    checkRegistration lib providerConfig chainId chainConfig providerAddress p = .ok false ↔
      ∃ metadata, DerivedRoot lib secret chainId providerAddress chainConfig.contractAddr
        providerConfig.chainLength p metadata := by
  constructor
  · intro accepted
    simp only [checkRegistration, bind_ok, okOr_ok] at accepted
    obtain ⟨metadata, decoded, _, loaded', _, rfl, accepted⟩ := accepted
    cases loaded'.symm.trans loaded
    by_cases length : metadata.chainLength = providerConfig.chainLength
    · rw [if_neg (not_not.mpr length)] at accepted
      simp only [fromConfig, bind_ok, mapError_ok, newChain_ok] at accepted
      obtain ⟨_, ⟨start, generated, _, fits, rfl⟩, state, made, root, revealed, same⟩ := accepted
      obtain rfl := Except.ok.inj made
      obtain ⟨secretBytes, hex, rfl⟩ := generateSecret_ok.mp generated
      obtain rfl := not_not.mp (of_decide_eq_false (pure_ok.mp same))
      rw [revealNumber, mapError_ok, HashChainState.reveal_single _ (Nat.le_refl _),
        Nat.sub_self] at revealed
      exact ⟨metadata, decoded, length, secretBytes, hex, (built_root positive fits).mp revealed⟩
    · rw [if_pos length] at accepted
      cases pure_ok.mp accepted
  · rintro ⟨metadata, decoded, length, secretBytes, hex, opened⟩
    rw [checkRegistration_eq decoded loaded length (generateSecret_ok.mpr ⟨secretBytes, hex, rfl⟩)
      positive opened.nonempty opened.fits]
    exact congrArg Except.ok (decide_eq_false (not_not.mpr opened.opens))

/-- Equal roots of equally long chains come from equal seeds, since hashing is injective. -/
theorem OpensTo.seed_eq {first second root : Bytes32} {chainLength : ℕ}
    (opened : OpensTo lib first chainLength root) (other : OpensTo lib second chainLength root) :
    first = second :=
  lib.digest_injective.iterate _ (opened.opens.trans other.opens.symm)

section DerivedRoot

variable {providerAddress contractAddress : Address} {chainLength : ℕ}

/-- `run` goes by the metadata on chain, since there are some. -/
theorem DerivedRoot.seededBy
    (derived : DerivedRoot lib secret chainId providerAddress contractAddress chainLength p metadata) :
    SeededBy lib secret p metadata := by
  refine .inl ⟨fun empty => ?_, derived.1⟩
  have decoded := derived.1
  rw [empty, lib.deserialize_nil] at decoded
  cases decoded

/-- A seed that is its own derived secret leads to the same root. -/
theorem DerivedRoot.opensTo
    (derived : DerivedRoot lib secret chainId providerAddress contractAddress chainLength p metadata)
    (self : SelfDerived lib secret chainId providerAddress contractAddress metadata.seed) :
    OpensTo lib metadata.seed metadata.chainLength p.originalCommitment := by
  obtain ⟨_, rfl, secretBytes, hex, opened⟩ := derived
  obtain ⟨_, hex', same⟩ := self
  cases hex'.symm.trans hex
  rwa [same] at opened

/-- Where the root comes from the derived secret, it comes from the seed itself exactly when the seed
is its own derived secret. -/
theorem DerivedRoot.seedRoot_iff
    (derived : DerivedRoot lib secret chainId providerAddress contractAddress chainLength p metadata) :
    SeedRoot lib secret p ↔
      SelfDerived lib secret chainId providerAddress contractAddress metadata.seed := by
  refine ⟨fun ⟨other, seeded, opened⟩ => ?_,
    fun self => ⟨metadata, derived.seededBy, derived.opensTo self⟩⟩
  obtain rfl := seeded.unique derived.seededBy
  obtain ⟨_, rfl, secretBytes, hex, derived⟩ := derived
  exact ⟨secretBytes, hex, derived.seed_eq opened⟩

end DerivedRoot

/-- Two records of the same registration. -/
structure ProviderInfo.SameRegistration (p q : ProviderInfo Bytes32) : Prop where
  original : p.originalCommitment = q.originalCommitment
  number : p.originalCommitmentSequenceNumber = q.originalCommitmentSequenceNumber
  metadata : p.commitmentMetadata = q.commitmentMetadata
  last : p.endSequenceNumber = q.endSequenceNumber

/-- The record after a registration. -/
theorem rotated_provider (w : World Bytes32) (provider : Address) (commitment : Bytes32)
    (commitmentMetadata : Bytes) (chainLength : ℕ) (uri : Bytes) :
    (w.rotated provider commitment commitmentMetadata chainLength uri).state.providers provider =
      (w.state.providers provider).rotated commitment commitmentMetadata chainLength uri :=
  Function.update_self _ _ _

/-- `register_provider` makes a root from the derived secret, and puts the random value beside it. -/
theorem registered_derivedRoot {providerConfig : ProviderConfig} {random : Bytes32}
    {w w' : World Bytes32}
    (registered : registerProviderFromConfig lib providerConfig chainId chainConfig random w = .ok w')
    {privateKey : Text} (keyLoaded : providerConfig.privateKey.load lib = .ok (some privateKey))
    {providerAddress : {address : Address // address ≠ 0}}
    (wallet : lib.walletAddress privateKey = some providerAddress)
    (secretLoaded : providerConfig.secret.load lib = .ok (some secret))
    (current : p.SameRegistration (w'.state.providers providerAddress.1)) :
    DerivedRoot lib secret chainId providerAddress.1 chainConfig.contractAddr
        providerConfig.chainLength p ⟨random, providerConfig.chainLength⟩ ∧
      p.endSequenceNumber = p.originalCommitmentSequenceNumber + providerConfig.chainLength := by
  obtain ⟨_, _, _, start, uri, commitment, loaded, parsed, loaded', generated, _, opened, _,
    checks, rfl⟩ := registerProviderFromConfig_ok registered
  cases loaded.symm.trans keyLoaded
  cases parsed.symm.trans wallet
  cases loaded'.symm.trans secretLoaded
  obtain ⟨original, number, metadata, last⟩ := current
  rw [rotated_provider] at original number metadata last
  obtain ⟨secretBytes, hex, rfl⟩ := generateSecret_ok.mp generated
  have small : providerConfig.chainLength < 2 ^ 64 :=
    Nat.lt_trans opened.fits (Nat.pow_lt_pow_right (by decide) (by decide))
  refine ⟨⟨?_, rfl, secretBytes, hex, ?_⟩, ?_⟩
  · rw [metadata]
    exact lib.deserialize_serialize _ small
  · rw [original]
    exact opened
  · rw [last, number]
    rfl

/-- A registered chain whose seed is its own derived secret is rebuilt. -/
theorem DerivedRoot.rebuilt {providerAddress : Address} {chainLength : ℕ} {random : Bytes32}
    (positive : 0 < interval)
    (derived : DerivedRoot lib secret chainId providerAddress chainConfig.contractAddr chainLength p
      ⟨random, chainLength⟩)
    (self : SelfDerived lib secret chainId providerAddress chainConfig.contractAddr random)
    (before : CommitmentsBefore chainConfig p) {chain : PebbleHashChain Bytes32}
    (made : fromConfig lib secret chainId providerAddress chainConfig.contractAddr random chainLength
      interval = .ok chain) :
    ∃ state, setupChainState lib p secret interval chainId chainConfig = .ok state ∧
      ∀ n, p.originalCommitmentSequenceNumber ≤ n →
        n < p.originalCommitmentSequenceNumber + chainLength →
        ∃ value, chain.revealIth (pebbleDigest lib) (n - p.originalCommitmentSequenceNumber) =
            .ok value ∧
          state.reveal (pebbleDigest lib) n = .ok value := by
  have opened : OpensTo lib random chainLength p.originalCommitment := derived.opensTo self
  obtain ⟨start, generated, built⟩ := bind_ok.mp made
  obtain ⟨_, _, rfl⟩ := newChain_ok.mp built
  obtain rfl : random = start := by
    obtain ⟨_, hex, same⟩ := self
    obtain ⟨_, hex', same'⟩ := generateSecret_ok.mp generated
    cases hex'.symm.trans hex
    exact same.symm.trans same'
  have chainMade : (PebbleHashChain.built (pebbleDigest lib) random chainLength interval).Made
      (pebbleDigest lib) random :=
    ⟨opened.nonempty, PebbleHashChain.new_ok.mpr ⟨positive, opened.fits, rfl⟩⟩
  refine ⟨_, (setupChainState_iff positive).mpr ⟨_, derived.seededBy, before, opened, rfl⟩,
    fun n lower upper => ?_⟩
  have inside : n - p.originalCommitmentSequenceNumber < chainLength := by omega
  have newest := rebuiltState_reveal lib chainConfig
    ⟨random, chainLength, p.originalCommitmentSequenceNumber⟩ interval
    (fun commitment member => (before commitment member).2) lower
  exact ⟨_, chainMade.revealIth inside, newest.trans (chainMade.revealIth inside)⟩

/-- **When a registered chain is rebuilt, and when the two commands agree.** After
`register_provider`, while the registration is current, `run` makes chains that reveal the registered
chain's value for every number of the registration exactly when the random value is its own derived
secret and the configured commitments are before the registration. And on any record that stands on
chain, `setup_provider` and `run` agree exactly when its root comes from neither secret that they
start from, or from both. -/
theorem rebuilt_iff {providerConfig : ProviderConfig}
    (secretLoaded : providerConfig.secret.load lib = .ok (some secret))
    (positive : 0 < providerConfig.chainSampleInterval) :
    (∀ {random : Bytes32} {w w' : World Bytes32} {privateKey : Text}
        {providerAddress : {address : Address // address ≠ 0}} {chain : PebbleHashChain Bytes32}
        {p : ProviderInfo Bytes32},
      registerProviderFromConfig lib providerConfig chainId chainConfig random w = .ok w' →
      providerConfig.privateKey.load lib = .ok (some privateKey) →
      lib.walletAddress privateKey = some providerAddress →
      fromConfig lib secret chainId providerAddress.1 chainConfig.contractAddr random
        providerConfig.chainLength providerConfig.chainSampleInterval = .ok chain →
      p.SameRegistration (w'.state.providers providerAddress.1) →
      ((∃ state, setupChainState lib p secret providerConfig.chainSampleInterval chainId chainConfig =
            .ok state ∧
          ∀ n, p.originalCommitmentSequenceNumber ≤ n → n < p.endSequenceNumber →
            ∃ value, chain.revealIth (pebbleDigest lib) (n - p.originalCommitmentSequenceNumber) =
                .ok value ∧
              state.reveal (pebbleDigest lib) n = .ok value) ↔
        SelfDerived lib secret chainId providerAddress.1 chainConfig.contractAddr random ∧
          CommitmentsBefore chainConfig p)) ∧
    ∀ (providerAddress : Address) (p : ProviderInfo Bytes32),
      (checkRegistration lib providerConfig chainId chainConfig providerAddress p = .ok false ↔
        ∃ state, setupChainState lib p secret providerConfig.chainSampleInterval chainId
          chainConfig = .ok state) ↔
      ((¬ ∃ metadata, DerivedRoot lib secret chainId providerAddress chainConfig.contractAddr
            providerConfig.chainLength p metadata) ∧
          ¬ (SeedRoot lib secret p ∧ CommitmentsBefore chainConfig p)) ∨
        ∃ metadata, DerivedRoot lib secret chainId providerAddress chainConfig.contractAddr
            providerConfig.chainLength p metadata ∧
          SelfDerived lib secret chainId providerAddress chainConfig.contractAddr metadata.seed ∧
          CommitmentsBefore chainConfig p := by
  have accepted : ∀ p : ProviderInfo Bytes32, (∃ state, setupChainState lib p secret
      providerConfig.chainSampleInterval chainId chainConfig = .ok state) ↔
        SeedRoot lib secret p ∧ CommitmentsBefore chainConfig p := by
    intro p
    simp only [setupChainState_iff positive]
    exact ⟨fun ⟨_, metadata, seeded, before, opened, _⟩ => ⟨⟨metadata, seeded, opened⟩, before⟩,
      fun ⟨⟨metadata, seeded, opened⟩, before⟩ => ⟨_, metadata, seeded, before, opened, rfl⟩⟩
  refine ⟨fun {random _ _ _ providerAddress chain p} registered keyLoaded wallet made current => ?_,
    fun providerAddress p => ?_⟩
  · obtain ⟨derived, span⟩ :=
      registered_derivedRoot registered keyLoaded wallet secretLoaded current
    constructor
    · rintro ⟨state, ok, _⟩
      obtain ⟨seeded, before⟩ := (accepted p).mp ⟨state, ok⟩
      exact ⟨derived.seedRoot_iff.mp seeded, before⟩
    · rintro ⟨self, before⟩
      rw [span]
      exact derived.rebuilt positive self before made
  · rw [accepted, checkRegistration_iff secretLoaded positive]
    constructor
    · intro agree
      by_cases derived : ∃ metadata, DerivedRoot lib secret chainId providerAddress
          chainConfig.contractAddr providerConfig.chainLength p metadata
      · obtain ⟨seeded, before⟩ := agree.mp derived
        obtain ⟨metadata, derived⟩ := derived
        exact .inr ⟨metadata, derived, derived.seedRoot_iff.mp seeded, before⟩
      · exact .inl ⟨derived, mt agree.mpr derived⟩
    · rintro (⟨underived, unseeded⟩ | ⟨metadata, derived, self, before⟩)
      · exact ⟨fun derived => absurd derived underived, fun seeded => absurd seeded unseeded⟩
      · exact ⟨fun _ => ⟨derived.seedRoot_iff.mpr self, before⟩, fun _ => ⟨metadata, derived⟩⟩

end Inversion

end Commands

/-! ### A concrete registration -/

/-- Plain words in the place of 32-byte arrays. The hash puts a byte in front, so it is injective. -/
abbrev Word := Bytes

namespace Plain

/-- The eight bytes of a number, the lowest one first. -/
def littleEndian (n : ℕ) : Bytes := (List.range 8).map fun i => UInt8.ofNat (n / 256 ^ i)

def ofLittleEndian (bytes : Bytes) : ℕ := bytes.foldr (fun byte rest => byte.toNat + 256 * rest) 0

theorem ofLittleEndian_littleEndian {n : ℕ} (small : n < 2 ^ 64) :
    ofLittleEndian (littleEndian n) = n := by
  simp only [ofLittleEndian, littleEndian, List.range, List.range.loop, List.map, List.foldr,
    UInt8.toNat_ofNat']
  omega

/-- `bincode` of the metadata: the seed, then the length. -/
def serialize (metadata : CommitmentMetadata Word) : Bytes :=
  metadata.seed ++ littleEndian metadata.chainLength

def deserialize (bytes : Bytes) : Option (CommitmentMetadata Word) :=
  if 8 ≤ bytes.length then
    some ⟨bytes.take (bytes.length - 8), ofLittleEndian (bytes.drop (bytes.length - 8))⟩
  else none

theorem deserialize_serialize (metadata : CommitmentMetadata Word)
    (small : metadata.chainLength < 2 ^ 64) :
    deserialize (serialize metadata) = some metadata := by
  have eight : (littleEndian metadata.chainLength).length = 8 := rfl
  have length : (serialize metadata).length = metadata.seed.length + 8 := by
    rw [serialize, List.length_append, eight]
  unfold deserialize
  rw [length, if_pos (Nat.le_add_left _ _), Nat.add_sub_cancel, serialize, List.take_left,
    List.drop_left, ofLittleEndian_littleEndian small]

/-- The value of a hexadecimal digit. -/
def hexDigit (c : Char) : Option ℕ :=
  if '0' ≤ c ∧ c ≤ '9' then some (c.toNat - 48)
  else if 'a' ≤ c ∧ c ≤ 'f' then some (c.toNat - 87)
  else if 'A' ≤ c ∧ c ≤ 'F' then some (c.toNat - 55)
  else none

def hexDecode : Text → Option Bytes
  | [] => some []
  | [_] => none
  | high :: low :: rest => do
      let high ← hexDigit high
      let low ← hexDigit low
      let rest ← hexDecode rest
      pure (UInt8.ofNat (16 * high + low) :: rest)

/-- The address of the private key `1`. -/
def address : {address : Address // address ≠ 0} :=
  ⟨0x7E5F4552091A69125d5DfCb7b8C2659029395Bdf, by decide⟩

def libraries : Libraries Word where
  digest bytes := 0 :: bytes
  bytes := id
  digest_injective _ _ same := List.tail_eq_of_cons_eq same
  fromSlice := id
  hexDecode := hexDecode
  serialize := serialize
  deserialize := deserialize
  deserialize_serialize := deserialize_serialize
  deserialize_nil := rfl
  walletAddress _ := some address
  joinUrl base path := some (base ++ path)
  utf8 text := text.flatMap String.utf8EncodeChar
  readFile _ := none

/-- The bits of an address. -/
def addressBits (provider : Address) : Bytes :=
  List.ofFn fun i : Fin 160 => if provider.getLsbD i then 1 else 0

theorem addressBits_injective : Function.Injective addressBits := by
  intro first second same
  have bits := List.ofFn_injective same
  apply BitVec.eq_of_getLsbD_eq
  intro i inside
  have bit := congrFun bits ⟨i, inside⟩
  simp only at bit
  cases one : first.getLsbD i <;> cases other : second.getLsbD i
  · rfl
  · rw [one, other] at bit
    cases bit
  · rw [one, other] at bit
    cases bit
  · rfl

/-- The address, and the number in unary. -/
def requestWord (key : RequestKey) : Word := addressBits key.1 ++ List.replicate key.2 1

theorem requestWord_injective : Function.Injective requestWord := by
  rintro ⟨provider, n⟩ ⟨provider', n'⟩ same
  have lengths : (addressBits provider).length = (addressBits provider').length := by
    rw [addressBits, addressBits, List.length_ofFn, List.length_ofFn]
  obtain ⟨first, second⟩ := List.append_inj same lengths
  exact Prod.ext (addressBits_injective first) (by simpa using congrArg List.length second)

/-- The hash functions of the contract on plain words. -/
def keccak : Keccak Word where
  keccak256 words := 0 :: words.flatten
  requestHash provider n := requestWord (provider, n)
  requestHash_injective _ _ same := requestWord_injective same
  shortHash _ := Sample.slot
  word := littleEndian

/-- The provider's key is the admin's key, and the default provider is another one. -/
def deployment : Deployment Word where
  admin := address.1
  feeInWei := 10
  defaultProvider := 46
  prefillRequestStorage := false
  vault := 3
  providerCommitment := []
  providerChainLength := 0
  providerCommitmentMetadata := []
  refundDelayBlocks := 6
  blockNumber := 100
  blockhash := littleEndian
  etherBefore := 0

def providerConfig : ProviderConfig where
  uri := "http://localhost:8080".toList
  privateKey := ⟨some "0000000000000000000000000000000000000000000000000000000000000001".toList, none⟩
  secret := ⟨some "abcdefabcdefabcdefabcdefabcdefabcdefabcdefabcdefabcdefabcdefabcd".toList, none⟩
  chainLength := 5
  chainSampleInterval := 2
  feeManager := none

def chainConfig : EthereumConfig Word where
  contractAddr := 0x8c
  fee := 0
  syncFeeOnlyOnRegister := true
  commitments := none
  gasLimit := 100000
  maxNumHashes := some 2

def chainId : Text := "local".toList

/-- The random value that the registration draws. -/
def random : Word := List.replicate 32 7

def secret : Text := "abcdefabcdefabcdefabcdefabcdefabcdefabcdefabcdefabcdefabcdefabcd".toList

theorem deployed : constructor keccak deployment = .ok (deployment.world keccak) := rfl

/-- The world after the registration. -/
def registeredWorld : World Word :=
  match registerProviderFromConfig libraries providerConfig chainId chainConfig random
    (deployment.world keccak) with
  | .ok w => w
  | .error _ => deployment.world keccak

theorem registered : registerProviderFromConfig libraries providerConfig chainId chainConfig random
    (deployment.world keccak) = .ok registeredWorld := by
  have ok : (registerProviderFromConfig libraries providerConfig chainId chainConfig random
      (deployment.world keccak)).isOk = true := by decide +kernel
  unfold registeredWorld
  split
  · next w same => exact same
  · next error same =>
    rw [same] at ok
    cases ok

/-- The registered provider's record. -/
def provider : ProviderInfo Word := registeredWorld.state.providers address.1

end Plain

/-- The derived secret is longer than what it is derived from. -/
theorem Plain.not_selfDerived : ¬ SelfDerived Plain.libraries Plain.secret Plain.chainId
    Plain.address.1 Plain.chainConfig.contractAddr Plain.random := by
  rintro ⟨secretBytes, _, same⟩
  have lengths : (0 :: secretInput Plain.libraries secretBytes Plain.chainId Plain.address.1
      Plain.chainConfig.contractAddr Plain.random).length = Plain.random.length :=
    congrArg List.length same
  have input : (secretInput Plain.libraries secretBytes Plain.chainId Plain.address.1
      Plain.chainConfig.contractAddr Plain.random).length ≥ Plain.random.length := by
    unfold secretInput
    rw [List.length_append]
    exact Nat.le_add_left _ _
  rw [List.length_cons] at lengths
  omega

/-- The empty word is no root, since a hash has a first byte. -/
theorem Plain.not_opensTo_nil (seed : Word) (chainLength : ℕ) :
    ¬ OpensTo Plain.libraries seed chainLength [] := by
  rintro ⟨nonempty, _, opens⟩
  obtain ⟨turns, rfl⟩ := Nat.exists_eq_add_of_le' nonempty
  rw [Function.iterate_succ_apply'] at opens
  cases opens

/-- The registered chain is not rebuilt, and the two commands agree to refuse the same record with
another root. -/
theorem rebuilt_iff_plain : ∃ chain : PebbleHashChain Word,
    fromConfig Plain.libraries Plain.secret Plain.chainId Plain.address.1
      Plain.chainConfig.contractAddr Plain.random 5 2 = .ok chain ∧
    (¬ ∃ state, setupChainState Plain.libraries Plain.provider Plain.secret 2 Plain.chainId
        Plain.chainConfig = .ok state ∧
      ∀ n, Plain.provider.originalCommitmentSequenceNumber ≤ n →
        n < Plain.provider.endSequenceNumber →
        ∃ value, chain.revealIth (pebbleDigest Plain.libraries)
              (n - Plain.provider.originalCommitmentSequenceNumber) = .ok value ∧
          state.reveal (pebbleDigest Plain.libraries) n = .ok value) ∧
    (checkRegistration Plain.libraries Plain.providerConfig Plain.chainId Plain.chainConfig
        Plain.address.1 { Plain.provider with originalCommitment := [] } = .ok false ↔
      ∃ state, setupChainState Plain.libraries { Plain.provider with originalCommitment := [] }
        Plain.secret 2 Plain.chainId Plain.chainConfig = .ok state) := by
  have made : (fromConfig Plain.libraries Plain.secret Plain.chainId Plain.address.1
      Plain.chainConfig.contractAddr Plain.random 5 2).isOk = true := by decide +kernel
  obtain ⟨chain, made⟩ := Sample.exists_of_isOk made
  obtain ⟨rebuilt, agree⟩ := @rebuilt_iff Word Plain.libraries _ Plain.secret Plain.chainId
    Plain.chainConfig Plain.providerConfig rfl (by decide)
  have whenRebuilt := @rebuilt _ _ _ _ _ _ Plain.provider Plain.registered rfl rfl made
    ⟨rfl, rfl, rfl, rfl⟩
  refine ⟨chain, made, fun holds => Plain.not_selfDerived (whenRebuilt.mp holds).1,
    (agree _ _).mpr (.inl ⟨?_, ?_⟩)⟩
  · rintro ⟨_, _, _, _, _, opened⟩
    exact Plain.not_opensTo_nil _ _ opened
  · rintro ⟨⟨_, _, opened⟩, _⟩
    exact Plain.not_opensTo_nil _ _ opened

/-- **The chain is not rebuilt.** Right after `register_provider` with this configuration, `run`
refuses the registration that `setup_provider` accepts. -/
theorem not_rebuilt :
    ∃ w', registerProviderFromConfig Plain.libraries Plain.providerConfig Plain.chainId
        Plain.chainConfig Plain.random (Plain.deployment.world Plain.keccak) = .ok w' ∧
      (¬ ∃ state, setupChainState Plain.libraries (w'.state.providers Plain.address.1) Plain.secret
        2 Plain.chainId Plain.chainConfig = .ok state) ∧
      checkRegistration Plain.libraries Plain.providerConfig Plain.chainId Plain.chainConfig
        Plain.address.1 (w'.state.providers Plain.address.1) = .ok false := by
  have refused : (setupChainState Plain.libraries Plain.provider Plain.secret 2 Plain.chainId
      Plain.chainConfig).isOk = false := by decide +kernel
  have accepted : (match checkRegistration Plain.libraries Plain.providerConfig Plain.chainId
      Plain.chainConfig Plain.address.1 Plain.provider with
    | .ok again => again
    | .error _ => true) = false := by decide +kernel
  refine ⟨Plain.registeredWorld, Plain.registered, ?_, ?_⟩
  · rintro ⟨state, ok⟩
    have same : setupChainState Plain.libraries Plain.provider Plain.secret 2 Plain.chainId
        Plain.chainConfig = .ok state := ok
    rw [same] at refused
    cases refused
  · show checkRegistration Plain.libraries Plain.providerConfig Plain.chainId Plain.chainConfig
      Plain.address.1 Plain.provider = .ok false
    split at accepted
    · next again same => rw [same, accepted]
    · cases accepted

end Dice
