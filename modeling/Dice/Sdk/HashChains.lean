/-
**The hash chains of the TypeScript SDK.**

The SDK handles values as hex strings, which only `ethers` looks into.

* `Ethers` — what it takes from `ethers`: reading a string, and the functions that make new ones.
* `constructProviderCommitment_iff` — the SDK's iterated hash is the contract's unless a value on the
  way starts with a zero byte, which `toBeHex` drops.
* `generateHashChain_servable_iff` — a chain that the SDK makes answers every number of its registration
  if it has at least two values. A chain of one value has no commitment.
-/

import Dice.Library.Hex
import Dice.Service.ChainState

set_option linter.unusedSectionVars false

namespace Dice

open HashChain (IsLink)

/-! ### Hex strings -/

/-- **What the SDK takes from `ethers`**, for hex strings `S` that write values of `B`. `hash` is the
hash function behind `keccak256`. -/
structure Ethers (S B : Type) (hash : B → B) where
  getBytes : S → Option B
  hexlify : S → S
  keccak256 : S → S
  /-- `hexlify` writes the same value. -/
  getBytes_hexlify : ∀ {text value}, getBytes text = some value → getBytes (hexlify text) = some value
  /-- `keccak256` hashes exactly the value that is written. -/
  getBytes_keccak256 : ∀ {text value}, getBytes text = some value →
    getBytes (keccak256 text) = some (hash value)

/-- Strings that write bytes: `toBeHex`, without a width, writes the number again, as shortly as it
can be written in whole bytes. -/
structure ByteEthers (S : Type) (hash : Bytes → Bytes) extends Ethers S Bytes hash where
  toBeHex : S → S
  hash_length : ∀ bytes, (hash bytes).length = 32
  getBytes_toBeHex : ∀ {text bytes}, getBytes text = some bytes → bytes ≠ [] →
    ∃ short, getBytes (toBeHex text) = some short ∧ Hex.Shortest short (Hex.value bytes)

namespace DiceProtocol

section Commitments

variable {S : Type} {K : Keccak Bytes}

/-- `DiceProtocol.constructProviderCommitment`: one turn of the loop for each of `numHashes`. -/
def constructProviderCommitment (ethers : ByteEthers S (chainHash K)) : ℕ → S → S
  | 0, current => current
  | numHashes + 1, current =>
      constructProviderCommitment ethers numHashes (ethers.keccak256 (ethers.toBeHex current))

variable (ethers : ByteEthers S (chainHash K)) {revelation : S} {value : Bytes}

/-- The last turn. -/
theorem constructProviderCommitment_succ (numHashes : ℕ) (current : S) :
    constructProviderCommitment ethers (numHashes + 1) current =
      ethers.keccak256 (ethers.toBeHex (constructProviderCommitment ethers numHashes current)) := by
  induction numHashes generalizing current with
  | zero => rfl
  | succ numHashes ih => exact ih (ethers.keccak256 (ethers.toBeHex current))

/-- What the SDK hashes for a value. -/
theorem getBytes_toBeHex {text : S} {bytes : Bytes} (written : ethers.getBytes text = some bytes)
    (nonempty : bytes ≠ []) : ethers.getBytes (ethers.toBeHex text) = some (Hex.strip bytes) := by
  obtain ⟨short, written', shortest⟩ := ethers.getBytes_toBeHex written nonempty
  rw [written', shortest.unique (Hex.strip_shortest nonempty)]

theorem nonempty_of_wide {bytes : Bytes} (wide : bytes.length = 32) : bytes ≠ [] := by
  rintro rfl
  cases wide

/-- **The bytes that the SDK has after each turn.** -/
def turn (K : Keccak Bytes) (bytes : Bytes) : Bytes := chainHash K (Hex.strip bytes)

include ethers in
theorem turns_wide (wide : value.length = 32) (numHashes : ℕ) :
    ((turn K)^[numHashes] value).length = 32 := by
  induction numHashes with
  | zero => exact wide
  | succ numHashes ih =>
    rw [Function.iterate_succ_apply']
    exact ethers.hash_length _

theorem getBytes_constructProviderCommitment (written : ethers.getBytes revelation = some value)
    (wide : value.length = 32) (numHashes : ℕ) :
    ethers.getBytes (constructProviderCommitment ethers numHashes revelation) =
      some ((turn K)^[numHashes] value) := by
  induction numHashes with
  | zero => exact written
  | succ numHashes ih =>
    have nonempty := nonempty_of_wide (turns_wide ethers wide numHashes)
    rw [constructProviderCommitment_succ, Function.iterate_succ_apply']
    exact ethers.getBytes_keccak256 (getBytes_toBeHex ethers ih nonempty)

include ethers in
theorem hashes_wide (wide : value.length = 32) (numHashes : ℕ) :
    ((chainHash K)^[numHashes] value).length = 32 := by
  induction numHashes with
  | zero => exact wide
  | succ numHashes ih =>
    rw [Function.iterate_succ_apply']
    exact ethers.hash_length _

include ethers in
/-- The two loops stay together as long as `toBeHex` drops nothing. -/
theorem turns_eq_iff (wide : value.length = 32) (numHashes : ℕ)
    (distinct : ∀ i < numHashes,
      turn K ((turn K)^[i] value) = chainHash K ((chainHash K)^[i] value) →
        Hex.strip ((turn K)^[i] value) = (chainHash K)^[i] value) :
    (turn K)^[numHashes] value = (chainHash K)^[numHashes] value ↔
      ∀ i < numHashes, ((chainHash K)^[i] value).head? ≠ some 0 := by
  induction numHashes with
  | zero => exact ⟨fun _ i below => absurd below (Nat.not_lt_zero i), fun _ => rfl⟩
  | succ n ih =>
    have ih := ih fun i below => distinct i (Nat.lt_succ_of_lt below)
    have wideTurn := turns_wide ethers wide n
    have wideHash := hashes_wide ethers wide n
    have nonempty := nonempty_of_wide wideTurn
    have long : 2 ≤ ((turn K)^[n] value).length := by omega
    rw [Function.iterate_succ_apply', Function.iterate_succ_apply', Nat.forall_lt_succ_right]
    constructor
    · intro same
      have stripped := distinct n (Nat.lt_succ_self n) same
      -- 32 bytes are left, so nothing was dropped
      have kept : (Hex.strip ((turn K)^[n] value)).length = ((turn K)^[n] value).length := by
        rw [stripped, wideHash, wideTurn]
      have together : (turn K)^[n] value = (chainHash K)^[n] value :=
        (Hex.strip_eq_self nonempty kept).symm.trans stripped
      refine ⟨ih.mp together, ?_⟩
      rw [← together]
      exact (Hex.strip_length_iff long).mp kept
    · rintro ⟨earlier, last⟩
      have together := ih.mpr earlier
      rw [← together] at last ⊢
      have kept := Hex.strip_eq_self nonempty ((Hex.strip_length_iff long).mpr last)
      exact congrArg (chainHash K) kept

/-- **When the SDK's commitment is the contract's.** Unless `keccak256` collides in one of the turns, this
is so exactly when no value that is hashed starts with a zero byte. -/
theorem constructProviderCommitment_iff (written : ethers.getBytes revelation = some value)
    (wide : value.length = 32) (numHashes : ℕ)
    (distinct : ∀ i < numHashes, ∀ hashed,
      ethers.getBytes (ethers.toBeHex (constructProviderCommitment ethers i revelation)) =
        some hashed →
      K.keccak256 [hashed] = K.keccak256 [Dice.constructProviderCommitment K i value] →
        hashed = Dice.constructProviderCommitment K i value) :
    ethers.getBytes (constructProviderCommitment ethers numHashes revelation) =
        some (Dice.constructProviderCommitment K numHashes value) ↔
      ∀ i < numHashes, (Dice.constructProviderCommitment K i value).head? ≠ some 0 := by
  simp only [constructProviderCommitment_eq] at distinct ⊢
  rw [getBytes_constructProviderCommitment ethers written wide, Option.some_inj]
  refine turns_eq_iff ethers wide numHashes fun i below same => ?_
  refine distinct i below _ ?_ same
  exact getBytes_toBeHex ethers (getBytes_constructProviderCommitment ethers written wide i)
    (nonempty_of_wide (turns_wide ethers wide i))

end Commitments

/-! ### Whole chains -/

/-- What `generateHashChain` returns. The commitment is `undefined` if there is none. -/
structure GeneratedChain (S : Type) where
  commitment : Option S
  revelations : List S
  deriving DecidableEq, Repr

section Generation

variable {S B : Type} {hash : B → B} (ethers : Ethers S B hash)

/-- The loop of `generateHashChain`, which pushes every new value. -/
def pushHashes : ℕ → S → List S → List S
  | 0, _, revelations => revelations
  | turns + 1, current, revelations =>
      let current := ethers.keccak256 (ethers.hexlify current)
      pushHashes turns current (revelations ++ [current])

/-- `DiceProtocol.generateHashChain`. -/
def generateHashChain (seed : S) (length : ℕ) : GeneratedChain S :=
  let revelations := (pushHashes ethers (length - 1) seed []).reverse
  { commitment := revelations[0]?
    revelations := revelations.drop 1 ++ [seed] }

variable {seed : S} {value : B}

/-- The value that the SDK has after some turns. -/
def hashText (turns : ℕ) (text : S) : S :=
  (fun current => ethers.keccak256 (ethers.hexlify current))^[turns] text

theorem getBytes_hashText (written : ethers.getBytes seed = some value) (turns : ℕ) :
    ethers.getBytes (hashText ethers turns seed) = some (hash^[turns] value) := by
  unfold hashText
  induction turns with
  | zero => exact written
  | succ turns ih =>
    rw [Function.iterate_succ_apply', Function.iterate_succ_apply']
    exact ethers.getBytes_keccak256 (ethers.getBytes_hexlify ih)

theorem pushHashes_eq (turns : ℕ) (current : S) (revelations : List S) :
    pushHashes ethers turns current revelations =
      revelations ++ (List.range turns).map fun i => hashText ethers (i + 1) current := by
  induction turns generalizing current revelations with
  | zero => exact (List.append_nil _).symm
  | succ turns ih =>
    show pushHashes ethers turns _ (revelations ++ [_]) = _
    rw [ih, List.range_succ_eq_map, List.append_assoc, List.map_cons, List.map_map]
    rfl

theorem length_pushHashes (turns : ℕ) : (pushHashes ethers turns seed []).reverse.length = turns := by
  rw [pushHashes_eq, List.nil_append, List.length_reverse, List.length_map, List.length_range]

/-- The values in the order of the contract. -/
theorem getElem?_pushHashes {turns i : ℕ} (below : i < turns) :
    (pushHashes ethers turns seed []).reverse[i]? = some (hashText ethers (turns - i) seed) := by
  rw [pushHashes_eq, List.nil_append, List.getElem?_reverse (by simpa using below),
    List.length_map, List.length_range, List.getElem?_map, List.getElem?_range (by omega)]
  have index : turns - 1 - i + 1 = turns - i := by omega
  rw [Option.map_some, index]

theorem length_revelations (length : ℕ) :
    (generateHashChain ethers seed length).revelations.length = length - 2 + 1 := by
  show (_ ++ [seed]).length = _
  rw [List.length_append, List.length_drop, length_pushHashes, List.length_singleton]
  omega

/-- **The commitment**: the seed, hashed once less than there are values. -/
theorem commitment_eq {length : ℕ} (long : 2 ≤ length) :
    (generateHashChain ethers seed length).commitment = some (hashText ethers (length - 1) seed) :=
  getElem?_pushHashes ethers (Nat.sub_pos_of_lt long)

/-- **The revelations**: the one for the `k`-th number is hashed `k` times less. -/
theorem revelations_eq {length k : ℕ} (positive : 1 ≤ k) (below : k < length) :
    (generateHashChain ethers seed length).revelations[k - 1]? =
      some (hashText ethers (length - 1 - k) seed) := by
  show (List.drop 1 _ ++ [seed])[k - 1]? = _
  by_cases inside : k < length - 1
  · rw [List.getElem?_append_left (by rw [List.length_drop, length_pushHashes]; omega),
      List.getElem?_drop, Nat.add_sub_cancel' positive]
    exact getElem?_pushHashes ethers inside
  · rw [List.getElem?_append_right (by rw [List.length_drop, length_pushHashes]; omega),
      List.length_drop, length_pushHashes]
    have last : k - 1 - (length - 1 - 1) = 0 := by omega
    have none : length - 1 - k = 0 := by omega
    rw [last, none]
    rfl

end Generation

/-! ### Chains on the contract -/

section Serving

variable {S Bytes32 : Type} {K : Keccak Bytes32} [DecidableEq Bytes32]

/-- **Revelations answer the numbers of a registration** of so many values from number `s` on, which may
have been followed by others. -/
structure Answers (ethers : Ethers S Bytes32 (chainHash K)) (revelations : List S) (length : ℕ)
    (w : World Bytes32) (provider : Address) (s : ℕ) (after : List (Registration Bytes32)) : Prop where
  accepted : ∀ k, 1 ≤ k → k < length → (∀ later ∈ after, s + k < later.offset) →
    ∃ text v, revelations[k - 1]? = some text ∧ ethers.getBytes text = some v ∧
      ∀ req caller u gasLimit, w.state.lookup K (provider, s + k) = some req →
        .emitted (.requested provider caller (s + k) u gasLimit) ∈ w.history →
          ∀ v', (∃ out, revealHelper K w (findRequest K w.state provider (s + k)) u v' = .ok out) ↔
            v' = v
  assigned : after = [] → ∀ msg u gasLimit w' n,
    requestV2 K w msg provider u gasLimit = .ok (w', n) → s < n ∧ n < s + length

/-- **A chain can be served**: it has an answer for each number but the first, and in every run in which it
is registered, these answers are the ones that the contract accepts. -/
structure Servable (ethers : Ethers S Bytes32 (chainHash K)) (chain : GeneratedChain S)
    (length : ℕ) : Prop where
  entries : chain.revelations.length = length - 1
  answers : ∃ text commitment, chain.commitment = some text ∧
    ethers.getBytes text = some commitment ∧
    ∀ c : LoggedConfig Bytes32, LoggedReachable K c → ∀ provider s before after,
      registrationsOf provider c.world.2 = before ++ ⟨provider, s, commitment, length⟩ :: after →
        Answers ethers chain.revelations length c.world.1 provider s after

variable {own before after : List (Registration Bytes32)} {registration : Registration Bytes32}
variable {n : ℕ} {u : Bytes32} {req : Request Bytes32}

/-- Of the registrations that start at or before a number, the last one starts last. -/
theorem last_below (increasing : own.Pairwise fun earlier later => earlier.offset < later.offset)
    (split : own = before ++ registration :: after) (upper : ∀ later ∈ after, n < later.offset)
    {other : Registration Bytes32} (member : other ∈ own) (below : other.offset ≤ n) :
    other = registration ∨ other.offset < registration.offset := by
  rw [split] at member increasing
  rcases List.mem_append.mp member with earlier | rest
  · exact .inr ((List.pairwise_append.mp increasing).2.2 other earlier registration
      List.mem_cons_self)
  · rcases List.mem_cons.mp rest with same | later
    · exact .inl same
    · exact absurd below (Nat.not_le.mpr (upper other later))

/-- The registration that answers a number is the one it commits to. -/
theorem Answered.commits (answered : Answered K own u n req)
    (increasing : own.Pairwise fun earlier later => earlier.offset < later.offset)
    (split : own = before ++ registration :: after) (lower : registration.offset ≤ n)
    (upper : ∀ later ∈ after, n < later.offset) :
    ∃ value index, req.commitment = K.keccak256 [constructUserCommitment K u, value] ∧
      IsLink (chainHash K) registration.commitment index value ∧
      registration.offset + index + req.numHashes = n := by
  obtain ⟨before', other, after', split', lower', _, upper', opens⟩ := answered
  have member : registration ∈ own := split ▸ List.mem_append_right _ List.mem_cons_self
  have member' : other ∈ own := split' ▸ List.mem_append_right _ List.mem_cons_self
  have same : other = registration := by
    rcases last_below increasing split upper member' lower' with same | below
    · exact same
    · rcases last_below increasing split' upper' member lower with same | below'
      · exact same.symm
      · omega
  rw [same] at opens
  exact opens

/-- **What `revealHelper` accepts** for a request that commits to a chain: its value there. -/
theorem revealHelper_iff (injective : Function.Injective K.keccak256) {w : World Bytes32}
    (sound : Sound K w) {provider : Address} {commitment value v : Bytes32} {index s k : ℕ}
    (found : w.state.lookup K (provider, s + k) = some req)
    (commits : req.commitment = K.keccak256 [constructUserCommitment K u, value])
    (linked : IsLink (chainHash K) commitment index value)
    (place : s + index + req.numHashes = s + k) (link : IsLink (chainHash K) commitment k v)
    (v' : Bytes32) :
    (∃ out, revealHelper K w (findRequest K w.state provider (s + k)) u v' = .ok out) ↔ v' = v := by
  have index_eq : k = index + req.numHashes := by omega
  rw [index_eq] at link
  have above := linked.above (chainHash_injective injective) link
  constructor
  · rintro ⟨⟨w', randomNumber, blockHash⟩, ok⟩
    have read := read_findRequest found
    have checks := (revealHelper_ok (found.trans (congrArg some read.symm)) ok).1
    have opens := checks.opens
    rw [read, commits] at opens
    have same := injective opens
    simp only [List.cons.injEq, and_true, true_and] at same
    rw [← above] at same
    exact (chainHash_injective injective).iterate _ same
  · rintro rfl
    refine revealHelper_accepts sound found ?_
    rw [above, commits]

variable (ethers : Ethers S Bytes32 (chainHash K)) {seed : S} {value : Bytes32}

/-- **Chains of two values and more.** -/
theorem generateHashChain_answers (injective : Function.Injective K.keccak256)
    (written : ethers.getBytes seed = some value) {length : ℕ} {c : LoggedConfig Bytes32}
    (reach : LoggedReachable K c) {provider : Address} {s : ℕ}
    (split : registrationsOf provider c.world.2 =
      before ++ ⟨provider, s, (chainHash K)^[length - 1] value, length⟩ :: after) :
    Answers ethers (generateHashChain ethers seed length).revelations length c.world.1 provider s
      after := by
  obtain ⟨sound, kept⟩ := reach.kept injective
  have increasing := kept.increasing provider
  refine ⟨fun k positive below upper => ?_, fun last msg u gasLimit w' n requested => ?_⟩
  · refine ⟨_, _, revelations_eq ethers positive below, getBytes_hashText ethers written _, ?_⟩
    intro req caller u gasLimit found requested
    obtain ⟨value', index, commits, linked, place⟩ := Answered.commits
      (kept.answered requested found) increasing split (Nat.le_add_right s k) upper
    refine revealHelper_iff injective sound found commits linked place ?_
    show (chainHash K)^[k] ((chainHash K)^[length - 1 - k] value) = (chainHash K)^[length - 1] value
    rw [← Function.iterate_add_apply, Nat.add_sub_cancel' (Nat.le_sub_one_of_lt below)]
  · obtain ⟨_, checks, rfl, _⟩ := requestV2_ok requested
    obtain ⟨before', registration, split', offset, _, ends⟩ := kept.current provider
      checks.registered
    rw [last] at split
    obtain ⟨_, same⟩ := List.append_inj' (split.symm.trans split') rfl
    obtain rfl := (List.cons.inj same).1
    have used := kept.used provider _ (split' ▸ List.mem_append_right _ List.mem_cons_self)
    have left := checks.left
    rw [← ends] at left
    exact ⟨used, left⟩

/-- **Exactly the chains of two values and more can be served**, of those that a registration admits. -/
theorem generateHashChain_servable_iff (injective : Function.Injective K.keccak256)
    (written : ethers.getBytes seed = some value) {length : ℕ} (positive : 1 ≤ length) :
    Servable ethers (generateHashChain ethers seed length) length ↔ 2 ≤ length := by
  constructor
  · intro servable
    have entries := servable.entries
    rw [length_revelations] at entries
    omega
  · intro long
    refine ⟨?_, _, _, commitment_eq ethers long, getBytes_hashText ethers written _, ?_⟩
    · rw [length_revelations]
      omega
    · intro c reach provider s before after split
      exact generateHashChain_answers ethers injective written reach split

end Serving

/-! ### Hex text -/

/-- The hex string of a byte string. -/
def hexText (bytes : Bytes) : List Char := '0' :: 'x' :: Hex.encode bytes

def textBytes : List Char → Option Bytes
  | '0' :: 'x' :: digits => Hex.decode digits
  | _ => none

theorem textBytes_hexText (bytes : Bytes) : textBytes (hexText bytes) = some bytes :=
  Hex.decode_encode bytes

/-- The hex string of what becomes of the bytes of another. -/
def rewriteText (f : Bytes → Bytes) (text : List Char) : List Char :=
  match textBytes text with
  | some bytes => hexText (f bytes)
  | none => text

theorem textBytes_rewriteText (f : Bytes → Bytes) {text : List Char} {bytes : Bytes}
    (written : textBytes text = some bytes) :
    textBytes (rewriteText f text) = some (f bytes) := by
  unfold rewriteText
  rw [written]
  exact textBytes_hexText (f bytes)

/-- The functions of `ethers` on hex text. -/
def textEthers (hash : Bytes → Bytes) (hash_length : ∀ bytes, (hash bytes).length = 32) :
    ByteEthers (List Char) hash where
  getBytes := textBytes
  hexlify := rewriteText id
  keccak256 := rewriteText hash
  toBeHex := rewriteText Hex.strip
  getBytes_hexlify := textBytes_rewriteText id
  getBytes_keccak256 := textBytes_rewriteText hash
  hash_length := hash_length
  getBytes_toBeHex written nonempty :=
    ⟨_, textBytes_rewriteText Hex.strip written, Hex.strip_shortest nonempty⟩

/-! ### Two revelations -/

namespace Sample

/-- The byte `0xab`, 32 times. -/
def plainBytes : Bytes := List.replicate 32 0xab

/-- `keccak256` of the number one, in one byte and in 32, and of two values after each other. -/
def keccakBytes (bytes : Bytes) : Bytes :=
  if bytes = [1] then
    Sample.wordBytes 0x5fe7f977e71dba2ea1a68e21057beebb9be2ac30c6410aa38d4f3fbe41dcffd2
  else if bytes = Sample.wordBytes 1 then
    Sample.wordBytes 0xb10e2d527612073b26eecdfd717e6a320cf44b4afac2b0732d9fcbe2b7fa0cf6
  else if bytes = plainBytes then
    Sample.wordBytes 0x7d3a608bb850f47c2d77d6be73b8f93c94a80264b7bb3cc5c7d2fb54d07ef6b9
  else if bytes = Sample.wordBytes 0x7d3a608bb850f47c2d77d6be73b8f93c94a80264b7bb3cc5c7d2fb54d07ef6b9 then
    Sample.wordBytes 0xda3cbdb11b9992efff8480118052300c383f2df80454c77fa86afc1e55fd2123
  else Sample.wordBytes 0

theorem keccakBytes_length (bytes : Bytes) : (keccakBytes bytes).length = 32 := by
  unfold keccakBytes
  repeat' split
  all_goals rfl

/-- The hash functions on byte strings. -/
def keccak : Keccak Bytes where
  keccak256 words := keccakBytes words.flatten
  requestHash := Sample.keyBytes
  requestHash_injective _ _ same := Sample.keyBytes_injective same
  shortHash _ := Dice.Sample.slot
  word := Sample.wordBytes

def ethers : ByteEthers (List Char) (chainHash keccak) :=
  textEthers (chainHash keccak) fun bytes => keccakBytes_length [bytes].flatten

end Sample

/-- Two turns on values without a zero byte in front. -/
theorem constructProviderCommitment_iff_plain :
    (∀ i < 2, (Dice.constructProviderCommitment Sample.keccak i Sample.plainBytes).head? ≠ some 0) ∧
      Sample.ethers.getBytes (constructProviderCommitment Sample.ethers 2
          (hexText Sample.plainBytes)) =
        some (Dice.constructProviderCommitment Sample.keccak 2 Sample.plainBytes) := by
  have given : Sample.ethers.getBytes (hexText Sample.plainBytes) = some Sample.plainBytes :=
    textBytes_hexText _
  have plain : ∀ i < 2, (Dice.constructProviderCommitment Sample.keccak i Sample.plainBytes).head? ≠
      some 0 := by
    decide +kernel
  refine ⟨plain, (constructProviderCommitment_iff Sample.ethers given rfl 2 ?_).mpr plain⟩
  intro i below hashed written _
  have same : ∀ i < 2, Sample.ethers.getBytes (Sample.ethers.toBeHex
      (constructProviderCommitment Sample.ethers i (hexText Sample.plainBytes))) =
        some (Dice.constructProviderCommitment Sample.keccak i Sample.plainBytes) := by
    decide +kernel
  exact Option.some.inj (written.symm.trans (same i below))

/-- One turn on the number one: `toBeHex` leaves one byte. -/
theorem constructProviderCommitment_differs :
    Sample.ethers.getBytes (hexText (Sample.wordBytes 1)) = some (Sample.wordBytes 1) ∧
      Sample.ethers.getBytes (constructProviderCommitment Sample.ethers 1
          (hexText (Sample.wordBytes 1))) ≠
        some (Dice.constructProviderCommitment Sample.keccak 1 (Sample.wordBytes 1)) := by
  decide +kernel

/-! ### The shortest chains -/

namespace Sample

/-- Strings that are the values themselves. -/
def symbolicEthers : Ethers Sym Sym (chainHash symbolic) where
  getBytes := some
  hexlify := id
  keccak256 := chainHash symbolic
  getBytes_hexlify written := written
  getBytes_keccak256 written := by
    cases written
    rfl

end Sample

/-- The chain of the deployment. -/
theorem generateHashChain_servable_iff_deployed :
    Servable Sample.symbolicEthers
      (generateHashChain Sample.symbolicEthers (Dice.Sample.value 7) 8) 8 :=
  (generateHashChain_servable_iff Sample.symbolicEthers symbolic_injective rfl
    (by decide)).mpr (by decide)

example : (generateHashChain Sample.symbolicEthers (Dice.Sample.value 7) 8).commitment =
    some (Dice.Sample.value 0) := by decide

/-- A chain of one value, which `registerFor` admits: no commitment, and one revelation too many. -/
theorem generateHashChain_one :
    generateHashChain Sample.symbolicEthers (.atom 77) 1 = ⟨none, [.atom 77]⟩ ∧
      ¬ Servable Sample.symbolicEthers (generateHashChain Sample.symbolicEthers (.atom 77) 1) 1 := by
  have made : generateHashChain Sample.symbolicEthers (.atom 77) 1 = ⟨none, [.atom 77]⟩ := rfl
  refine ⟨made, fun servable => ?_⟩
  have entries := servable.entries
  rw [made] at entries
  cases entries

end DiceProtocol

end Dice
