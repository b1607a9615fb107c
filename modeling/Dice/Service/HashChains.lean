/-
**The provider's hash chains**: `PebbleHashChain` and `HashChainState`.

A `PebbleHashChain` keeps every `sampleInterval`-th value, counted from the secret's end, and hashes
forward from the nearest one. `HashChainState` keeps several chains, each from a sequence number on.

* `revealIth_new` — the value at index `i` of a chain of length `n` is the secret hashed `n - i`
  times, whatever the sample interval; no index and no subtraction goes wrong.
* `new_panics` — from `2 ^ 58` values on there is no chain, since a `Vec` holds no more bytes.
* `reveal_of_split` — which chain answers for a sequence number.

`usize` is as wide as `u64`, so the conversions between them keep every value. There is memory for
every `Vec` of a size that Rust allows.
-/

import Dice.Library.U64
import Dice.Library.HashChain

namespace Dice

open HashChain (IsLink)

variable {B : Type}

/-- The errors of both, and a panic: an index out of bounds, a subtraction below zero, a division by
zero or a failed assertion. -/
inductive ChainError where
  | indexNotInRange
  | lengthsDiffer
  | chainNotAvailable
  | panicked
  deriving DecidableEq, Repr

/-- A subtraction of `usize` numbers, which panics below zero. -/
def subUsize (a b : ℕ) : Except ChainError ℕ := if b ≤ a then .ok (a - b) else .error .panicked

/-- A division of `usize` numbers, which panics by zero. -/
def divUsize (a b : ℕ) : Except ChainError ℕ := if 0 < b then .ok (a / b) else .error .panicked

/-- `Vec::with_capacity` for 32-byte values, which panics when they take more bytes than
`isize::MAX`. -/
def vecWithCapacity (capacity : ℕ) : Except ChainError (List B) :=
  if capacity * 32 < 2 ^ 63 then .ok [] else .error .panicked

/-- `PebbleHashChain`. -/
structure PebbleHashChain (B : Type) where
  hash : List B
  sampleInterval : ℕ
  length : ℕ
  deriving DecidableEq, Repr

namespace PebbleHashChain

section Functions

variable (digest : B → B)

/-- The loop of `new`, with as many turns as are left. -/
def sampleLoop (sampleInterval : ℕ) : ℕ → ℕ → B → List B → List B
  | 0, _, _, hash => hash
  | turns + 1, i, current, hash =>
      let current := digest current
      let hash := if i % sampleInterval = 0 then hash ++ [current] else hash
      sampleLoop sampleInterval turns (i + 1) current hash

/-- `PebbleHashChain::new`. It panics when the assertion on the interval fails, or when there is no
`Vec` of the length. -/
def new (secret : B) (length sampleInterval : ℕ) : Except ChainError (PebbleHashChain B) :=
  if sampleInterval > 0 then do
    let hash ← vecWithCapacity length
    let current := digest secret
    let hash := hash ++ [current]
    let hash := sampleLoop digest sampleInterval (length - 1) 1 current hash
    pure { hash := hash.reverse, sampleInterval, length }
  else .error .panicked

/-- The loop of `reveal_ith`. -/
def hashDown (i : ℕ) : ℕ → B → B
  | 0, val => val
  | iIndex + 1, val => if iIndex + 1 > i then hashDown i iIndex (digest val) else val

def len (chain : PebbleHashChain B) : ℕ := chain.length

/-- `PebbleHashChain::reveal_ith`. -/
def revealIth (chain : PebbleHashChain B) (i : ℕ) : Except ChainError B :=
  if i < chain.len then do
    let last ← subUsize chain.len 1
    let indexFromEnd ← divUsize (← subUsize last i) chain.sampleInterval
    let iIndex ← subUsize last (indexFromEnd * chain.sampleInterval)
    let index ← subUsize (← subUsize chain.hash.length 1) indexFromEnd
    match chain.hash[index]? with
    | some val => .ok (hashDown digest i iIndex val)
    | none => .error .panicked
  else .error .indexNotInRange

end Functions

section Values

variable {digest : B → B} {secret : B} {length sampleInterval : ℕ}

/-- The samples among the first `i` values: the secret hashed `k * sampleInterval + 1` times. -/
def samples (digest : B → B) (secret : B) (sampleInterval i : ℕ) : List B :=
  (List.range ((i - 1) / sampleInterval + 1)).map fun k => digest^[k * sampleInterval + 1] secret

/-- One more value is a sample exactly when its index is a multiple of the interval. -/
theorem samples_succ {i : ℕ} (started : 0 < i) :
    samples digest secret sampleInterval (i + 1) =
      if i % sampleInterval = 0 then
        samples digest secret sampleInterval i ++ [digest^[i + 1] secret]
      else samples digest secret sampleInterval i := by
  obtain ⟨j, rfl⟩ := Nat.exists_eq_add_of_lt started
  simp only [Nat.zero_add] at *
  have next : (j + 1) / sampleInterval =
      j / sampleInterval + if (j + 1) % sampleInterval = 0 then 1 else 0 := by
    rw [Nat.succ_div]
    simp only [Nat.dvd_iff_mod_eq_zero]
  unfold samples
  rw [Nat.add_sub_cancel, Nat.add_sub_cancel, next]
  split
  · next multiple =>
    rw [List.range_succ, List.map_append, List.map_singleton]
    have whole : (j / sampleInterval + 1) * sampleInterval = j + 1 := by
      rw [if_pos multiple] at next
      rw [← next]
      exact Nat.div_mul_cancel (Nat.dvd_of_mod_eq_zero multiple)
    rw [whole]
  · rfl

/-- **What the loop of `new` collects.** -/
theorem sampleLoop_eq (digest : B → B) (secret : B) (sampleInterval turns : ℕ) :
    ∀ {i : ℕ}, 0 < i → sampleLoop digest sampleInterval turns i (digest^[i] secret)
      (samples digest secret sampleInterval i) =
        samples digest secret sampleInterval (i + turns) := by
  induction turns with
  | zero => exact fun _ => rfl
  | succ turns ih =>
    intro i started
    have step := ih (Nat.succ_pos i)
    rw [Nat.succ_eq_add_one, samples_succ started, Nat.add_right_comm, Nat.add_assoc] at step
    rw [← step, sampleLoop, ← Function.iterate_succ_apply' digest i secret]

/-- What `new` makes. -/
def built (digest : B → B) (secret : B) (length sampleInterval : ℕ) : PebbleHashChain B where
  hash := (sampleLoop digest sampleInterval (length - 1) 1 (digest secret) [digest secret]).reverse
  sampleInterval := sampleInterval
  length := length

theorem vecWithCapacity_of_lt (fits : length < 2 ^ 58) :
    (vecWithCapacity length : Except ChainError (List B)) = .ok [] :=
  if_pos (by omega)

theorem vecWithCapacity_of_le (tooLong : 2 ^ 58 ≤ length) :
    (vecWithCapacity length : Except ChainError (List B)) = .error .panicked :=
  if_neg (by omega)

/-- **When `new` makes a chain**: the interval is positive, and a `Vec` has room for the length. -/
theorem new_ok {chain : PebbleHashChain B} :
    new digest secret length sampleInterval = .ok chain ↔
      0 < sampleInterval ∧ length < 2 ^ 58 ∧
        chain = built digest secret length sampleInterval := by
  unfold new
  by_cases positive : 0 < sampleInterval
  · rw [if_pos positive]
    by_cases fits : length < 2 ^ 58
    · rw [vecWithCapacity_of_lt fits]
      refine ⟨fun ok => ⟨positive, fits, (Except.ok.inj ok).symm⟩, fun ok => ?_⟩
      rw [ok.2.2]
      rfl
    · rw [vecWithCapacity_of_le (Nat.le_of_not_lt fits)]
      exact ⟨fun failed => (nomatch failed), fun ok => absurd ok.2.1 fits⟩
  · rw [if_neg positive]
    exact ⟨fun failed => (nomatch failed), fun ok => absurd ok.1 positive⟩

/-- The values that a chain keeps. -/
theorem built_hash (nonempty : 1 ≤ length) :
    (built digest secret length sampleInterval).hash =
      (samples digest secret sampleInterval length).reverse := by
  have first : [digest secret] = samples digest secret sampleInterval 1 := by
    unfold samples
    rw [Nat.sub_self, Nat.zero_div, List.range_one, List.map_singleton, Nat.zero_mul]
    rfl
  have loop := sampleLoop_eq digest secret sampleInterval (length - 1) Nat.one_pos
  rw [Function.iterate_one, ← first, Nat.add_sub_cancel' nonempty] at loop
  exact congrArg List.reverse loop

/-- The loop of `reveal_ith` hashes as often as the two indices differ. -/
theorem hashDown_eq {i : ℕ} (iIndex : ℕ) (val : B) :
    hashDown digest i iIndex val = digest^[iIndex - i] val := by
  induction iIndex generalizing val with
  | zero =>
    rw [Nat.zero_sub]
    rfl
  | succ iIndex ih =>
    unfold hashDown
    split
    · next above =>
      rw [ih, ← Function.iterate_succ_apply, Nat.succ_sub (Nat.lt_succ_iff.mp above)]
    · next below =>
      rw [Nat.sub_eq_zero_of_le (Nat.le_of_not_lt below)]
      rfl

/-- A chain made by `new` of at least one value. -/
def Made (digest : B → B) (chain : PebbleHashChain B) (secret : B) : Prop :=
  1 ≤ chain.len ∧ new digest secret chain.len chain.sampleInterval = .ok chain

/-- A chain that was made keeps every `sampleInterval`-th value. -/
theorem Made.hash_eq {chain : PebbleHashChain B} (made : chain.Made digest secret) :
    0 < chain.sampleInterval ∧
      chain.hash = (samples digest secret chain.sampleInterval chain.len).reverse := by
  obtain ⟨nonempty, ok⟩ := made
  obtain ⟨positive, _, same⟩ := new_ok.mp ok
  exact ⟨positive, (congrArg PebbleHashChain.hash same).trans (built_hash nonempty)⟩

theorem samples_length (digest : B → B) (secret : B) (sampleInterval i : ℕ) :
    (samples digest secret sampleInterval i).length = (i - 1) / sampleInterval + 1 := by
  rw [samples, List.length_map, List.length_range]

/-- The sample that is `indexFromEnd` places from the secret's end. -/
theorem samples_reverse (digest : B → B) (secret : B) {i indexFromEnd : ℕ}
    (kept : indexFromEnd ≤ (i - 1) / sampleInterval) :
    (samples digest secret sampleInterval i).reverse[(i - 1) / sampleInterval - indexFromEnd]? =
      some (digest^[indexFromEnd * sampleInterval + 1] secret) := by
  have size := samples_length digest secret sampleInterval i
  rw [List.getElem?_reverse (by omega), size, Nat.add_sub_cancel, Nat.sub_sub_self kept, samples,
    List.getElem?_map, List.getElem?_range (Nat.lt_succ_of_le kept)]
  rfl

/-- **The values of a chain.** Whatever the sample interval, the value at index `i` is the secret
hashed as often as there are values from `i` on. -/
theorem Made.revealIth {chain : PebbleHashChain B} (made : chain.Made digest secret) {i : ℕ}
    (inside : i < chain.len) :
    chain.revealIth digest i = .ok (digest^[chain.len - i] secret) := by
  obtain ⟨positive, hash⟩ := made.hash_eq
  have size : chain.hash.length = (chain.len - 1) / chain.sampleInterval + 1 := by
    rw [hash, List.length_reverse, samples_length]
  have kept : (chain.len - 1 - i) / chain.sampleInterval ≤
      (chain.len - 1) / chain.sampleInterval := Nat.div_le_div_right (Nat.sub_le _ _)
  have reached : (chain.len - 1 - i) / chain.sampleInterval * chain.sampleInterval ≤
      chain.len - 1 - i := Nat.div_mul_le_self _ _
  have found := samples_reverse digest secret kept
  rw [← hash] at found
  -- every subtraction stays above zero
  have last : subUsize chain.len 1 = .ok (chain.len - 1) := if_pos made.1
  have fromLast : subUsize (chain.len - 1) i = .ok (chain.len - 1 - i) := if_pos (by omega)
  have quotient : divUsize (chain.len - 1 - i) chain.sampleInterval =
      .ok ((chain.len - 1 - i) / chain.sampleInterval) := if_pos positive
  have iIndex : subUsize (chain.len - 1)
      ((chain.len - 1 - i) / chain.sampleInterval * chain.sampleInterval) =
        .ok (chain.len - 1 - (chain.len - 1 - i) / chain.sampleInterval * chain.sampleInterval) :=
    if_pos (by omega)
  have lastSample : subUsize chain.hash.length 1 =
      .ok ((chain.len - 1) / chain.sampleInterval) := by
    rw [size]
    exact if_pos (Nat.succ_le_succ (Nat.zero_le _))
  have index : subUsize ((chain.len - 1) / chain.sampleInterval)
      ((chain.len - 1 - i) / chain.sampleInterval) = .ok ((chain.len - 1) / chain.sampleInterval -
        (chain.len - 1 - i) / chain.sampleInterval) := if_pos kept
  unfold PebbleHashChain.revealIth
  rw [if_pos inside]
  simp only [last, fromLast, quotient, iIndex, lastSample, index, found, bind, Except.bind]
  rw [hashDown_eq, ← Function.iterate_add_apply]
  congr 2
  omega

/-- **Subsampling is invisible.** A chain of any length below `2 ^ 58`, with any sample interval but
0, reveals at index `i` the secret hashed `length - i` times, and nothing from its length on; it never
panics. -/
theorem revealIth_new (digest : B → B) (secret : B) {length sampleInterval : ℕ}
    (positive : 1 ≤ sampleInterval) (fits : length < 2 ^ 58) :
    ∃ chain, new digest secret length sampleInterval = .ok chain ∧ ∀ i,
      chain.revealIth digest i =
        if i < length then .ok (digest^[length - i] secret) else .error .indexNotInRange := by
  have ok : new digest secret length sampleInterval =
      .ok (built digest secret length sampleInterval) := new_ok.mpr ⟨positive, fits, rfl⟩
  refine ⟨built digest secret length sampleInterval, ok, fun i => ?_⟩
  by_cases inside : i < length
  · have made : (built digest secret length sampleInterval).Made digest secret :=
      ⟨Nat.one_le_of_lt inside, ok⟩
    rw [if_pos inside]
    exact made.revealIth inside
  · rw [if_neg inside]
    exact if_neg inside

/-- An interval of three does not divide a length of five. -/
theorem revealIth_new_uneven : ∃ chain, new Nat.succ 0 5 3 = .ok chain ∧ ∀ i,
    chain.revealIth Nat.succ i =
      if i < 5 then .ok (Nat.succ^[5 - i] 0) else .error .indexNotInRange :=
  revealIth_new Nat.succ 0 (by decide) (by decide)

/-- **There is no chain of `2 ^ 58` values.** They take `2 ^ 63` bytes, one more than `isize::MAX`. -/
theorem new_panics : new Nat.succ 0 (2 ^ 58) 1 = .error .panicked ∧
    ¬ ∃ chain, new Nat.succ 0 (2 ^ 58) 1 = .ok chain ∧ ∀ i, chain.revealIth Nat.succ i =
      if i < 2 ^ 58 then .ok (Nat.succ^[2 ^ 58 - i] 0) else .error .indexNotInRange := by
  refine ⟨?_, ?_⟩
  · unfold new
    rw [if_pos (by decide), vecWithCapacity_of_le (Nat.le_refl _)]
    rfl
  · rintro ⟨chain, ok, _⟩
    exact Nat.lt_irrefl _ (new_ok.mp ok).2.1

/-- The value at index `i`, as a link of the chain from the commitment `reveal_ith(0)`. -/
theorem Made.link {chain : PebbleHashChain B} (made : chain.Made digest secret) {commitment : B}
    (root : chain.revealIth digest 0 = .ok commitment) {i : ℕ} (inside : i < chain.len) :
    ∃ value, chain.revealIth digest i = .ok value ∧ IsLink digest commitment i value := by
  refine ⟨_, made.revealIth inside, ?_⟩
  rw [made.revealIth (Nat.lt_of_lt_of_le Nat.one_pos made.1)] at root
  cases root
  show digest^[i] (digest^[chain.len - i] secret) = digest^[chain.len - 0] secret
  rw [← Function.iterate_add_apply]
  congr 1
  omega

end Values

end PebbleHashChain

/-! ### Several chains -/

/-- `slice::partition_point`, on a slice that is partitioned. -/
def partitionPoint (pred : ℕ → Bool) (slice : List ℕ) : ℕ :=
  (slice.takeWhile pred).length

/-- `HashChainState`. -/
structure HashChainState (B : Type) where
  offsets : List ℕ
  hashChains : List (PebbleHashChain B)
  deriving DecidableEq, Repr

namespace HashChainState

/-- `HashChainState::new`. -/
def new (offsets : List ℕ) (hashChains : List (PebbleHashChain B)) :
    Except ChainError (HashChainState B) :=
  if offsets.length ≠ hashChains.length then .error .lengthsDiffer
  else .ok ⟨offsets, hashChains⟩

/-- `HashChainState::reveal`. -/
def reveal (digest : B → B) (state : HashChainState B) (sequenceNumber : ℕ) :
    Except ChainError B :=
  match partitionPoint (· ≤ sequenceNumber) state.offsets with
  | 0 => .error .chainNotAvailable
  | chainIndex + 1 =>
      match state.hashChains[chainIndex]?, state.offsets[chainIndex]? with
      | some chain, some offset => chain.revealIth digest (sequenceNumber - offset)
      | _, _ => .error .panicked

variable {digest : B → B}

/-- The partition point of offsets that are split at a number. -/
theorem partitionPoint_split {before after : List ℕ} {offset n : ℕ}
    (lower : ∀ x ∈ before, x ≤ n) (here : offset ≤ n) (upper : ∀ x ∈ after, n < x) :
    partitionPoint (· ≤ n) (before ++ offset :: after) = before.length + 1 := by
  have rest : after.takeWhile (fun x => decide (x ≤ n)) = [] := by
    cases after with
    | nil => rfl
    | cons first after =>
      have above := upper first List.mem_cons_self
      rw [List.takeWhile_cons_of_neg]
      simpa using above
  unfold partitionPoint
  rw [List.takeWhile_append_of_pos (by simpa using lower),
    List.takeWhile_cons_of_pos (by simpa using here), rest, List.length_append]
  rfl

/-- **Which chain answers.** The last one whose offset is not above the number. -/
theorem reveal_of_split {before after : List ℕ} {offset n : ℕ}
    {chainsBefore chainsAfter : List (PebbleHashChain B)} {chain : PebbleHashChain B}
    (same : before.length = chainsBefore.length) (lower : ∀ x ∈ before, x ≤ n)
    (here : offset ≤ n) (upper : ∀ x ∈ after, n < x) :
    (HashChainState.mk (before ++ offset :: after) (chainsBefore ++ chain :: chainsAfter)).reveal
      digest n = chain.revealIth digest (n - offset) := by
  unfold reveal
  rw [partitionPoint_split lower here upper]
  have offset_at : (before ++ offset :: after)[before.length]? = some offset := by simp
  have chain_at : (chainsBefore ++ chain :: chainsAfter)[before.length]? = some chain := by
    simp [same]
  simp only [offset_at, chain_at]

/-- One chain answers from its offset on. -/
theorem reveal_single {offset n : ℕ} (chain : PebbleHashChain B) (here : offset ≤ n) :
    (HashChainState.mk [offset] [chain]).reveal digest n = chain.revealIth digest (n - offset) :=
  @reveal_of_split B digest [] [] offset n [] [] chain rfl
    (fun _ member => absurd member List.not_mem_nil) here
    (fun _ member => absurd member List.not_mem_nil)

end HashChainState

end Dice
