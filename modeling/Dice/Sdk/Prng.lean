/-
**The pseudorandom numbers of the Solidity SDK.**

* `nextBytes32`, `randUint` — each draw hashes the seed with a nonce that counts up, checked.
* `randomPermutation` — an array of the numbers below the length, shuffled by swaps.
* `randomPermutation_eq` — what it returns, or how it panics.
* `randomPermutation_shuffles` — no division by zero and no access out of bounds; one draw for each
  entry; a permutation, which the indices determine one to one, so that uniform indices give a uniform
  permutation.

The last nonce cannot be drawn with, and the array must fit in memory. Whether it fits is a parameter.
-/

import Dice.Contract.Symbolic
import Dice.Library.Hex
import Dice.Library.Shuffle

open scoped Nat ENNReal

namespace Dice

open Shuffle

/-- Why a function panics. -/
inductive Panic where
  | overflow
  | divisionByZero
  | outOfBounds
  | allocation
  deriving DecidableEq, Repr

/-- `PRNG`. -/
structure PRNG (Bytes32 : Type) where
  seed : Bytes32
  nonce : ℕ
  nonce_lt : nonce < 2 ^ 256

namespace PRNG

/-! ### Checked operations -/

/-- `+` of `uint256`. -/
def checkedAdd (a b : ℕ) : Except Panic ℕ :=
  if a + b < 2 ^ 256 then .ok (a + b) else .error .overflow

/-- `-`. -/
def checkedSub (a b : ℕ) : Except Panic ℕ := if b ≤ a then .ok (a - b) else .error .overflow

/-- `%`. -/
def checkedMod (a b : ℕ) : Except Panic ℕ := if b = 0 then .error .divisionByZero else .ok (a % b)

/-- `array[i]`. -/
def readAt (array : Array ℕ) (i : ℕ) : Except Panic ℕ :=
  match array[i]? with
  | some entry => .ok entry
  | none => .error .outOfBounds

/-- `array[i] = entry`. -/
def writeAt (array : Array ℕ) (i entry : ℕ) : Except Panic (Array ℕ) :=
  if i < array.size then .ok (array.setIfInBounds i entry) else .error .outOfBounds

/-- `(array[i], array[j]) = (array[j], array[i])`. -/
def swapAt (array : Array ℕ) (i j : ℕ) : Except Panic (Array ℕ) := do
  let first ← readAt array j
  let second ← readAt array i
  let array ← writeAt array i first
  writeAt array j second

/-- `for (uint256 i = 0; i < length; i++)`, from turn `i` on. -/
def loop {S : Type} (body : ℕ → S → Except Panic S) : ℕ → ℕ → S → Except Panic S
  | _, 0, s => .ok s
  | i, turns + 1, s => do
      let s ← body i s
      loop body (i + 1) turns s

/-! ### The contract -/

section Functions

variable {Bytes32 : Type} (K : Keccak Bytes32) (uint256 : Bytes32 → ℕ) (allocates : ℕ → Bool)

/-- `nextBytes32`. -/
def nextBytes32 (state : PRNG Bytes32) : Except Panic (Bytes32 × PRNG Bytes32) :=
  let result := K.keccak256 [state.seed, K.word state.nonce]
  if fits : state.nonce + 1 < 2 ^ 256 then
    .ok (result, ⟨state.seed, state.nonce + 1, fits⟩)
  else .error .overflow

/-- `randUint`. -/
def randUint (state : PRNG Bytes32) : Except Panic (ℕ × PRNG Bytes32) := do
  let (result, state) ← nextBytes32 K state
  pure (uint256 result, state)

/-- `new uint256[](length)`. -/
def newArray (length : ℕ) : Except Panic (Array ℕ) :=
  if allocates length then .ok (.replicate length 0) else .error .allocation

/-- One turn of the second loop. -/
def shuffleStep (length i : ℕ) :
    PRNG Bytes32 × Array ℕ → Except Panic (PRNG Bytes32 × Array ℕ)
  | (state, permutation) => do
      let (random, state) ← randUint K uint256 state
      let remaining ← checkedSub length i
      let remainder ← checkedMod random remaining
      let j ← checkedAdd i remainder
      let permutation ← swapAt permutation i j
      pure (state, permutation)

/-- `randomPermutation`. -/
def randomPermutation (state : PRNG Bytes32) (length : ℕ) :
    Except Panic (Array ℕ × PRNG Bytes32) := do
  let permutation ← newArray allocates length
  let permutation ← loop (fun i permutation => writeAt permutation i i) 0 length permutation
  let (state, permutation) ← loop (shuffleStep K uint256 length) 0 length (state, permutation)
  pure (permutation, state)

/-- The state after a number of draws. -/
def after (state : PRNG Bytes32) (draws : ℕ) (fits : state.nonce + draws < 2 ^ 256) : PRNG Bytes32 :=
  ⟨state.seed, state.nonce + draws, fits⟩

/-- The index for the swap in turn `i`. -/
def drawnIndex (state : PRNG Bytes32) (length i : ℕ) : ℕ :=
  i + uint256 (K.keccak256 [state.seed, K.word (state.nonce + i)]) % (length - i)

/-- **The indices that are drawn.** -/
def drawnIndices (state : PRNG Bytes32) (length : ℕ) : List ℕ :=
  (List.range length).map (drawnIndex K uint256 state length)

end Functions

section Steps

variable {Bytes32 : Type} {K : Keccak Bytes32} {uint256 : Bytes32 → ℕ} {allocates : ℕ → Bool}
variable {state : PRNG Bytes32} {array : Array ℕ} {length i j turns : ℕ}

theorem readAt_eq (inside : i < array.size) : readAt array i = .ok array[i] := by
  unfold readAt
  rw [Array.getElem?_eq_getElem inside]

theorem writeAt_eq (inside : i < array.size) (entry : ℕ) :
    writeAt array i entry = .ok (array.set i entry) := by
  unfold writeAt
  rw [if_pos inside, Array.setIfInBounds, dif_pos inside]

theorem swapAt_eq (inside : i < array.size) (within : j < array.size) :
    swapAt array i j = .ok (array.swapIfInBounds i j) := by
  unfold swapAt
  rw [readAt_eq within, readAt_eq inside]
  show (writeAt array i array[j] >>= fun array' => writeAt array' j array[i]) = _
  rw [writeAt_eq inside]
  show writeAt (array.set i array[j]) j array[i] = _
  rw [writeAt_eq (by rwa [Array.size_set]), Array.swapIfInBounds, dif_pos inside, dif_pos within]
  rfl

/-- The first loop counts up. -/
theorem fill_loop (size : array.size = i + turns) (filled : ∀ k < i, array[k]? = some k) :
    loop (fun i permutation => writeAt permutation i i) i turns array = .ok (.range (i + turns)) := by
  induction turns generalizing i array with
  | zero =>
    refine congrArg Except.ok ?_
    apply Array.ext_getElem?
    intro k
    by_cases before : k < i
    · rw [filled k before, Array.getElem?_eq_getElem (by rw [Array.size_range]; exact before),
        Array.getElem_range]
    · rw [Array.getElem?_eq_none (by omega),
        Array.getElem?_eq_none (by rw [Array.size_range]; omega)]
  | succ turns ih =>
    have inside : i < array.size := by omega
    show (writeAt array i i >>= _) = _
    have turn : i + (turns + 1) = i + 1 + turns := by omega
    rw [writeAt_eq inside, turn]
    show loop _ (i + 1) turns (array.set i i) = _
    refine ih (by rw [Array.size_set]; omega) fun k before => ?_
    rw [Array.getElem?_set]
    split
    · next same => rw [same]
    · next other => exact filled k (by omega)

theorem drawnIndex_within (inside : i < length) :
    i ≤ drawnIndex K uint256 state length i ∧ drawnIndex K uint256 state length i < length := by
  have remainder := Nat.mod_lt (uint256 (K.keccak256 [state.seed, K.word (state.nonce + i)]))
    (show 0 < length - i by omega)
  unfold drawnIndex
  omega

/-- A draw. -/
theorem randUint_after (fits : state.nonce + i < 2 ^ 256) :
    randUint K uint256 (state.after i fits) =
      if next : state.nonce + (i + 1) < 2 ^ 256 then
        .ok (uint256 (K.keccak256 [state.seed, K.word (state.nonce + i)]), state.after (i + 1) next)
      else .error .overflow := by
  unfold randUint
  by_cases next : state.nonce + (i + 1) < 2 ^ 256
  · have drawn : nextBytes32 K (state.after i fits) =
        .ok (K.keccak256 [state.seed, K.word (state.nonce + i)], state.after (i + 1) next) :=
      dif_pos next
    rw [drawn, dif_pos next]
    rfl
  · have refused : nextBytes32 K (state.after i fits) = .error .overflow := dif_neg next
    rw [refused, dif_neg next]
    rfl

/-- **One turn**: a draw, and a swap with the index that is drawn. -/
theorem shuffleStep_eq (inside : i < length) (typed : length < 2 ^ 256)
    (size : array.size = length) (fits : state.nonce + i < 2 ^ 256) :
    shuffleStep K uint256 length i (state.after i fits, array) =
      if next : state.nonce + (i + 1) < 2 ^ 256 then
        .ok (state.after (i + 1) next, array.swapIfInBounds i (drawnIndex K uint256 state length i))
      else .error .overflow := by
  obtain ⟨later, within⟩ : i ≤ drawnIndex K uint256 state length i ∧ _ := drawnIndex_within inside
  show (randUint K uint256 (state.after i fits) >>= _) = _
  rw [randUint_after]
  by_cases next : state.nonce + (i + 1) < 2 ^ 256
  · have remaining : checkedSub length i = .ok (length - i) := if_pos inside.le
    have remainder : ∀ random, checkedMod random (length - i) = .ok (random % (length - i)) :=
      fun _ => if_neg (by omega)
    have index : checkedAdd i
        (uint256 (K.keccak256 [state.seed, K.word (state.nonce + i)]) % (length - i)) =
          .ok (drawnIndex K uint256 state length i) :=
      if_pos (Nat.lt_trans within typed)
    have swapped : swapAt array i (drawnIndex K uint256 state length i) = _ :=
      swapAt_eq (by omega) (by omega)
    rw [dif_pos next, dif_pos next]
    show (checkedSub length i >>= _) = _
    rw [remaining]
    show (checkedMod _ (length - i) >>= _) = _
    rw [remainder]
    show (checkedAdd i _ >>= _) = _
    rw [index]
    show (swapAt array i _ >>= _) = _
    rw [swapped]
    rfl
  · rw [dif_neg next, dif_neg next]
    rfl

/-- **The second loop** swaps with the indices that are drawn, or stops at the last nonce. -/
theorem shuffle_loop (typed : length < 2 ^ 256) (here : i + turns = length)
    (size : array.size = length) (fits : state.nonce + i < 2 ^ 256) :
    loop (shuffleStep K uint256 length) i turns (state.after i fits, array) =
      if all : state.nonce + length < 2 ^ 256 then
        .ok (state.after length all,
          swaps i ((List.range' i turns).map (drawnIndex K uint256 state length)) array)
      else .error .overflow := by
  induction turns generalizing i array with
  | zero =>
    obtain rfl : i = length := here
    rw [dif_pos fits]
    rfl
  | succ turns ih =>
    show (shuffleStep K uint256 length i (state.after i fits, array) >>= _) = _
    rw [shuffleStep_eq (by omega) typed size fits]
    by_cases next : state.nonce + (i + 1) < 2 ^ 256
    · rw [dif_pos next]
      exact ih (by omega) (by rwa [Array.size_swapIfInBounds]) next
    · have last : ¬ state.nonce + length < 2 ^ 256 := by omega
      rw [dif_neg next, dif_neg last]
      rfl

/-- **What `randomPermutation` returns**, or how it panics. -/
theorem randomPermutation_eq (typed : length < 2 ^ 256) :
    randomPermutation K uint256 allocates state length =
      if allocates length then
        if fits : state.nonce + length < 2 ^ 256 then
          .ok (swaps 0 (drawnIndices K uint256 state length) (.range length), state.after length fits)
        else .error .overflow
      else .error .allocation := by
  unfold randomPermutation newArray
  by_cases allocated : allocates length = true
  · rw [if_pos allocated, if_pos allocated]
    show (loop (fun i permutation => writeAt permutation i i) 0 length _ >>= _) = _
    rw [fill_loop (by rw [Array.size_replicate, Nat.zero_add])
      fun k before => absurd before (Nat.not_lt_zero k)]
    show (loop (shuffleStep K uint256 length) 0 length
      (state.after 0 state.nonce_lt, .range (0 + length)) >>= _) = _
    rw [Nat.zero_add, shuffle_loop typed (Nat.zero_add length) Array.size_range]
    by_cases fits : state.nonce + length < 2 ^ 256
    · rw [dif_pos fits, dif_pos fits]
      unfold drawnIndices
      rw [List.range_eq_range']
      rfl
    · rw [dif_neg fits, dif_neg fits]
      rfl
  · rw [if_neg allocated, if_neg allocated]
    rfl

/-- It panics for want of nonces or of memory. -/
theorem panic_eq (typed : length < 2 ^ 256) {panic : Panic}
    (panics : randomPermutation K uint256 allocates state length = .error panic) :
    panic = .overflow ∨ panic = .allocation := by
  rw [randomPermutation_eq typed] at panics
  split at panics
  · split at panics
    · cases panics
    · exact .inl (Except.error.inj panics).symm
  · exact .inr (Except.error.inj panics).symm

theorem drawnIndices_valid : Indices 0 length (drawnIndices K uint256 state length) where
  length := by rw [drawnIndices, List.length_map, List.length_range, Nat.zero_add]
  bounds k j here := by
    rw [drawnIndices, List.getElem?_map, Option.map_eq_some_iff] at here
    obtain ⟨i, turn, rfl⟩ := here
    obtain ⟨inside, rfl⟩ := List.getElem?_eq_some_iff.mp turn
    rw [List.length_range] at inside
    rw [List.getElem_range, Nat.zero_add]
    exact drawnIndex_within inside

theorem range_nodup : (Array.range length).toList.Nodup := by
  rw [Array.toList_range]
  exact List.nodup_range

/-- **A shuffle.** Neither a division by zero nor an access out of bounds happens, for every state and
every length. If the array fits in memory and there are nonces left, then each entry takes one draw, and
the result is the permutation of the indices that are drawn. The sequences of indices and the
permutations correspond one to one, and uniform indices give each permutation with the same
probability. -/
theorem randomPermutation_shuffles (state : PRNG Bytes32) (typed : length < 2 ^ 256) :
    (randomPermutation K uint256 allocates state length ≠ .error .divisionByZero ∧
      randomPermutation K uint256 allocates state length ≠ .error .outOfBounds) ∧
    (∀ fits : state.nonce + length < 2 ^ 256, allocates length = true → ∃ permutation : Array ℕ,
      randomPermutation K uint256 allocates state length =
        .ok (permutation, state.after length fits) ∧
      permutation.toList.Perm (List.range length) ∧
      Indices 0 length (drawnIndices K uint256 state length) ∧
      permutation = swaps 0 (drawnIndices K uint256 state length) (.range length)) ∧
    Set.BijOn (fun js => swaps 0 js (.range length)) {js | Indices 0 length js}
      {permutation | permutation.toList.Perm (List.range length)} ∧
    (∀ permutation : Array ℕ, permutation.toList.Perm (List.range length) →
      shuffled (.range length) permutation = (length ! : ℝ≥0∞)⁻¹) := by
  have bijOn : Set.BijOn (fun js => swaps 0 js (.range length)) _ _ := swaps_bijOn range_nodup
  rw [Array.size_range, Array.toList_range] at bijOn
  refine ⟨⟨fun panics => ?_, fun panics => ?_⟩, fun fits allocated => ?_, bijOn,
    fun permutation perm => ?_⟩
  · rcases panic_eq typed panics with other | other
    · cases other
    · cases other
  · rcases panic_eq typed panics with other | other
    · cases other
    · cases other
  · rw [randomPermutation_eq typed, if_pos allocated, dif_pos fits]
    exact ⟨_, rfl, bijOn.mapsTo drawnIndices_valid, drawnIndices_valid, rfl⟩
  · have perm' : permutation.toList.Perm (Array.range length).toList := by
      rwa [Array.toList_range]
    have uniform := swaps_uniform range_nodup perm'
    rwa [Array.size_range] at uniform

end Steps

namespace Sample

/-- The byte `0xcd`, 32 times. -/
def seed : Bytes := List.replicate 32 0xcd

/-- `keccak256` of the seed with the nonces 0, 1 and 2. -/
def drawBytes (words : List Bytes) : Bytes :=
  if words = [seed, Dice.Sample.wordBytes 0] then
    Dice.Sample.wordBytes 0x729a52d3615aaf5465e9bc938bf65c128bdf72abd751cbe4c0c1ac724a02d3f2
  else if words = [seed, Dice.Sample.wordBytes 1] then
    Dice.Sample.wordBytes 0x0f3cdf2e881a47c7e0b1902158d2f766703db6cadab367a210ba19fdec8417f9
  else Dice.Sample.wordBytes 0xda8cc538ff1c883bc53d1d3d8d5d4029fe6b488525932a7189b0e21b03e1f9c5

def keccak : Keccak Bytes where
  keccak256 := drawBytes
  requestHash := Dice.Sample.keyBytes
  requestHash_injective _ _ same := Dice.Sample.keyBytes_injective same
  shortHash _ := Dice.Sample.slot
  word := Dice.Sample.wordBytes

/-- The largest array has `2 ^ 64 - 1` entries. -/
def allocates (length : ℕ) : Bool := length < 2 ^ 64

theorem last_lt : 2 ^ 256 - 1 < 2 ^ 256 := by decide

theorem first_lt : 0 < 2 ^ 256 := by decide

/-- The state before the last nonce. -/
def lastState : PRNG Bytes := ⟨seed, 2 ^ 256 - 1, last_lt⟩

def firstState : PRNG Bytes := ⟨seed, 0, first_lt⟩

theorem three_fits : firstState.nonce + 3 < 2 ^ 256 := by decide

end Sample

/-- Three entries: the draws give the indices 2, 2 and 2. -/
example : (randomPermutation Sample.keccak Hex.value Sample.allocates Sample.firstState 3).map
    Prod.fst = .ok #[2, 0, 1] := by
  decide +kernel

/-- Three entries of a new contract. -/
theorem randomPermutation_shuffles_three :
    ∃ permutation : Array ℕ,
      randomPermutation Sample.keccak Hex.value Sample.allocates Sample.firstState 3 =
        .ok (permutation, Sample.firstState.after 3 Sample.three_fits) ∧
      permutation.toList.Perm (List.range 3) := by
  have three : 3 < 2 ^ 256 := by decide
  have allocated : Sample.allocates 3 = true := by decide
  obtain ⟨permutation, returned, perm, _⟩ :=
    (randomPermutation_shuffles Sample.firstState three).2.1 Sample.three_fits allocated
  exact ⟨permutation, returned, perm⟩

/-- **The last nonce**: one entry is asked for, and the nonce overflows. A length that no memory holds
panics, too. -/
theorem randomPermutation_panics :
    randomPermutation Sample.keccak Hex.value Sample.allocates Sample.lastState 1 =
        .error .overflow ∧
      randomPermutation Sample.keccak Hex.value Sample.allocates Sample.firstState (2 ^ 64) =
        .error .allocation := by
  have one : Sample.allocates 1 = true := by decide
  have more : ¬ Sample.allocates (2 ^ 64) = true := by decide
  rw [randomPermutation_eq (by decide), randomPermutation_eq (by decide), if_pos one, if_neg more]
  exact ⟨dif_neg (by decide), rfl⟩

end PRNG

end Dice
