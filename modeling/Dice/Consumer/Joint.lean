/-
**The oracle and its consumer, together.**

`CoinFlip` makes its requests to the real `DiceEntropy`, and gets its callbacks from it.

* `Both` — the two contracts.
* `Operation` — a call of either. A flip makes its request in one go, for `requestV2` calls nobody;
  and a reveal whose callback goes to the game delivers it in one go, for the callback calls nobody.
  Whatever else either contract calls stays open, and anything may be called meanwhile.
* `joint` — the component.
* `entropy_simulation`, `house_simulation` — its runs are runs of each contract, so that what was
  shown of either alone holds here.

The fee that a flip pays is the one the contract quotes, and the number it gets the one the contract
assigned. The environment still decides whether a callback has enough gas, and what the readings of
the gas counter are.
-/

import Dice.Consumer.Bankroll
import Dice.Contract.Lives
import Dice.Library.Simulation

set_option linter.unusedSectionVars false

namespace Dice.Joint

variable {Bytes32 : Type}

open CoinFlip (House Side)

/-- Where the two contracts are. -/
structure Addresses where
  entropy : Address
  coinFlip : Address
  entropy_ne_zero : entropy ≠ 0
  coinFlip_ne_zero : coinFlip ≠ 0

/-- The two contracts on their chain. -/
structure Both (Bytes32 : Type) where
  entropy : World Bytes32
  house : House Bytes32

inductive Operation (Bytes32 : Type) where
  /-- A call of the oracle. If it makes a callback to the game, `callback` says whether there was gas
  for it, and gives the return data of a failure and the gas that is left. -/
  | entropy (message : Message Bytes32) (callback : CallResult)
  /-- A call of the game. The fee in a flip is replaced by the one the oracle quotes. -/
  | house (message : CoinFlip.Message Bytes32)

/-- What waits for the reply to a call. -/
inductive Waiting (Bytes32 : Type) where
  | entropy (pending : Pending Bytes32)
  | house (pending : CoinFlip.Pending)

inductive Failure where
  | entropy (error : Revert)
  | house (error : CoinFlip.Error)
  deriving DecidableEq

abbrev Step (Bytes32 : Type) := CallStack.Outcome (Both Bytes32) (Waiting Bytes32) Failure

section Functions

variable (K : Keccak Bytes32) (odd : Bytes32 → Bool) (a : Addresses) [DecidableEq Bytes32]

/-- The callback that a waiting reveal makes: to whom, and its arguments. -/
def callee (w : World Bytes32) : Pending Bytes32 → Option (Address × ℕ × Address × Bytes32)
  | .limited req provider sequenceNumber _ _ randomNumber _ =>
      some ((w.state.read req).requester, sequenceNumber, provider, randomNumber)
  | .unlimited callAddress provider sequenceNumber _ _ randomNumber _ =>
      some (callAddress, sequenceNumber, provider, randomNumber)
  | _ => none

/-- The message of a request of the game. -/
def requestMsg (fee : ℕ) : Msg := ⟨a.coinFlip, fee, a.coinFlip_ne_zero⟩

/-- The message of a callback. -/
def callbackMsg : Msg := ⟨a.entropy, 0, a.entropy_ne_zero⟩

/-- `_entropyCallback` of the game, called by the oracle: whether it succeeded, and the game after
it. Without enough gas, and when it reverts, nothing has changed. -/
def answer (house : House Bytes32) (sequence : ℕ) (provider : Address) (randomNumber : Bytes32)
    (enoughGas : Bool) : Bool × House Bytes32 :=
  if enoughGas then
    match CoinFlip.entropyCallbackExternal odd house (callbackMsg a) sequence provider
      randomNumber with
    | .ok house => (true, house)
    | .error _ => (false, house)
  else (false, house)

/-- A call of the oracle. -/
def startEntropy (m : Message Bytes32) (callback : CallResult) (b : Both Bytes32) : Step Bytes32 :=
  match start K m b.entropy with
  | .reverted error => .reverted (.entropy error)
  | .done entropy => .done { b with entropy }
  | .calling entropy pending =>
      match callee entropy pending with
      | none => .calling { b with entropy } (.entropy pending)
      | some (recipient, sequence, provider, randomNumber) =>
          if recipient = a.coinFlip then
            let (success, house) := answer odd a b.house sequence provider randomNumber
              callback.success
            match resume K pending { callback with success } entropy with
            | .ok entropy => .done ⟨entropy, house⟩
            | .error error => .reverted (.entropy error)
          else .calling { b with entropy } (.entropy pending)

/-- `getFeeV2` as the game calls it. -/
def quotedFee (b : Both Bytes32) : ℕ :=
  getFeeV2 b.entropy.state b.house.storage.provider CoinFlip.callbackGas

/-- A flip, with its request. -/
def startFlip (msg : Msg) (guess : Side) (userRandom : Bytes32) (wager : ℕ) (b : Both Bytes32) :
    Step Bytes32 :=
  match CoinFlip.flip b.house msg guess wager (some (quotedFee b)) with
  | .error error => .reverted (.house error)
  | .ok (house, pending) =>
      match requestV2 K b.entropy (requestMsg a (quotedFee b)) b.house.storage.provider userRandom
          CoinFlip.callbackGas with
      | .error error => .reverted (.entropy error)
      | .ok (entropy, seq) =>
          match CoinFlip.resume K pending ⟨true, seq⟩ house with
          | .error error => .reverted (.house error)
          | .ok house => .done ⟨entropy, house⟩

/-- A call of the game. -/
def startHouse (m : CoinFlip.Message Bytes32) (b : Both Bytes32) : Step Bytes32 :=
  match m.call with
  | .flip guess userRandom wager _ => startFlip K a m.msg guess userRandom wager b
  | _ =>
      match CoinFlip.start odd m b.house with
      | .reverted error => .reverted (.house error)
      | .done house => .done { b with house }
      | .calling house pending => .calling { b with house } (.house pending)

def startBoth (operation : Operation Bytes32) (b : Both Bytes32) : Step Bytes32 :=
  match operation with
  | .entropy m callback => startEntropy K odd a m callback b
  | .house m => startHouse K odd a m b

/-- The rest of a call. The payments of the game revert when they fail. -/
def resumeBoth (waiting : Waiting Bytes32) (result : CallResult) (b : Both Bytes32) :
    Except Failure (Both Bytes32) :=
  match waiting with
  | .entropy pending =>
      match resume K pending result b.entropy with
      | .ok entropy => .ok { b with entropy }
      | .error error => .error (.entropy error)
  | .house pending =>
      if result.success then
        match CoinFlip.resume K pending ⟨true, 0⟩ b.house with
        | .ok house => .ok { b with house }
        | .error error => .error (.house error)
      else .error (.house .withdrawFailed)

/-- **The two contracts as one component.** -/
def joint : CallStack.Component (Both Bytes32) (Operation Bytes32) (Waiting Bytes32) CallResult
    Failure (Mined Bytes32) where
  start := startBoth K odd a
  succeeded := CallResult.success
  resume := resumeBoth K
  idle mined b := { b with entropy := mine mined b.entropy }

end Functions

abbrev Config (Bytes32 : Type) := CallStack.Config (Both Bytes32) (Waiting Bytes32)

abbrev Action (Bytes32 : Type) := CallStack.Action (Operation Bytes32) CallResult (Mined Bytes32)

/-- **Who calls**: neither contract calls the other but in the ways above, functions of other contracts
begin as calls of the oracle's model, and a reveal sees that the game has code. So the game is not the
oracle's vault, which would get its fees. -/
def Outside (K : Keccak Bytes32) [DecidableEq Bytes32] (a : Addresses) (operation : Operation Bytes32)
    (b : Both Bytes32) : Prop :=
  match operation with
  | .entropy m _ => m.msg.sender ≠ a.coinFlip ∧
      ∀ provider n u v startingGas endingGas req,
        m.call = .revealWithCallback provider n u v startingGas endingGas 0 →
        b.entropy.state.lookup K (provider, n) = some req → req.requester ≠ a.coinFlip
  | .house m => m.msg.sender ≠ a.entropy ∧ m.call ≠ .foreign

/-! ### Inversions -/

section Inversions

variable {K : Keccak Bytes32} {odd : Bytes32 → Bool} {a : Addresses} [DecidableEq Bytes32]
variable {b b' : Both Bytes32} {waiting : Waiting Bytes32}

/-- What the game makes of a callback: it refuses, or it accepts. -/
theorem answer_cases (odd : Bytes32 → Bool) (a : Addresses) (house : House Bytes32) (sequence : ℕ)
    (provider : Address) (randomNumber : Bytes32) (enoughGas : Bool) :
    answer odd a house sequence provider randomNumber enoughGas = (false, house) ∨
      ∃ house', answer odd a house sequence provider randomNumber enoughGas = (true, house') ∧
        CoinFlip.entropyCallbackExternal odd house (callbackMsg a) sequence provider randomNumber =
          .ok house' := by
  unfold answer
  split
  · split
    · next house' called => exact .inr ⟨house', rfl, called⟩
    · exact .inl rfl
  · exact .inl rfl

/-- A callback that left this game behind, and whether it succeeded. -/
def Answered (odd : Bytes32 → Bool) (a : Addresses) (house : House Bytes32) (sequence : ℕ)
    (provider : Address) (randomNumber : Bytes32) (success : Bool) (house' : House Bytes32) : Prop :=
  success = false ∧ house' = house ∨
    success = true ∧ CoinFlip.entropyCallbackExternal odd house (callbackMsg a) sequence provider
      randomNumber = .ok house'

/-- A call of the oracle that finishes: without a call, or with a callback to the game. -/
theorem startEntropy_done {m : Message Bytes32} {callback : CallResult}
    (started : startEntropy K odd a m callback b = .done b') :
    (start K m b.entropy = .done b'.entropy ∧ b'.house = b.house) ∨
      ∃ entropy pending sequence provider randomNumber result,
        start K m b.entropy = .calling entropy pending ∧
          callee entropy pending = some (a.coinFlip, sequence, provider, randomNumber) ∧
          Answered odd a b.house sequence provider randomNumber result.success b'.house ∧
          resume K pending result entropy = .ok b'.entropy := by
  unfold startEntropy at started
  split at started
  · cases started
  · next entropy done =>
    cases started
    exact .inl ⟨done, rfl⟩
  · next entropy pending calling =>
    split at started
    · cases started
    · next recipient sequence provider randomNumber called =>
      split at started
      · next here =>
        have answered := answer_cases odd a b.house sequence provider randomNumber
          callback.success
        subst here
        simp only at started
        split at started
        · next finished resumed =>
          cases started
          refine .inr ⟨entropy, pending, sequence, provider, randomNumber, _, calling, called, ?_,
            resumed⟩
          rcases answered with refused | ⟨house', accepted, called⟩
          · rw [refused]
            exact .inl ⟨rfl, rfl⟩
          · rw [accepted]
            exact .inr ⟨rfl, called⟩
        · cases started
      · cases started

/-- One that stays open calls somebody else. -/
theorem startEntropy_calling {m : Message Bytes32} {callback : CallResult}
    (started : startEntropy K odd a m callback b = .calling b' waiting) :
    ∃ pending, start K m b.entropy = .calling b'.entropy pending ∧ waiting = .entropy pending ∧
      b'.house = b.house ∧
      ∀ recipient sequence provider randomNumber,
        callee b'.entropy pending = some (recipient, sequence, provider, randomNumber) →
        recipient ≠ a.coinFlip := by
  unfold startEntropy at started
  split at started
  · cases started
  · cases started
  · next entropy pending calling =>
    split at started
    · next nobody =>
      cases started
      refine ⟨pending, calling, rfl, rfl, fun _ _ _ _ called => ?_⟩
      rw [nobody] at called
      cases called
    · next recipient sequence provider randomNumber called =>
      split at started
      · simp only at started
        split at started <;> cases started
      · next elsewhere =>
        cases started
        refine ⟨pending, calling, rfl, rfl, fun _ _ _ _ called' => ?_⟩
        rw [called] at called'
        cases called'
        exact elsewhere

/-- A flip that finishes. -/
structure Flipped (K : Keccak Bytes32) (a : Addresses) (msg : Msg) (guess : Side)
    (userRandom : Bytes32) (wager : ℕ) (b b' : Both Bytes32) where
  house : House Bytes32
  pending : CoinFlip.Pending
  seq : ℕ
  flip : CoinFlip.flip b.house msg guess wager (some (quotedFee b)) = .ok (house, pending)
  request : requestV2 K b.entropy (requestMsg a (quotedFee b)) b.house.storage.provider userRandom
    CoinFlip.callbackGas = .ok (b'.entropy, seq)
  rest : CoinFlip.resume K pending ⟨true, seq⟩ house = .ok b'.house

theorem startFlip_done {msg : Msg} {guess : Side} {userRandom : Bytes32} {wager : ℕ}
    (started : startFlip K a msg guess userRandom wager b = .done b') :
    Nonempty (Flipped K a msg guess userRandom wager b b') := by
  unfold startFlip at started
  split at started
  · cases started
  · next house pending flip =>
    split at started
    · cases started
    · next entropy seq request =>
      split at started
      · cases started
      · next house' rest =>
        cases started
        exact ⟨house, pending, seq, flip, request, rest⟩

theorem startFlip_calling {msg : Msg} {guess : Side} {userRandom : Bytes32} {wager : ℕ} :
    startFlip K a msg guess userRandom wager b ≠ .calling b' waiting := by
  intro started
  unfold startFlip at started
  split at started
  · cases started
  · split at started
    · cases started
    · split at started <;> cases started

/-- The other calls of the game. -/
theorem startHouse_done {m : CoinFlip.Message Bytes32}
    (started : startHouse K odd a m b = .done b') :
    (∃ guess userRandom wager quoted, m.call = .flip guess userRandom wager quoted ∧
        Nonempty (Flipped K a m.msg guess userRandom wager b b')) ∨
      CoinFlip.start odd m b.house = .done b'.house ∧ b'.entropy = b.entropy := by
  unfold startHouse at started
  split at started
  · next guess userRandom wager quoted call =>
    exact .inl ⟨guess, userRandom, wager, quoted, call, startFlip_done started⟩
  · split at started
    · cases started
    · next house done =>
      cases started
      exact .inr ⟨done, rfl⟩
    · cases started

theorem startHouse_calling {m : CoinFlip.Message Bytes32}
    (started : startHouse K odd a m b = .calling b' waiting) :
    ∃ pending, CoinFlip.start odd m b.house = .calling b'.house pending ∧
      waiting = .house pending ∧ b'.entropy = b.entropy := by
  unfold startHouse at started
  split at started
  · exact absurd started startFlip_calling
  · split at started
    · cases started
    · cases started
    · next house pending calling =>
      cases started
      exact ⟨pending, calling, rfl, rfl⟩

theorem resumeBoth_ok {result : CallResult} (resumed : resumeBoth K waiting result b = .ok b') :
    (∃ pending, waiting = .entropy pending ∧ resume K pending result b.entropy = .ok b'.entropy ∧
        b'.house = b.house) ∨
      ∃ pending, waiting = .house pending ∧ result.success = true ∧
        CoinFlip.resume K pending ⟨true, 0⟩ b.house = .ok b'.house ∧ b'.entropy = b.entropy := by
  unfold resumeBoth at resumed
  split at resumed
  · next pending =>
    split at resumed
    · next entropy ok =>
      cases resumed
      exact .inl ⟨pending, rfl, ok, rfl⟩
    · cases resumed
  · next pending =>
    split at resumed
    · next success =>
      split at resumed
      · next house ok =>
        cases resumed
        exact .inr ⟨pending, rfl, success, ok, rfl⟩
      · cases resumed
    · cases resumed

end Inversions

/-! ### What was shown of each contract holds here -/

/-- For the oracle, a payment by the game is a function of another contract. -/
def Waiting.toEntropy : Waiting Bytes32 → Pending Bytes32
  | .entropy pending => pending
  | .house _ => .foreign

/-- For the game, so is every call that the oracle makes to somebody else. -/
def Waiting.toHouse : Waiting Bytes32 → CoinFlip.Pending
  | .entropy _ => .foreign
  | .house pending => pending

section Simulations

variable {K : Keccak Bytes32} {odd : Bytes32 → Bool} {a : Addresses} [DecidableEq Bytes32]
variable {b b' : Both Bytes32}

/-- The request of a flip as a call of the oracle. -/
theorem Flipped.requested {msg : Msg} {guess : Side} {userRandom : Bytes32} {wager : ℕ}
    (flipped : Flipped K a msg guess userRandom wager b b') :
    start K ⟨requestMsg a (quotedFee b), .requestV2 b.house.storage.provider userRandom
      CoinFlip.callbackGas⟩ b.entropy = .done b'.entropy := by
  have payable : ¬ ((requestMsg a (quotedFee b)).value ≠ 0 ∧
      (Call.requestV2 b.house.storage.provider userRandom CoinFlip.callbackGas).payable = false) :=
    fun refused => by cases refused.2
  unfold start
  rw [if_neg payable]
  exact atomically_done.mpr (map_ok.mpr ⟨_, flipped.request, rfl⟩)

/-- A flip as a call of the game, with the fee that was quoted. -/
theorem Flipped.started (odd : Bytes32 → Bool) {msg : Msg} {guess : Side} {userRandom : Bytes32} {wager : ℕ}
    (flipped : Flipped K a msg guess userRandom wager b b') :
    CoinFlip.start odd ⟨msg, .flip guess userRandom wager (some (quotedFee b))⟩ b.house =
      .calling flipped.house flipped.pending := by
  have payable : ¬ (msg.value ≠ 0 ∧
      (CoinFlip.Call.flip guess userRandom wager (some (quotedFee b))).payable = false) :=
    fun refused => by cases refused.2
  unfold CoinFlip.start
  rw [if_neg payable]
  exact CoinFlip.waiting_calling.mpr flipped.flip

/-- A function of another contract may begin at any time. -/
theorem start_foreign (sender : Address) (nonzero : sender ≠ 0) (w : World Bytes32) :
    start K ⟨⟨sender, 0, nonzero⟩, .foreign⟩ w = .calling w .foreign := by
  unfold start
  rw [if_neg fun refused => refused.1 rfl]

theorem house_foreign (odd : Bytes32 → Bool) (sender : Address) (nonzero : sender ≠ 0) (h : House Bytes32) :
    CoinFlip.start odd ⟨⟨sender, 0, nonzero⟩, .foreign⟩ h = .calling h .foreign := by
  unfold CoinFlip.start
  rw [if_neg fun refused => refused.1 rfl]

/-- An accepted callback as a call of the game. -/
theorem house_callback {h h' : House Bytes32} {sequence : ℕ} {provider : Address}
    {randomNumber : Bytes32}
    (called : CoinFlip.entropyCallbackExternal odd h (callbackMsg a) sequence provider randomNumber =
      .ok h') :
    CoinFlip.start odd ⟨callbackMsg a, .entropyCallback sequence provider randomNumber⟩ h =
      .done h' := by
  unfold CoinFlip.start
  rw [if_neg fun refused => refused.1 rfl]
  exact CoinFlip.atomically_done.mpr called

/-- **Runs of both are runs of the oracle.** -/
theorem entropy_simulation :
    CallStack.Simulation (joint K odd a) (dice K) (Outside K a) anyCall Both.entropy
      Waiting.toEntropy where
  done := by
    intro operation b b' _ started
    cases operation with
    | entropy m callback =>
      rcases startEntropy_done started with ⟨done, _⟩ | ⟨_, _, _, _, _, _, calling, _, _, resumed⟩
      · exact .done (f := m) trivial done
      · exact .replied (f := m) trivial calling resumed
    | house m =>
      rcases startHouse_done started with ⟨_, _, _, _, _, ⟨flipped⟩⟩ | ⟨_, same⟩
      · exact .done trivial flipped.requested
      · rw [same]
        exact .nothing _
  calling := by
    intro operation b b' waiting _ started
    cases operation with
    | entropy m callback =>
      obtain ⟨pending, calling, rfl, _⟩ := startEntropy_calling started
      exact ⟨m, trivial, calling⟩
    | house m =>
      obtain ⟨pending, _, rfl, same⟩ := startHouse_calling started
      rw [same]
      exact ⟨⟨⟨m.msg.sender, 0, m.msg.sender_ne_zero⟩, .foreign⟩, trivial,
        start_foreign (K := K) _ m.msg.sender_ne_zero _⟩
  resume := by
    intro waiting result b b' resumed
    rcases resumeBoth_ok resumed with ⟨pending, rfl, ok, _⟩ | ⟨pending, rfl, success, _, same⟩
    · exact ⟨result, rfl, ok⟩
    · refine ⟨result, rfl, ?_⟩
      rw [same]
      exact bind_ok.mpr ⟨(), require_ok.mpr success, rfl⟩
  idle mined b := ⟨mined, rfl⟩

/-- **Runs of both are runs of the game**, with the oracle's answers. -/
theorem house_simulation :
    CallStack.Simulation (joint K odd a) (CoinFlip.coinFlip K odd) (Outside K a) CoinFlip.anyCall
      Both.house Waiting.toHouse where
  done := by
    intro operation b b' _ started
    cases operation with
    | entropy m callback =>
      rcases startEntropy_done started with ⟨_, same⟩ |
        ⟨_, _, sequence, provider, randomNumber, result, _, _, answered, _⟩
      · rw [same]
        exact .nothing _
      · rcases answered with ⟨_, same⟩ | ⟨_, called⟩
        · rw [same]
          exact .nothing _
        · refine .done (f := ⟨callbackMsg a, .entropyCallback sequence provider randomNumber⟩)
            trivial ?_
          exact house_callback called
    | house m =>
      rcases startHouse_done started with ⟨_, _, _, _, _, ⟨flipped⟩⟩ | ⟨done, _⟩
      · exact .replied trivial (flipped.started odd) flipped.rest
      · exact .done (f := m) trivial done
  calling := by
    intro operation b b' waiting _ started
    cases operation with
    | entropy m callback =>
      obtain ⟨pending, _, rfl, same, _⟩ := startEntropy_calling started
      rw [same]
      exact ⟨⟨⟨m.msg.sender, 0, m.msg.sender_ne_zero⟩, .foreign⟩, trivial,
        house_foreign odd _ m.msg.sender_ne_zero _⟩
    | house m =>
      obtain ⟨pending, calling, rfl, _⟩ := startHouse_calling started
      exact ⟨m, trivial, calling⟩
  resume := by
    intro waiting result b b' resumed
    rcases resumeBoth_ok resumed with ⟨pending, rfl, _, same⟩ | ⟨pending, rfl, success, ok, _⟩
    · exact ⟨⟨result.success, 0⟩, rfl, by rw [same]; rfl⟩
    · exact ⟨⟨true, 0⟩, success.symm, ok⟩
  idle mined b := ⟨(), rfl⟩

end Simulations

end Dice.Joint
