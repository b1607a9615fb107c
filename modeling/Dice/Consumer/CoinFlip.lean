/-
**A consumer: the `CoinFlip` contract**, with its part of `IEntropyConsumer`.

* `Storage`, `Event`, `Error` — the data of the contract, under its words. `Entry` adds to the events
  the ether that moved and the winnings that were credited.
* `House` — the contract on its chain.
* The functions in the order of the source. `flip`, `withdraw` and `withdrawBankroll` make a call in
  their middle; what they do after it are functions of their own.
* `coinFlip` — the component. The oracle is not part of it: the fee it quotes and the sequence number
  it returns come from the environment, and while it is called anything may be called back.

`odd` is `uint256(randomNumber) & 1 == 1`.
-/

import Dice.Contract.Functions

namespace Dice.CoinFlip

variable {Bytes32 : Type}

/-- `CALLBACK_GAS`. -/
def callbackGas : ℕ := 200000

inductive Side where
  | heads
  | tails
  deriving DecidableEq, Repr

inductive GameState where
  | pending
  | won
  | lost
  deriving DecidableEq, Repr

structure Game (Bytes32 : Type) where
  player : Address
  guess : Side
  wager : ℕ
  state : GameState
  randomNumber : Bytes32
  deriving DecidableEq, Repr

/-- The storage, with the two immutables. -/
structure Storage (Bytes32 : Type) where
  dice : Address
  provider : Address
  owner : Address
  games : ℕ → Game Bytes32
  pendingPayouts : Address → ℕ
  lockedWagers : ℕ
  totalPending : ℕ
  guard : ℕ

inductive Event (Bytes32 : Type) where
  | flipped (sequence : ℕ) (player : Address) (guess : Side) (wager fee : ℕ)
  | resolved (sequence : ℕ) (player : Address) (result : Side) (state : GameState)
      (randomNumber : Bytes32)
  | withdrawal (player : Address) (amount : ℕ)
  | bankrollDeposited (sender : Address) (amount : ℕ)
  | bankrollWithdrawn (recipient : Address) (amount : ℕ)
  | ownershipTransferred (previousOwner newOwner : Address)
  deriving DecidableEq, Repr

/-- Why a call reverts. `diceReverted` is the oracle's own error, passed on. -/
inductive Error where
  | betRequired
  | invalidGuess
  | exactFeePlusWagerRequired (expected actual : ℕ)
  | insufficientBankroll
  | gameAlreadyResolved
  | noPayout
  | withdrawFailed
  | unauthorized
  | reserveViolation
  | reentrant
  | zeroAddress
  | gameNotResolved
  | require (reason : String)
  | arithmeticPanic
  | notPayable
  | diceReverted
  deriving DecidableEq, Repr

/-- The history of a run: the events, the ether that came in and went out, and the winnings that
were credited. -/
inductive Entry (Bytes32 : Type) where
  | emitted (event : Event Bytes32)
  | deposited (amount : ℕ)
  | staked (player : Address) (wager : ℕ)
  | credited (player : Address) (amount : ℕ)
  | paidOut (player : Address) (amount : ℕ)
  | bankrolled (recipient : Address) (amount : ℕ)
  deriving DecidableEq, Repr

/-- The contract on its chain. -/
structure House (Bytes32 : Type) where
  storage : Storage Bytes32
  balance : ℕ
  history : List (Entry Bytes32)

namespace House

def record (h : House Bytes32) (entry : Entry Bytes32) : House Bytes32 :=
  { h with history := entry :: h.history }

/-- `emit`. -/
def emit (h : House Bytes32) (event : Event Bytes32) : House Bytes32 :=
  h.record (.emitted event)

def setStorage (h : House Bytes32) (s : Storage Bytes32) : House Bytes32 :=
  { h with storage := s }

end House

/-! ### Checked arithmetic -/

def revertIf (condition : Prop) [Decidable condition] (error : Error) : Except Error Unit :=
  if condition then .error error else .ok ()

/-- The number of values of a `uint256`. -/
def uint256 : ℕ := 2 ^ 256

def checkedAdd (a b : ℕ) : Except Error ℕ :=
  if a + b < uint256 then .ok (a + b) else .error .arithmeticPanic

def checkedMul (a b : ℕ) : Except Error ℕ :=
  if a * b < uint256 then .ok (a * b) else .error .arithmeticPanic

def checkedSub (a b : ℕ) : Except Error ℕ :=
  if b ≤ a then .ok (a - b) else .error .arithmeticPanic

/-! ### Constructor -/

/-- The constructor's arguments, its sender, and the ether that was at the address before. -/
structure Setting where
  deployer : Address
  dice : Address
  provider : Address
  etherBefore : ℕ

/-- A game that was never written. -/
def Game.unset (K : Keccak Bytes32) : Game Bytes32 where
  player := 0
  guess := .heads
  wager := 0
  state := .pending
  randomNumber := K.word 0

def constructor (K : Keccak Bytes32) (d : Setting) : Except Error (House Bytes32) := do
  revertIf (d.dice = 0 ∨ d.provider = 0) .zeroAddress
  let s : Storage Bytes32 :=
    { dice := d.dice
      provider := d.provider
      owner := d.deployer
      games := fun _ => .unset K
      pendingPayouts := fun _ => 0
      lockedWagers := 0
      totalPending := 0
      guard := 1 }
  let h : House Bytes32 :=
    { storage := s
      balance := d.etherBefore
      history := [.deposited d.etherBefore] }
  pure (h.emit (.ownershipTransferred 0 d.deployer))

/-- The local variables of a function that waits for its call. -/
inductive Pending where
  /-- `flip`, while the oracle makes the request. -/
  | flip (player : Address) (guess : Side) (wager fee : ℕ)
  /-- `withdraw`, while the player is paid. -/
  | withdrawal (player : Address) (amount : ℕ)
  /-- `withdrawBankroll`, while the owner is paid. -/
  | bankroll (amount : ℕ)
  /-- A function of another contract. -/
  | foreign
  deriving DecidableEq, Repr

/-- What a call gives back: its success flag, and the sequence number if it was to the oracle. -/
structure Returned where
  success : Bool
  sequenceNumber : ℕ
  deriving DecidableEq, Repr

section Functions

variable (K : Keccak Bytes32) (odd : Bytes32 → Bool) (h : House Bytes32) (msg : Msg)

/-- The check of `nonReentrant`, and the lock. -/
def enter : Except Error (House Bytes32) := do
  revertIf (h.storage.guard ≠ 1) .reentrant
  pure (h.setStorage { h.storage with guard := 2 })

/-- The end of `nonReentrant`. -/
def leave : House Bytes32 :=
  h.setStorage { h.storage with guard := 1 }

/-- `receive`. -/
def receive : House Bytes32 :=
  ({ h with balance := h.balance + msg.value }.record (.deposited msg.value)).emit
    (.bankrollDeposited msg.sender msg.value)

/-- `quote`: the oracle's fee, if `getFeeV2` does not revert, and the total. -/
def quote (fee : Option ℕ) (wager : ℕ) : Except Error (ℕ × ℕ) :=
  match fee with
  | none => .error .diceReverted
  | some fee => do
      let total ← checkedAdd fee wager
      pure (fee, total)

/-- `(2 * wagers) + totalPending`. -/
def reserved (wagers : ℕ) : Except Error ℕ := do
  let double ← checkedMul 2 wagers
  checkedAdd double h.storage.totalPending

/-- `houseReserve`. -/
def houseReserve : Except Error ℕ := do
  let reserved ← reserved h h.storage.lockedWagers
  if h.balance ≤ reserved then pure 0 else pure (h.balance - reserved)

/-- `flip`, up to the request. The value of the message has arrived before its first line; the fee
leaves with the request, and the wager stays. -/
def flip (guess : Side) (wager : ℕ) (quoted : Option ℕ) : Except Error (House Bytes32 × Pending) := do
  let h := { h with balance := h.balance + msg.value }
  let h ← enter h
  revertIf (wager = 0) .betRequired
  revertIf (guess ≠ .heads ∧ guess ≠ .tails) .invalidGuess
  let (fee, total) ← quote quoted wager
  revertIf (msg.value ≠ total) (.exactFeePlusWagerRequired total msg.value)
  let wagers ← checkedAdd h.storage.lockedWagers wager
  let reserved ← reserved h wagers
  let needed ← checkedAdd reserved fee
  revertIf (h.balance < needed) .insufficientBankroll
  let h := { h with balance := h.balance - fee }.record (.staked msg.sender wager)
  pure (h, .flip msg.sender guess wager fee)

/-- `flip`, after the request. -/
def flipRequested (player : Address) (guess : Side) (wager fee : ℕ) (returned : Returned) :
    Except Error (House Bytes32) := do
  revertIf (returned.success = false) .diceReverted
  let seq := returned.sequenceNumber
  let lockedWagers ← checkedAdd h.storage.lockedWagers wager
  let h := h.setStorage
    { h.storage with
      lockedWagers
      games := Function.update h.storage.games seq
        { player, guess, wager, state := .pending, randomNumber := K.word 0 } }
  pure (leave (h.emit (.flipped seq player guess wager fee)))

/-- The result that a random number stands for. -/
def resultOf (randomNumber : Bytes32) : Side :=
  if odd randomNumber then .tails else .heads

/-- `entropyCallback`. -/
def entropyCallback (sequence : ℕ) (randomNumber : Bytes32) : Except Error (House Bytes32) := do
  let s := h.storage
  let game := s.games sequence
  revertIf (game.player = 0 ∨ game.state ≠ .pending) .gameAlreadyResolved
  let result := resultOf odd randomNumber
  let lockedWagers ← checkedSub s.lockedWagers game.wager
  if game.guess = result then
    let payout ← checkedMul game.wager 2
    let pendingPayout ← checkedAdd (s.pendingPayouts game.player) payout
    let totalPending ← checkedAdd s.totalPending payout
    let h := h.setStorage
      { s with
        lockedWagers
        games := Function.update s.games sequence { game with randomNumber, state := .won }
        pendingPayouts := Function.update s.pendingPayouts game.player pendingPayout
        totalPending }
    let h := h.record (.credited game.player payout)
    pure (h.emit (.resolved sequence game.player result .won randomNumber))
  else
    let h := h.setStorage
      { s with
        lockedWagers
        games := Function.update s.games sequence { game with randomNumber, state := .lost } }
    pure (h.emit (.resolved sequence game.player result .lost randomNumber))

/-- `_entropyCallback` of `IEntropyConsumer`. -/
def entropyCallbackExternal (sequence : ℕ) (_provider : Address) (randomNumber : Bytes32) :
    Except Error (House Bytes32) := do
  let entropy := h.storage.dice
  revertIf (entropy = 0) (.require "Entropy address not set")
  revertIf (msg.sender ≠ entropy) (.require "Only Entropy can call this function")
  entropyCallback odd h sequence randomNumber

/-- `withdraw`, up to the payment. -/
def withdraw : Except Error (House Bytes32 × Pending) := do
  let h ← enter h
  let amount := h.storage.pendingPayouts msg.sender
  revertIf (amount = 0) .noPayout
  let totalPending ← checkedSub h.storage.totalPending amount
  let h := h.setStorage
    { h.storage with
      pendingPayouts := Function.update h.storage.pendingPayouts msg.sender 0
      totalPending }
  -- a call that carries more ether than there is fails at once
  revertIf (h.balance < amount) .withdrawFailed
  pure ({ h with balance := h.balance - amount }.record (.paidOut msg.sender amount),
    .withdrawal msg.sender amount)

/-- `withdraw`, after the payment. -/
def withdrawSent (player : Address) (amount : ℕ) (returned : Returned) :
    Except Error (House Bytes32) := do
  revertIf (returned.success = false) .withdrawFailed
  pure (leave (h.emit (.withdrawal player amount)))

/-- `withdrawBankroll`, up to the payment. -/
def withdrawBankroll (amount : ℕ) : Except Error (House Bytes32 × Pending) := do
  revertIf (msg.sender ≠ h.storage.owner) .unauthorized
  let h ← enter h
  revertIf (amount = 0) .betRequired
  let reserved ← reserved h h.storage.lockedWagers
  let needed ← checkedAdd reserved amount
  revertIf (h.balance < needed) .reserveViolation
  pure ({ h with balance := h.balance - amount }.record (.bankrolled h.storage.owner amount),
    .bankroll amount)

/-- `withdrawBankroll`, after the payment. The event reads `owner` again. -/
def withdrawBankrollSent (amount : ℕ) (returned : Returned) : Except Error (House Bytes32) := do
  revertIf (returned.success = false) .withdrawFailed
  pure (leave (h.emit (.bankrollWithdrawn h.storage.owner amount)))

/-- `transferOwnership`. -/
def transferOwnership (newOwner : Address) : Except Error (House Bytes32) := do
  revertIf (msg.sender ≠ h.storage.owner) .unauthorized
  revertIf (newOwner = 0) .zeroAddress
  let h := h.emit (.ownershipTransferred h.storage.owner newOwner)
  pure (h.setStorage { h.storage with owner := newOwner })

/-- `getGame`. -/
def getGame (seq : ℕ) : Address × Side × ℕ × GameState × Bytes32 :=
  let g := h.storage.games seq
  (g.player, g.guess, g.wager, g.state, g.randomNumber)

/-- `verifyRandomness`. -/
def verifyRandomness (seq : ℕ) : Except Error (Bytes32 × Side) := do
  let g := h.storage.games seq
  revertIf (g.state = .pending) .gameNotResolved
  pure (g.randomNumber, resultOf odd g.randomNumber)

end Functions

/-! ### The component -/

/-- The external functions that are not views, and what happens around the contract. -/
inductive Call (Bytes32 : Type) where
  | flip (guess : Side) (userRandom : Bytes32) (wager : ℕ) (quoted : Option ℕ)
  | entropyCallback (sequence : ℕ) (provider : Address) (randomNumber : Bytes32)
  | withdraw
  | withdrawBankroll (amount : ℕ)
  | transferOwnership (newOwner : Address)
  | receive
  /-- Ether forced in from outside. -/
  | forceEther (amount : ℕ)
  /-- A function of another contract begins. -/
  | foreign
  deriving DecidableEq

/-- `payable`. -/
def Call.payable : Call Bytes32 → Bool
  | .flip .. => true
  | .receive => true
  | _ => false

structure Message (Bytes32 : Type) where
  msg : Msg
  call : Call Bytes32
  deriving DecidableEq

abbrev Step (Bytes32 : Type) := CallStack.Outcome (House Bytes32) Pending Error

/-- A function that makes no call. -/
def atomically (result : Except Error (House Bytes32)) : Step Bytes32 :=
  match result with
  | .ok h => .done h
  | .error error => .reverted error

/-- A function that waits. -/
def waiting (result : Except Error (House Bytes32 × Pending)) : Step Bytes32 :=
  match result with
  | .ok (h, pending) => .calling h pending
  | .error error => .reverted error

variable (K : Keccak Bytes32) (odd : Bytes32 → Bool)

/-- The first half of a call. -/
def start (m : Message Bytes32) (h : House Bytes32) : Step Bytes32 :=
  if m.msg.value ≠ 0 ∧ m.call.payable = false then .reverted .notPayable
  else match m.call with
  | .flip guess _ wager quoted => waiting (flip h m.msg guess wager quoted)
  | .entropyCallback sequence provider randomNumber =>
      atomically (entropyCallbackExternal odd h m.msg sequence provider randomNumber)
  | .withdraw => waiting (withdraw h m.msg)
  | .withdrawBankroll amount => waiting (withdrawBankroll h m.msg amount)
  | .transferOwnership newOwner => atomically (transferOwnership h m.msg newOwner)
  | .receive => .done (receive h m.msg)
  | .forceEther amount => .done ({ h with balance := h.balance + amount }.record (.deposited amount))
  | .foreign => .calling h .foreign

/-- The rest of a call, after the reply. A foreign function goes on whatever its calls return. -/
def resume (pending : Pending) (returned : Returned) (h : House Bytes32) :
    Except Error (House Bytes32) :=
  match pending with
  | .flip player guess wager fee => flipRequested K h player guess wager fee returned
  | .withdrawal player amount => withdrawSent h player amount returned
  | .bankroll amount => withdrawBankrollSent h amount returned
  | .foreign => .ok h

/-- **The contract.** Nothing happens to it between transactions. -/
def coinFlip : CallStack.Component (House Bytes32) (Message Bytes32) Pending Returned Error
    Unit where
  start := start odd
  succeeded := Returned.success
  resume := resume K
  idle _ h := h

abbrev Config (Bytes32 : Type) := CallStack.Config (House Bytes32) Pending

/-- No restriction on the calls. -/
def anyCall : Message Bytes32 → House Bytes32 → Prop := fun _ _ => True

end Dice.CoinFlip
