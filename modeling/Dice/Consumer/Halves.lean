/-
**What each half of a call of `CoinFlip` does.**

The functions of the contract are unfolded here and nowhere else.

* `Finishes` — a call that finishes at once (`start_done`).
* `Calls` — the first half of a call that waits (`start_calling`).
* `Resumes` — the rest of such a call (`resume_ok`).
* `entropyCallback_ok`, `entropyCallback_error` — when the oracle's callback succeeds, and when not.
-/

import Dice.Consumer.CoinFlip
import Dice.Contract.Effects

namespace Dice.CoinFlip

variable {Bytes32 : Type}

/-! ### Inverting checks -/

section Inversion

theorem revertIf_ok {condition : Prop} [Decidable condition] {error : Error} {u : Unit} :
    revertIf condition error = .ok u ↔ ¬ condition := by
  unfold revertIf
  split <;> simp [*]

theorem revertIf_error {condition : Prop} [Decidable condition] {error e : Error} :
    revertIf condition error = .error e ↔ condition ∧ error = e := by
  unfold revertIf
  split <;> simp [*]

theorem checkedAdd_ok {a b c : ℕ} : checkedAdd a b = .ok c ↔ a + b < uint256 ∧ a + b = c := by
  unfold checkedAdd
  split <;> simp [*]

theorem checkedMul_ok {a b c : ℕ} : checkedMul a b = .ok c ↔ a * b < uint256 ∧ a * b = c := by
  unfold checkedMul
  split <;> simp [*]

theorem checkedSub_ok {a b c : ℕ} : checkedSub a b = .ok c ↔ b ≤ a ∧ a - b = c := by
  unfold checkedSub
  split <;> simp [*]

theorem reserved_ok {h : House Bytes32} {wagers c : ℕ} (ok : reserved h wagers = .ok c) :
    c = 2 * wagers + h.storage.totalPending := by
  simp only [reserved, bind_ok, checkedMul_ok, checkedAdd_ok] at ok
  obtain ⟨_, ⟨_, rfl⟩, _, rfl⟩ := ok
  rfl

theorem quote_ok {quoted : Option ℕ} {wager fee total : ℕ}
    (ok : quote quoted wager = .ok (fee, total)) : quoted = some fee ∧ total = fee + wager := by
  cases quoted with
  | none => cases ok
  | some quoted =>
    simp only [quote, bind_ok, checkedAdd_ok, pure_ok, Prod.mk.injEq] at ok
    obtain ⟨_, ⟨_, rfl⟩, rfl, rfl⟩ := ok
    exact ⟨rfl, rfl⟩

theorem atomically_done {result : Except Error (House Bytes32)} {h : House Bytes32} :
    atomically result = .done h ↔ result = .ok h := by
  cases result <;> simp [atomically]

theorem atomically_calling {result : Except Error (House Bytes32)} {h : House Bytes32}
    {pending : Pending} : atomically result ≠ .calling h pending := by
  cases result <;> simp [atomically]

theorem waiting_done {result : Except Error (House Bytes32 × Pending)} {h : House Bytes32} :
    waiting result ≠ .done h := by
  cases result <;> simp [waiting]

theorem waiting_calling {result : Except Error (House Bytes32 × Pending)} {h : House Bytes32}
    {pending : Pending} : waiting result = .calling h pending ↔ result = .ok (h, pending) := by
  cases result <;> simp [waiting, Prod.ext_iff]

end Inversion

/-! ### The worlds that functions leave -/

section Effects

variable (K : Keccak Bytes32) (odd : Bytes32 → Bool) (h : House Bytes32)

/-- While the oracle makes the request: the fee has come and gone, the wager is here. -/
def House.staking (player : Address) (wager : ℕ) : House Bytes32 :=
  { storage := { h.storage with guard := 2 }
    balance := h.balance + wager
    history := .staked player wager :: h.history }

/-- The game that a flip stores. -/
def newGame (player : Address) (guess : Side) (wager : ℕ) : Game Bytes32 where
  player
  guess
  wager
  state := .pending
  randomNumber := K.word 0

/-- After the request. -/
def House.flipped (sequence : ℕ) (player : Address) (guess : Side) (wager fee : ℕ) :
    House Bytes32 where
  storage :=
    { h.storage with
      lockedWagers := h.storage.lockedWagers + wager
      games := Function.update h.storage.games sequence (newGame K player guess wager)
      guard := 1 }
  balance := h.balance
  history := .emitted (.flipped sequence player guess wager fee) :: h.history

/-- After a callback on a game that the player won. -/
def House.won (sequence : ℕ) (randomNumber : Bytes32) : House Bytes32 :=
  let game := h.storage.games sequence
  { storage :=
      { h.storage with
        lockedWagers := h.storage.lockedWagers - game.wager
        games := Function.update h.storage.games sequence
          { game with randomNumber, state := .won }
        pendingPayouts := Function.update h.storage.pendingPayouts game.player
          (h.storage.pendingPayouts game.player + game.wager * 2)
        totalPending := h.storage.totalPending + game.wager * 2 }
    balance := h.balance
    history :=
      .emitted (.resolved sequence game.player (resultOf odd randomNumber) .won randomNumber) ::
        .credited game.player (game.wager * 2) :: h.history }

/-- After a callback on a game that the player lost. -/
def House.lost (sequence : ℕ) (randomNumber : Bytes32) : House Bytes32 :=
  let game := h.storage.games sequence
  { storage :=
      { h.storage with
        lockedWagers := h.storage.lockedWagers - game.wager
        games := Function.update h.storage.games sequence
          { game with randomNumber, state := .lost } }
    balance := h.balance
    history :=
      .emitted (.resolved sequence game.player (resultOf odd randomNumber) .lost randomNumber) ::
        h.history }

/-- While a player is paid. -/
def House.paying (player : Address) : House Bytes32 where
  storage :=
    { h.storage with
      guard := 2
      pendingPayouts := Function.update h.storage.pendingPayouts player 0
      totalPending := h.storage.totalPending - h.storage.pendingPayouts player }
  balance := h.balance - h.storage.pendingPayouts player
  history := .paidOut player (h.storage.pendingPayouts player) :: h.history

/-- While the owner is paid. -/
def House.bankrolling (amount : ℕ) : House Bytes32 where
  storage := { h.storage with guard := 2 }
  balance := h.balance - amount
  history := .bankrolled h.storage.owner amount :: h.history

/-- A game that waits for its callback. -/
def Game.Open (game : Game Bytes32) : Prop :=
  game.player ≠ 0 ∧ game.state = .pending

instance (game : Game Bytes32) : Decidable game.Open :=
  inferInstanceAs (Decidable (_ ∧ _))

/-- What a pending game stakes. -/
def Game.staked (game : Game Bytes32) : ℕ :=
  if game.Open then game.wager else 0

end Effects

/-! ### The callback -/

section Callback

variable {odd : Bytes32 → Bool} {h h' : House Bytes32} {sequence : ℕ} {randomNumber : Bytes32}

theorem entropyCallback_ok (ok : entropyCallback odd h sequence randomNumber = .ok h') :
    (h.storage.games sequence).Open ∧
      (h.storage.games sequence).wager ≤ h.storage.lockedWagers ∧
      h' = if (h.storage.games sequence).guess = resultOf odd randomNumber then
        h.won odd sequence randomNumber else h.lost odd sequence randomNumber := by
  simp only [entropyCallback, bind_ok, revertIf_ok, checkedSub_ok, exists_const, not_or,
    not_not] at ok
  obtain ⟨live, _, ⟨covered, rfl⟩, branch⟩ := ok
  refine ⟨live, covered, ?_⟩
  split at branch
  · next won =>
    simp only [bind_ok, checkedMul_ok, checkedAdd_ok, pure_ok] at branch
    obtain ⟨_, ⟨_, rfl⟩, _, ⟨_, rfl⟩, _, ⟨_, rfl⟩, rfl⟩ := branch
    rw [if_pos won]
    rfl
  · next lost =>
    rw [if_neg lost]
    exact (pure_ok.mp branch).symm

/-- **When the callback succeeds**: the game is open and its amounts fit. -/
theorem entropyCallback_of_open (live : (h.storage.games sequence).Open)
    (covered : (h.storage.games sequence).wager ≤ h.storage.lockedWagers)
    (single : (h.storage.games sequence).wager * 2 < uint256)
    (credit : h.storage.pendingPayouts (h.storage.games sequence).player +
      (h.storage.games sequence).wager * 2 < uint256)
    (total : h.storage.totalPending + (h.storage.games sequence).wager * 2 < uint256) :
    entropyCallback odd h sequence randomNumber =
      .ok (if (h.storage.games sequence).guess = resultOf odd randomNumber then
        h.won odd sequence randomNumber else h.lost odd sequence randomNumber) := by
  have check : ¬ ((h.storage.games sequence).player = 0 ∨
      (h.storage.games sequence).state ≠ .pending) := by
    rw [not_or, not_not]
    exact live
  refine bind_ok.mpr ⟨(), revertIf_ok.mpr check, bind_ok.mpr
    ⟨_, checkedSub_ok.mpr ⟨covered, rfl⟩, ?_⟩⟩
  split
  · exact bind_ok.mpr ⟨_, checkedMul_ok.mpr ⟨single, rfl⟩, bind_ok.mpr
      ⟨_, checkedAdd_ok.mpr ⟨credit, rfl⟩, bind_ok.mpr ⟨_, checkedAdd_ok.mpr ⟨total, rfl⟩, rfl⟩⟩⟩
  · rfl

/-- On a game that is not open it reverts. -/
theorem entropyCallback_of_not_open (dead : ¬ (h.storage.games sequence).Open) :
    entropyCallback odd h sequence randomNumber = .error .gameAlreadyResolved := by
  have check : (h.storage.games sequence).player = 0 ∨
      (h.storage.games sequence).state ≠ .pending := by
    rwa [Game.Open, not_and_or, not_not] at dead
  exact bind_error.mpr (.inl (revertIf_error.mpr ⟨check, rfl⟩))

end Callback

/-! ### Calls that finish at once -/

section Halves

variable (K : Keccak Bytes32) (odd : Bytes32 → Bool)

/-- **A call that finishes at once.** -/
inductive Finishes (m : Message Bytes32) (h : House Bytes32) : House Bytes32 → Prop
  | won {sequence : ℕ} {provider : Address} {randomNumber : Bytes32} :
      m.call = .entropyCallback sequence provider randomNumber → m.msg.sender = h.storage.dice →
      (h.storage.games sequence).Open →
      (h.storage.games sequence).wager ≤ h.storage.lockedWagers →
      (h.storage.games sequence).guess = resultOf odd randomNumber →
      Finishes m h (h.won odd sequence randomNumber)
  | lost {sequence : ℕ} {provider : Address} {randomNumber : Bytes32} :
      m.call = .entropyCallback sequence provider randomNumber → m.msg.sender = h.storage.dice →
      (h.storage.games sequence).Open →
      (h.storage.games sequence).wager ≤ h.storage.lockedWagers →
      (h.storage.games sequence).guess ≠ resultOf odd randomNumber →
      Finishes m h (h.lost odd sequence randomNumber)
  | owned {newOwner : Address} :
      m.call = .transferOwnership newOwner → m.msg.sender = h.storage.owner → newOwner ≠ 0 →
      Finishes m h
        { h with
          storage := { h.storage with owner := newOwner }
          history := .emitted (.ownershipTransferred h.storage.owner newOwner) :: h.history }
  | received : m.call = .receive → Finishes m h (receive h m.msg)
  | forced {amount : ℕ} :
      m.call = .forceEther amount →
      Finishes m h
        { h with balance := h.balance + amount, history := .deposited amount :: h.history }

/-- **The first half of a call that waits.** -/
inductive Calls (m : Message Bytes32) (h : House Bytes32) : House Bytes32 → Pending → Prop
  | flip {guess : Side} {userRandom : Bytes32} {wager fee : ℕ} :
      m.call = .flip guess userRandom wager (some fee) → h.storage.guard = 1 → wager ≠ 0 →
      m.msg.value = fee + wager →
      2 * (h.storage.lockedWagers + wager) + h.storage.totalPending ≤ h.balance + wager →
      Calls m h (h.staking m.msg.sender wager) (.flip m.msg.sender guess wager fee)
  | withdrawal :
      m.call = .withdraw → h.storage.guard = 1 → h.storage.pendingPayouts m.msg.sender ≠ 0 →
      h.storage.pendingPayouts m.msg.sender ≤ h.storage.totalPending →
      h.storage.pendingPayouts m.msg.sender ≤ h.balance →
      Calls m h (h.paying m.msg.sender)
        (.withdrawal m.msg.sender (h.storage.pendingPayouts m.msg.sender))
  | bankroll {amount : ℕ} :
      m.call = .withdrawBankroll amount → m.msg.sender = h.storage.owner → h.storage.guard = 1 →
      amount ≠ 0 → 2 * h.storage.lockedWagers + h.storage.totalPending + amount ≤ h.balance →
      Calls m h (h.bankrolling amount) (.bankroll amount)
  | foreign : m.call = .foreign → Calls m h h .foreign

/-- **The rest of such a call.** -/
inductive Resumes (returned : Returned) (h : House Bytes32) : Pending → House Bytes32 → Prop
  | flip {player : Address} {guess : Side} {wager fee : ℕ} :
      returned.success = true →
      Resumes returned h (.flip player guess wager fee)
        (h.flipped K returned.sequenceNumber player guess wager fee)
  | withdrawal {player : Address} {amount : ℕ} :
      returned.success = true →
      Resumes returned h (.withdrawal player amount)
        { h with
          storage := { h.storage with guard := 1 }
          history := .emitted (.withdrawal player amount) :: h.history }
  | bankroll {amount : ℕ} :
      returned.success = true →
      Resumes returned h (.bankroll amount)
        { h with
          storage := { h.storage with guard := 1 }
          history := .emitted (.bankrollWithdrawn h.storage.owner amount) :: h.history }
  | foreign : Resumes returned h .foreign h

variable {K} {odd} {m : Message Bytes32} {h h' : House Bytes32} {pending : Pending}

theorem enter_ok (ok : enter h = .ok h') :
    h.storage.guard = 1 ∧ h' = h.setStorage { h.storage with guard := 2 } := by
  simp only [enter, bind_ok, revertIf_ok, pure_ok, exists_const, not_not] at ok
  exact ⟨ok.1, ok.2.symm⟩

theorem flip_ok {msg : Msg} {guess : Side} {wager : ℕ} {quoted : Option ℕ}
    (ok : flip h msg guess wager quoted = .ok (h', pending)) :
    ∃ fee, quoted = some fee ∧ h.storage.guard = 1 ∧ wager ≠ 0 ∧ msg.value = fee + wager ∧
      2 * (h.storage.lockedWagers + wager) + h.storage.totalPending ≤ h.balance + wager ∧
      h' = h.staking msg.sender wager ∧ pending = .flip msg.sender guess wager fee := by
  simp only [flip, bind_ok, revertIf_ok, exists_const, not_not, Prod.exists, pure_ok,
    checkedAdd_ok] at ok
  obtain ⟨_, entered, positive, _, fee, total, quoted, paid, _, ⟨_, rfl⟩, _, reserve, _, ⟨_, rfl⟩,
    enough, same⟩ := ok
  obtain ⟨guard, rfl⟩ := enter_ok entered
  obtain ⟨rfl, rfl⟩ := quote_ok quoted
  have reserve := reserved_ok reserve
  simp only [House.setStorage] at reserve enough
  rw [reserve, paid, Nat.not_lt] at enough
  have balance : h.balance + msg.value - fee = h.balance + wager := by omega
  refine ⟨fee, rfl, guard, positive, paid, by omega, ?_, ?_⟩
  · rw [← (Prod.mk.inj same).1]
    simp only [House.setStorage, House.record, House.staking, balance]
  · exact (Prod.mk.inj same).2.symm

theorem withdraw_ok {msg : Msg} (ok : withdraw h msg = .ok (h', pending)) :
    h.storage.guard = 1 ∧ h.storage.pendingPayouts msg.sender ≠ 0 ∧
      h.storage.pendingPayouts msg.sender ≤ h.storage.totalPending ∧
      h.storage.pendingPayouts msg.sender ≤ h.balance ∧ h' = h.paying msg.sender ∧
      pending = .withdrawal msg.sender (h.storage.pendingPayouts msg.sender) := by
  simp only [withdraw, bind_ok, revertIf_ok, exists_const, pure_ok, checkedSub_ok] at ok
  obtain ⟨_, entered, credit, _, ⟨covered, rfl⟩, funded, same⟩ := ok
  obtain ⟨guard, rfl⟩ := enter_ok entered
  exact ⟨guard, credit, covered, Nat.le_of_not_lt funded, (Prod.mk.inj same).1.symm,
    (Prod.mk.inj same).2.symm⟩

theorem withdrawBankroll_ok {msg : Msg} {amount : ℕ}
    (ok : withdrawBankroll h msg amount = .ok (h', pending)) :
    msg.sender = h.storage.owner ∧ h.storage.guard = 1 ∧ amount ≠ 0 ∧
      2 * h.storage.lockedWagers + h.storage.totalPending + amount ≤ h.balance ∧
      h' = h.bankrolling amount ∧ pending = .bankroll amount := by
  simp only [withdrawBankroll, bind_ok, revertIf_ok, exists_const, pure_ok, not_not,
    checkedAdd_ok] at ok
  obtain ⟨owner, _, entered, positive, _, reserve, _, ⟨_, rfl⟩, enough, same⟩ := ok
  obtain ⟨guard, rfl⟩ := enter_ok entered
  rw [reserved_ok reserve] at enough
  exact ⟨owner, guard, positive, Nat.le_of_not_lt enough, (Prod.mk.inj same).1.symm,
    (Prod.mk.inj same).2.symm⟩

theorem entropyCallbackExternal_ok {msg : Msg} {sequence : ℕ} {provider : Address}
    {randomNumber : Bytes32}
    (ok : entropyCallbackExternal odd h msg sequence provider randomNumber = .ok h') :
    msg.sender = h.storage.dice ∧ entropyCallback odd h sequence randomNumber = .ok h' := by
  simp only [entropyCallbackExternal, bind_ok, revertIf_ok, exists_const, not_not] at ok
  exact ok.2

/-! The guarded payments, forwards. -/

theorem enter_of_free (free : h.storage.guard = 1) :
    enter h = .ok (h.setStorage { h.storage with guard := 2 }) :=
  bind_ok.mpr ⟨(), revertIf_ok.mpr (not_not.mpr free), rfl⟩

theorem enter_of_held (held : h.storage.guard ≠ 1) : enter h = .error .reentrant :=
  bind_error.mpr (.inl (revertIf_error.mpr ⟨held, rfl⟩))

theorem withdraw_of_credit {msg : Msg} (free : h.storage.guard = 1)
    (credit : h.storage.pendingPayouts msg.sender ≠ 0)
    (covered : h.storage.pendingPayouts msg.sender ≤ h.storage.totalPending)
    (funded : h.storage.pendingPayouts msg.sender ≤ h.balance) :
    withdraw h msg = .ok (h.paying msg.sender,
      .withdrawal msg.sender (h.storage.pendingPayouts msg.sender)) :=
  bind_ok.mpr ⟨_, enter_of_free free, bind_ok.mpr ⟨(), revertIf_ok.mpr credit, bind_ok.mpr
    ⟨_, checkedSub_ok.mpr ⟨covered, rfl⟩, bind_ok.mpr
      ⟨(), revertIf_ok.mpr (Nat.not_lt.mpr funded), rfl⟩⟩⟩⟩

theorem withdraw_of_none {msg : Msg} (free : h.storage.guard = 1)
    (none : h.storage.pendingPayouts msg.sender = 0) : withdraw h msg = .error .noPayout :=
  bind_error.mpr (.inr ⟨_, enter_of_free free,
    bind_error.mpr (.inl (revertIf_error.mpr ⟨none, rfl⟩))⟩)

theorem reserved_of_fits {wagers : ℕ} (fits : 2 * wagers + h.storage.totalPending < uint256) :
    reserved h wagers = .ok (2 * wagers + h.storage.totalPending) :=
  bind_ok.mpr ⟨_, checkedMul_ok.mpr ⟨Nat.lt_of_le_of_lt (Nat.le_add_right _ _) fits, rfl⟩,
    checkedAdd_ok.mpr ⟨fits, rfl⟩⟩

theorem withdrawBankroll_of_enough {msg : Msg} {amount : ℕ} (owner : msg.sender = h.storage.owner)
    (free : h.storage.guard = 1) (positive : amount ≠ 0)
    (fits : 2 * h.storage.lockedWagers + h.storage.totalPending + amount < uint256)
    (enough : 2 * h.storage.lockedWagers + h.storage.totalPending + amount ≤ h.balance) :
    withdrawBankroll h msg amount = .ok (h.bankrolling amount, .bankroll amount) :=
  bind_ok.mpr ⟨(), revertIf_ok.mpr (not_not.mpr owner), bind_ok.mpr ⟨_, enter_of_free free,
    bind_ok.mpr ⟨(), revertIf_ok.mpr positive, bind_ok.mpr
      ⟨_, reserved_of_fits (Nat.lt_of_le_of_lt (Nat.le_add_right _ _) fits), bind_ok.mpr
        ⟨_, checkedAdd_ok.mpr ⟨fits, rfl⟩, bind_ok.mpr
          ⟨(), revertIf_ok.mpr (Nat.not_lt.mpr enough), rfl⟩⟩⟩⟩⟩⟩

/-- **Every call that finishes at once.** -/
theorem start_done (started : start odd m h = .done h') : Finishes odd m h h' := by
  obtain ⟨msg, call⟩ := m
  unfold start at started
  split at started
  · cases started
  · cases call with
    | flip guess userRandom wager quoted => exact absurd started waiting_done
    | entropyCallback sequence provider randomNumber =>
      obtain ⟨sender, called⟩ := entropyCallbackExternal_ok (atomically_done.mp started)
      obtain ⟨live, covered, rfl⟩ := entropyCallback_ok called
      split
      · next won => exact .won rfl sender live covered won
      · next lost => exact .lost rfl sender live covered lost
    | withdraw => exact absurd started waiting_done
    | withdrawBankroll amount => exact absurd started waiting_done
    | transferOwnership newOwner =>
      have ok := atomically_done.mp started
      simp only [transferOwnership, bind_ok, revertIf_ok, exists_const, not_not, pure_ok] at ok
      obtain ⟨owner, nonzero, rfl⟩ := ok
      exact .owned rfl owner nonzero
    | receive =>
      cases started
      exact .received rfl
    | forceEther amount =>
      cases started
      exact .forced rfl
    | foreign => cases started

/-- **Every call that waits.** -/
theorem start_calling (started : start odd m h = .calling h' pending) : Calls m h h' pending := by
  obtain ⟨msg, call⟩ := m
  unfold start at started
  split at started
  · cases started
  · cases call with
    | flip guess userRandom wager quoted =>
      obtain ⟨fee, rfl, guard, positive, paid, enough, rfl, rfl⟩ :=
        flip_ok (waiting_calling.mp started)
      exact .flip rfl guard positive paid enough
    | withdraw =>
      obtain ⟨guard, credit, covered, funded, rfl, rfl⟩ := withdraw_ok (waiting_calling.mp started)
      exact .withdrawal rfl guard credit covered funded
    | withdrawBankroll amount =>
      obtain ⟨owner, guard, positive, enough, rfl, rfl⟩ :=
        withdrawBankroll_ok (waiting_calling.mp started)
      exact .bankroll rfl owner guard positive enough
    | foreign =>
      cases started
      exact .foreign rfl
    | receive => cases started
    | forceEther amount => cases started
    | _ => exact absurd started atomically_calling

/-- **The rest of every call.** -/
theorem resume_ok {returned : Returned} (resumed : resume K pending returned h = .ok h') :
    Resumes K returned h pending h' := by
  cases pending with
  | flip player guess wager fee =>
    simp only [resume, flipRequested, bind_ok, revertIf_ok, exists_const, checkedAdd_ok, pure_ok,
      Bool.not_eq_false] at resumed
    obtain ⟨success, _, ⟨_, rfl⟩, rfl⟩ := resumed
    exact .flip success
  | withdrawal player amount =>
    simp only [resume, withdrawSent, bind_ok, revertIf_ok, exists_const, pure_ok,
      Bool.not_eq_false] at resumed
    obtain ⟨success, rfl⟩ := resumed
    exact .withdrawal success
  | bankroll amount =>
    simp only [resume, withdrawBankrollSent, bind_ok, revertIf_ok, exists_const, pure_ok,
      Bool.not_eq_false] at resumed
    obtain ⟨success, rfl⟩ := resumed
    exact .bankroll success
  | foreign =>
    cases resumed
    exact .foreign

end Halves

end Dice.CoinFlip
