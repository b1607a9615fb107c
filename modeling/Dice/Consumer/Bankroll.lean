/-
**The bankroll covers every bet**, whatever the oracle does.

* `House.reserve` — what the contract owes if every pending game is won, with the unpaid winnings.
* `Solvent` — the invariant: the balance covers the reserve, the two totals are the sums they stand
  for, every account is what was credited and not paid, and every resolved game can be verified.
* `KeepsSlack` — what a call relies on while its own call is out: as long as a guarded function is
  open, what is not reserved does not shrink.
* `bankroll_solvent` — the invariant in every run.
* `guarded_nested` — at most one guarded function is open, and the guard says whether one is.
* `obligations_met` — what players are owed can be fetched, the callback of a pending game goes
  through, and the owner can take the `houseReserve` and no more.
-/

import Dice.Consumer.Halves
import Dice.Contract.Symbolic
import Dice.Library.Pool
import Mathlib.Algebra.BigOperators.Group.List.Basic

namespace Dice

namespace CoinFlip

variable {Bytes32 : Type}

/-! ### Sums over the history -/

@[simp] def Entry.depositedAmount : Entry Bytes32 → ℕ
  | .deposited amount => amount
  | _ => 0

@[simp] def Entry.stakedAmount : Entry Bytes32 → ℕ
  | .staked _ wager => wager
  | _ => 0

@[simp] def Entry.creditedAmount : Entry Bytes32 → ℕ
  | .credited _ amount => amount
  | _ => 0

@[simp] def Entry.paidAmount : Entry Bytes32 → ℕ
  | .paidOut _ amount => amount
  | _ => 0

@[simp] def Entry.bankrolledAmount : Entry Bytes32 → ℕ
  | .bankrolled _ amount => amount
  | _ => 0

/-- What one player was credited. -/
@[simp] def Entry.creditedTo (player : Address) : Entry Bytes32 → ℕ
  | .credited player' amount => if player' = player then amount else 0
  | _ => 0

/-- What one player was paid. -/
@[simp] def Entry.paidTo (player : Address) : Entry Bytes32 → ℕ
  | .paidOut player' amount => if player' = player then amount else 0
  | _ => 0

/-- The sum of an amount over a history. -/
def tally (amount : Entry Bytes32 → ℕ) (history : List (Entry Bytes32)) : ℕ :=
  (history.map amount).sum

@[simp] theorem tally_cons (amount : Entry Bytes32 → ℕ) (entry : Entry Bytes32)
    (history : List (Entry Bytes32)) :
    tally amount (entry :: history) = amount entry + tally amount history := by
  simp [tally]

/-! ### The invariant -/

/-- `(2 * lockedWagers) + totalPending`. -/
def House.reserve (h : House Bytes32) : ℕ :=
  2 * h.storage.lockedWagers + h.storage.totalPending

/-- `verifyRandomness` agrees with how the game was settled. -/
def Game.Verified (odd : Bytes32 → Bool) (game : Game Bytes32) : Prop :=
  match game.state with
  | .pending => True
  | .won => game.guess = resultOf odd game.randomNumber
  | .lost => game.guess ≠ resultOf odd game.randomNumber

/-- What the pending games stake. -/
def House.stakes (h : House Bytes32) (sequence : ℕ) : ℕ :=
  (h.storage.games sequence).staked

/-- **The invariant of the bankroll.** -/
structure Solvent (odd : Bytes32 → Bool) (h : House Bytes32) : Prop where
  covered : h.reserve ≤ h.balance
  payouts : Pool.Totals h.storage.totalPending h.storage.pendingPayouts
  wagers : Pool.Covers h.storage.lockedWagers h.stakes
  books : h.balance + tally Entry.paidAmount h.history + tally Entry.bankrolledAmount h.history =
    tally Entry.depositedAmount h.history + tally Entry.stakedAmount h.history
  winnings : h.storage.totalPending + tally Entry.paidAmount h.history =
    tally Entry.creditedAmount h.history
  accounts : ∀ player, h.storage.pendingPayouts player +
    tally (Entry.paidTo player) h.history = tally (Entry.creditedTo player) h.history
  verified : ∀ sequence, (h.storage.games sequence).Verified odd

/-- While a guarded function is open, what is not reserved does not shrink. The guard is as it was
after every whole call. -/
structure KeepsSlack (h h' : House Bytes32) : Prop where
  guard : h'.storage.guard = h.storage.guard
  slack : h.storage.guard ≠ 1 → h'.reserve + h.balance ≤ h.reserve + h'.balance

variable {odd : Bytes32 → Bool} {K : Keccak Bytes32} {h h' h₁ h₂ h₃ : House Bytes32}
variable {m : Message Bytes32} {pending : Pending} {returned : Returned}

theorem KeepsSlack.refl (h : House Bytes32) : KeepsSlack h h :=
  ⟨rfl, fun _ => Nat.le_refl _⟩

theorem KeepsSlack.trans (first : KeepsSlack h h₁) (second : KeepsSlack h₁ h₂) :
    KeepsSlack h h₂ := by
  refine ⟨second.guard.trans first.guard, fun held => ?_⟩
  have early := first.slack held
  have late := second.slack (by rwa [first.guard])
  omega

/-- A player's credit is part of the total. -/
theorem Solvent.credit_le (solvent : Solvent odd h) (player : Address) :
    h.storage.pendingPayouts player ≤ h.storage.totalPending :=
  solvent.payouts.covers.le player

/-- An open game's wager is locked. -/
theorem Solvent.wager_le (solvent : Solvent odd h) {sequence : ℕ}
    (live : (h.storage.games sequence).Open) :
    (h.storage.games sequence).wager ≤ h.storage.lockedWagers := by
  have locked := solvent.wagers.le sequence
  rwa [House.stakes, Game.staked, if_pos live] at locked

/-! ### One half at a time -/

/-- The wager of a resolved game is released. -/
theorem Solvent.release (solvent : Solvent odd h) {sequence : ℕ} {resolved : Game Bytes32}
    (live : (h.storage.games sequence).Open) (closed : ¬ resolved.Open) :
    Pool.Covers (h.storage.lockedWagers - (h.storage.games sequence).wager)
      fun n => (Function.update h.storage.games sequence resolved n).staked := by
  have staked : h.stakes sequence = (h.storage.games sequence).wager := if_pos live
  have gone : resolved.staked = 0 := if_neg closed
  rw [← staked]
  refine solvent.wagers.settle sequence (fun n => ?_) ?_
  · rw [Function.update_apply]
    split
    · rw [gone]
      exact Nat.zero_le _
    · exact Nat.le_refl _
  · rw [Function.update_self, gone]

/-- The other games stay verified when one is written. -/
theorem Solvent.verify (solvent : Solvent odd h) {sequence : ℕ} {written : Game Bytes32}
    (this : written.Verified odd) (n : ℕ) :
    (Function.update h.storage.games sequence written n).Verified odd := by
  rw [Function.update_apply]
  split
  · exact this
  · exact solvent.verified n

theorem Solvent.won (solvent : Solvent odd h) {sequence : ℕ} {randomNumber : Bytes32}
    (live : (h.storage.games sequence).Open)
    (guessed : (h.storage.games sequence).guess = resultOf odd randomNumber) :
    Solvent odd (h.won odd sequence randomNumber) where
  covered := by
    have wager := solvent.wager_le live
    have covered := solvent.covered
    simp only [House.reserve, House.won] at covered ⊢
    omega
  payouts := by
    have credit := solvent.credit_le (h.storage.games sequence).player
    have changed := solvent.payouts.change (h.won odd sequence randomNumber).storage.pendingPayouts
      (h.storage.games sequence).player fun other different => Function.update_of_ne different _ _
    simp only [House.won] at changed
    rwa [Function.update_self, ← Nat.add_assoc, Nat.sub_add_cancel credit] at changed
  wagers := solvent.release live fun opened => by cases opened.2
  books := by simpa [House.won] using solvent.books
  winnings := by
    have winnings := solvent.winnings
    simp only [House.won, tally_cons, Entry.paidAmount, Entry.creditedAmount]
    omega
  accounts player := by
    have account := solvent.accounts player
    by_cases winner : (h.storage.games sequence).player = player
    · subst winner
      simp only [House.won, tally_cons, Entry.paidTo, Entry.creditedTo, Function.update_self,
        if_true]
      omega
    · simp only [House.won, tally_cons, Entry.paidTo, Entry.creditedTo, if_neg winner,
        Function.update_of_ne (Ne.symm winner)]
      omega
  verified := solvent.verify guessed

theorem Solvent.lost (solvent : Solvent odd h) {sequence : ℕ} {randomNumber : Bytes32}
    (live : (h.storage.games sequence).Open)
    (missed : (h.storage.games sequence).guess ≠ resultOf odd randomNumber) :
    Solvent odd (h.lost odd sequence randomNumber) where
  covered := by
    have covered := solvent.covered
    simp only [House.reserve, House.lost] at covered ⊢
    omega
  payouts := solvent.payouts
  wagers := solvent.release live fun opened => by cases opened.2
  books := by simpa [House.lost] using solvent.books
  winnings := by simpa [House.lost] using solvent.winnings
  accounts player := by simpa [House.lost] using solvent.accounts player
  verified := solvent.verify missed

/-- An event is emitted, and nothing changes but the guard or the owner. -/
theorem Solvent.noted (solvent : Solvent odd h) (guard : ℕ) (owner : Address)
    (event : Event Bytes32) :
    Solvent odd
      { storage := { h.storage with guard, owner }
        balance := h.balance
        history := .emitted event :: h.history } where
  covered := solvent.covered
  payouts := solvent.payouts
  wagers := solvent.wagers
  books := by simpa using solvent.books
  winnings := by simpa using solvent.winnings
  accounts player := by simpa using solvent.accounts player
  verified := solvent.verified

/-- Ether arrives. -/
theorem Solvent.deposited (solvent : Solvent odd h) (amount : ℕ) :
    Solvent odd
      { h with balance := h.balance + amount, history := .deposited amount :: h.history } where
  covered := Nat.le_trans solvent.covered (Nat.le_add_right _ _)
  payouts := solvent.payouts
  wagers := solvent.wagers
  books := by
    have books := solvent.books
    simp only [tally_cons, Entry.paidAmount, Entry.bankrolledAmount, Entry.depositedAmount,
      Entry.stakedAmount]
    omega
  winnings := by simpa using solvent.winnings
  accounts player := by simpa using solvent.accounts player
  verified := solvent.verified

/-- Calls that finish at once. -/
theorem Finishes.solvent (solvent : Solvent odd h) (finishes : Finishes odd m h h') :
    Solvent odd h' := by
  cases finishes with
  | won _ _ live _ guessed => exact solvent.won live guessed
  | lost _ _ live _ missed => exact solvent.lost live missed
  | owned _ _ _ => exact solvent.noted _ _ _
  | received _ => exact (solvent.deposited m.msg.value).noted _ _ _
  | forced _ => exact solvent.deposited _

/-- They leave the guard, and the slack does not shrink. -/
theorem Finishes.keepsSlack (finishes : Finishes odd m h h') : KeepsSlack h h' := by
  cases finishes with
  | won _ _ _ covered _ =>
    refine ⟨rfl, fun _ => ?_⟩
    simp only [House.reserve, House.won]
    omega
  | lost _ _ _ _ _ =>
    refine ⟨rfl, fun _ => ?_⟩
    simp only [House.reserve, House.lost]
    omega
  | owned _ _ _ => exact ⟨rfl, fun _ => Nat.le_refl _⟩
  | received _ => exact ⟨rfl, fun _ => Nat.add_le_add_left (Nat.le_add_right _ _) _⟩
  | forced _ => exact ⟨rfl, fun _ => Nat.add_le_add_left (Nat.le_add_right _ _) _⟩

/-- A player's credit leaves. -/
theorem Solvent.paying (solvent : Solvent odd h) {player : Address}
    (funded : h.storage.pendingPayouts player ≤ h.balance) : Solvent odd (h.paying player) where
  covered := by
    have covered := solvent.covered
    have credit := solvent.credit_le player
    simp only [House.reserve, House.paying] at covered ⊢
    omega
  payouts := by
    have changed := solvent.payouts.change (h.paying player).storage.pendingPayouts player
      fun other different => Function.update_of_ne different _ _
    simp only [House.paying] at changed
    rwa [Function.update_self, Nat.add_zero] at changed
  wagers := solvent.wagers
  books := by
    have books := solvent.books
    simp only [House.paying, tally_cons, Entry.paidAmount, Entry.bankrolledAmount,
      Entry.depositedAmount, Entry.stakedAmount]
    omega
  winnings := by
    have winnings := solvent.winnings
    have credit := solvent.credit_le player
    simp only [House.paying, tally_cons, Entry.paidAmount, Entry.creditedAmount]
    omega
  accounts other := by
    have account := solvent.accounts other
    by_cases paid : player = other
    · subst paid
      simp only [House.paying, tally_cons, Entry.paidTo, Entry.creditedTo, Function.update_self,
        if_true]
      omega
    · simp only [House.paying, tally_cons, Entry.paidTo, Entry.creditedTo, if_neg paid,
        Function.update_of_ne (Ne.symm paid)]
      omega
  verified := solvent.verified

/-- First halves. -/
theorem Calls.solvent (solvent : Solvent odd h) (calls : Calls m h h₁ pending) :
    Solvent odd h₁ := by
  obtain ⟨covered, payouts, wagers, books, winnings, accounts, verified⟩ := solvent
  cases calls with
  | flip _ _ _ _ _ =>
    refine ⟨Nat.le_trans covered (Nat.le_add_right _ _), payouts, wagers, ?_,
      by simpa [House.staking] using winnings,
      fun player => by simpa [House.staking] using accounts player, verified⟩
    simp only [House.staking, tally_cons, Entry.paidAmount, Entry.bankrolledAmount,
      Entry.depositedAmount, Entry.stakedAmount]
    omega
  | withdrawal _ _ _ _ funded =>
    exact Solvent.paying ⟨covered, payouts, wagers, books, winnings, accounts, verified⟩ funded
  | @bankroll amount _ _ _ _ enough =>
    refine ⟨?_, payouts, wagers, ?_, by simpa [House.bankrolling] using winnings,
      fun player => by simpa [House.bankrolling] using accounts player, verified⟩
    · simp only [House.reserve, House.bankrolling]
      omega
    · simp only [House.bankrolling, tally_cons, Entry.paidAmount, Entry.bankrolledAmount,
        Entry.depositedAmount, Entry.stakedAmount]
      omega
  | foreign _ => exact ⟨covered, payouts, wagers, books, winnings, accounts, verified⟩

/-- The end of a flip. While the request was made nothing was taken from what the flip had set
aside, so twice its wager can be reserved now. -/
theorem Solvent.flipped (solvent : Solvent odd h) {sequence : ℕ} {player : Address} {guess : Side}
    {wager fee : ℕ} (aside : h.reserve + 2 * wager ≤ h.balance) :
    Solvent odd (h.flipped K sequence player guess wager fee) where
  covered := by
    simp only [House.reserve, House.flipped] at aside ⊢
    omega
  payouts := solvent.payouts
  wagers := by
    refine solvent.wagers.incur sequence (fun n other => ?_) ?_
    · simp only [House.stakes, House.flipped, Function.update_of_ne other]
      exact Nat.le_refl _
    · simp only [House.stakes, House.flipped, Function.update_self, Game.staked, newGame]
      split
      · exact Nat.le_refl _
      · exact Nat.zero_le _
  books := by simpa [House.flipped] using solvent.books
  winnings := by simpa [House.flipped] using solvent.winnings
  accounts other := by simpa [House.flipped] using solvent.accounts other
  verified := solvent.verify trivial

/-- **Whole calls.** -/
theorem whole_solvent (calls : Calls m h h₁ pending) (solvent₂ : Solvent odd h₂)
    (between : KeepsSlack h₁ h₂) (resumes : Resumes K returned h₂ pending h₃) :
    Solvent odd h₃ ∧ KeepsSlack h h₃ := by
  cases resumes with
  | flip _ =>
    cases calls with
    | @flip _ _ wager _ _ guard _ _ enough =>
      have kept := between.slack (by simp [House.staking])
      refine ⟨solvent₂.flipped ?_, guard.symm, fun held => absurd guard held⟩
      simp only [House.reserve, House.staking] at kept ⊢
      omega
  | withdrawal _ =>
    cases calls with
    | withdrawal _ guard _ _ _ =>
      exact ⟨solvent₂.noted _ _ _, guard.symm, fun held => absurd guard held⟩
  | bankroll _ =>
    cases calls with
    | bankroll _ _ guard _ _ =>
      exact ⟨solvent₂.noted _ _ _, guard.symm, fun held => absurd guard held⟩
  | foreign =>
    cases calls with
    | foreign _ => exact ⟨solvent₂, between⟩

/-- **The obligations of the bankroll.** -/
theorem solvent_rely (guard : Message Bytes32 → House Bytes32 → Prop) :
    CallStack.AbsoluteRely (coinFlip K odd) guard (Solvent odd) KeepsSlack where
  refl := .refl
  trans _ _ _ := .trans
  done _ solvent _ started _ _ :=
    ⟨(start_done started).solvent solvent, (start_done started).keepsSlack⟩
  calling _ solvent _ started _ := (start_calling started).solvent solvent
  succeed _ _ _ started _ _ _ solvent₂ _ between _ resumed _ _ :=
    whole_solvent (start_calling started) solvent₂ between (resume_ok resumed)
  fail _ _ _ started _ solvent₁ _ resumed _ _ :=
    whole_solvent (start_calling started) solvent₁ (.refl _) (resume_ok resumed)
  idle _ solvent _ _ := ⟨solvent, .refl _⟩

theorem constructor_solvent {d : Setting} (deployed : constructor K d = .ok h) : Solvent odd h := by
  simp only [constructor, bind_ok, revertIf_ok, exists_const, pure_ok] at deployed
  obtain ⟨_, rfl⟩ := deployed
  exact ⟨Nat.zero_le _, .zero fun _ => rfl, (Pool.Totals.zero fun _ => rfl).covers, by
    simp [House.emit, House.record, tally], rfl, fun _ => rfl, fun _ => trivial⟩

end CoinFlip

/-! ### A small deployment -/

namespace Casino

open CoinFlip (House Setting Returned coinFlip)

def setting : Setting := ⟨7, 100, Sample.provider, 1000⟩

theorem dice_ne_zero : (100 : Address) ≠ 0 := by decide

/-- A parity on words. -/
def sizeOdd (word : Sym) : Bool := word.size % 2 = 1

def house : House Sym where
  storage :=
    { dice := 100
      provider := Sample.provider
      owner := 7
      games := fun _ => .unset symbolic
      pendingPayouts := fun _ => 0
      lockedWagers := 0
      totalPending := 0
      guard := 1 }
  balance := 1000
  history := [.emitted (.ownershipTransferred 0 7), .deposited 1000]

theorem deployed : CoinFlip.constructor symbolic setting = .ok house := rfl

/-- The user bets 10 on heads and wins, and while they are paid a foreign function is open. -/
def wonRun : List (CallStack.Action (CoinFlip.Message Sym) Returned Unit) :=
  [.call ⟨⟨Sample.user, 20, Sample.user_ne_zero⟩, .flip .heads (.atom 1) 10 (some 10)⟩,
    .ret ⟨true, 1⟩,
    .call ⟨⟨100, 0, dice_ne_zero⟩, .entropyCallback 1 Sample.provider (.atom 2)⟩,
    .call ⟨⟨Sample.user, 0, Sample.user_ne_zero⟩, .withdraw⟩,
    .call ⟨⟨Sample.user, 0, Sample.user_ne_zero⟩, .foreign⟩]

def won : CoinFlip.Config Sym := (coinFlip symbolic sizeOdd).run ⟨house, []⟩ wonRun

end Casino

namespace CoinFlip

/-! ### Every run -/

section Runs

variable {d : Setting} {origin : House Bytes32} {c : Config Bytes32}

theorem sound_run (deployed : constructor K d = .ok origin)
    (run : (coinFlip K odd).Reachable anyCall ⟨origin, []⟩ c) :
    Solvent odd c.world ∧
      CallStack.Nested (coinFlip K odd) anyCall (Solvent odd) KeepsSlack origin c.world c.frames :=
  (solvent_rely anyCall).sound (constructor_solvent deployed) rfl run

/-- **Solvency**, for every oracle, every nesting of calls and every reply. Every pending game can be
won at once and the balance still pays what is owed; `totalPending` is the sum of the players'
credits, and `lockedWagers` at least the sum of the pending wagers; the balance is what came in and
did not go out; each player's credit is what they were credited and not paid; and the owner never
takes what is staked in pending games or was won. -/
theorem bankroll_solvent (deployed : constructor K d = .ok origin)
    (run : (coinFlip K odd).Reachable anyCall ⟨origin, []⟩ c) :
    2 * c.world.storage.lockedWagers + c.world.storage.totalPending ≤ c.world.balance ∧
      Pool.Totals c.world.storage.totalPending c.world.storage.pendingPayouts ∧
      Pool.Covers c.world.storage.lockedWagers
        (fun sequence => (c.world.storage.games sequence).staked) ∧
      c.world.balance + tally Entry.paidAmount c.world.history +
          tally Entry.bankrolledAmount c.world.history =
        tally Entry.depositedAmount c.world.history + tally Entry.stakedAmount c.world.history ∧
      (∀ player, c.world.storage.pendingPayouts player +
        tally (Entry.paidTo player) c.world.history =
          tally (Entry.creditedTo player) c.world.history) ∧
      tally Entry.bankrolledAmount c.world.history + tally Entry.creditedAmount c.world.history +
          2 * c.world.storage.lockedWagers ≤
        tally Entry.depositedAmount c.world.history + tally Entry.stakedAmount c.world.history := by
  obtain ⟨covered, payouts, wagers, books, winnings, accounts, _⟩ := (sound_run deployed run).1
  refine ⟨covered, payouts, wagers, books, accounts, ?_⟩
  unfold House.reserve at covered
  omega

theorem bankroll_solvent_won :
    2 * Casino.won.world.storage.lockedWagers + Casino.won.world.storage.totalPending ≤
      Casino.won.world.balance :=
  (bankroll_solvent Casino.deployed (.of_actions _ Casino.wonRun)).1

/-! ### What succeeds -/

/-- A function with `nonReentrant`. -/
def Pending.guarded : Pending → Bool
  | .foreign => false
  | _ => true

/-- The guarded functions that are open. -/
def guardedFrames (frames : List (CallStack.Frame (House Bytes32) Pending)) :
    List (CallStack.Frame (House Bytes32) Pending) :=
  frames.filter fun frame => frame.pending.guarded

/-- A guarded function takes the guard; another one leaves everything. -/
theorem Calls.guard (calls : Calls m h h₁ pending) :
    pending.guarded = true ∧ h.storage.guard = 1 ∧ h₁.storage.guard = 2 ∨
      pending.guarded = false ∧ h₁ = h := by
  cases calls with
  | flip _ guard _ _ _ => exact .inl ⟨rfl, guard, rfl⟩
  | withdrawal _ guard _ _ _ => exact .inl ⟨rfl, guard, rfl⟩
  | bankroll _ _ guard _ _ => exact .inl ⟨rfl, guard, rfl⟩
  | foreign _ => exact .inr ⟨rfl, rfl⟩

/-- **Mutual exclusion**, by induction on the open calls. -/
theorem guarded_nested {frames : List (CallStack.Frame (House Bytes32) Pending)}
    {origin world : House Bytes32} (free : origin.storage.guard = 1)
    (nested : CallStack.Nested (coinFlip K odd) anyCall (Solvent odd) KeepsSlack origin world
      frames) :
    (guardedFrames frames).length ≤ 1 ∧ (world.storage.guard = 1 ↔ guardedFrames frames = []) := by
  induction nested with
  | nil related => exact ⟨Nat.zero_le _, by simp [related.guard, free, guardedFrames]⟩
  | @cons w frame rest operation _ _ _ started related _ ih =>
    have guard : w.storage.guard = frame.callWorld.storage.guard := related.guard
    rcases (start_calling started).guard with ⟨guarded, before, during⟩ | ⟨other, same⟩
    · have none := ih.2.mp before
      have this : guardedFrames (frame :: rest) = [frame] := by
        have kept : guardedFrames (frame :: rest) = frame :: guardedFrames rest :=
          List.filter_cons_of_pos guarded
        rw [kept, none]
      rw [this, guard, during]
      exact ⟨Nat.le_refl 1, by simp⟩
    · have this : guardedFrames (frame :: rest) = guardedFrames rest := by
        exact List.filter_cons_of_neg (by simp [other])
      rw [this, guard, same]
      exact ih

/-- The immutables are those of the deployment. -/
structure Wired (d : Setting) (h : House Bytes32) : Prop where
  dice : h.storage.dice = d.dice
  provider : h.storage.provider = d.provider

theorem wired_rely (guard : Message Bytes32 → House Bytes32 → Prop) (d : Setting) :
    CallStack.AbsoluteRely (coinFlip K odd) guard (Wired d) fun _ _ => True where
  refl _ := trivial
  trans _ _ _ _ _ := trivial
  done _ wired _ started _ _ := by
    cases start_done started <;> exact ⟨⟨wired.dice, wired.provider⟩, trivial⟩
  calling _ wired _ started _ := by
    cases start_calling started <;> exact ⟨wired.dice, wired.provider⟩
  succeed _ _ _ _ _ _ _ wired _ _ _ resumed _ _ := by
    cases resume_ok resumed <;> exact ⟨⟨wired.dice, wired.provider⟩, trivial⟩
  fail _ _ _ _ _ wired _ resumed _ _ := by
    cases resume_ok resumed <;> exact ⟨⟨wired.dice, wired.provider⟩, trivial⟩
  idle _ wired _ _ := ⟨wired, trivial⟩

theorem constructor_wired (deployed : constructor K d = .ok origin) :
    d.dice ≠ 0 ∧ origin.storage.guard = 1 ∧ Wired d origin := by
  simp only [constructor, bind_ok, revertIf_ok, exists_const, pure_ok, not_or] at deployed
  obtain ⟨⟨dice, _⟩, rfl⟩ := deployed
  exact ⟨dice, rfl, rfl, rfl⟩

/-- The callback of an open game, as the oracle makes it. -/
theorem entropyCallbackExternal_of_open (solvent : Solvent odd h) (fits : h.balance < uint256)
    {msg : Msg} {sequence : ℕ} {provider : Address} {randomNumber : Bytes32}
    (dice : h.storage.dice ≠ 0) (sender : msg.sender = h.storage.dice)
    (live : (h.storage.games sequence).Open) :
    entropyCallbackExternal odd h msg sequence provider randomNumber =
      .ok (if (h.storage.games sequence).guess = resultOf odd randomNumber then
        h.won odd sequence randomNumber else h.lost odd sequence randomNumber) := by
  have wager := solvent.wager_le live
  have credit := solvent.credit_le (h.storage.games sequence).player
  have covered := solvent.covered
  unfold House.reserve at covered
  exact bind_ok.mpr ⟨(), revertIf_ok.mpr dice, bind_ok.mpr
    ⟨(), revertIf_ok.mpr (not_not.mpr sender),
      entropyCallback_of_open live wager (by omega) (by omega) (by omega)⟩⟩

/-- What `verifyRandomness` returns is what decided the game. -/
theorem Solvent.verifyRandomness (solvent : Solvent odd h) {sequence : ℕ} {randomNumber : Bytes32}
    {side : Side} (ok : verifyRandomness odd h sequence = .ok (randomNumber, side)) :
    (h.storage.games sequence).state = .won ↔ (h.storage.games sequence).guess = side := by
  simp only [CoinFlip.verifyRandomness, bind_ok, revertIf_ok, exists_const, pure_ok,
    Prod.mk.injEq] at ok
  obtain ⟨resolved, rfl, rfl⟩ := ok
  have verified := solvent.verified sequence
  cases state : (h.storage.games sequence).state with
  | pending => exact absurd state resolved
  | won =>
    rw [Game.Verified, state] at verified
    exact ⟨fun _ => verified, fun _ => rfl⟩
  | lost =>
    rw [Game.Verified, state] at verified
    refine ⟨fun won => ?_, fun same => absurd same verified⟩
    cases won

/-- **What succeeds and what does not**, in every run. The oracle's callback is accepted exactly on
pending games; a player is paid their whole credit whenever no guarded function is open; and the
owner can take exactly the `houseReserve`. At most one guarded function is ever open, and
`verifyRandomness` reports the side by which a game was settled. -/
theorem obligations_met (deployed : constructor K d = .ok origin)
    (run : (coinFlip K odd).Reachable anyCall ⟨origin, []⟩ c)
    (fits : c.world.balance < uint256) :
    (guardedFrames c.frames).length ≤ 1 ∧
      (∀ sequence randomNumber side,
        verifyRandomness odd c.world sequence = .ok (randomNumber, side) →
          ((c.world.storage.games sequence).state = .won ↔
            (c.world.storage.games sequence).guess = side)) ∧
      (∀ (msg : Msg) sequence provider randomNumber, msg.value = 0 → msg.sender = d.dice →
        start odd ⟨msg, .entropyCallback sequence provider randomNumber⟩ c.world =
          if (c.world.storage.games sequence).Open then
            .done (if (c.world.storage.games sequence).guess = resultOf odd randomNumber then
              c.world.won odd sequence randomNumber else c.world.lost odd sequence randomNumber)
          else .reverted .gameAlreadyResolved) ∧
      (∀ msg : Msg, msg.value = 0 →
        start odd ⟨msg, .withdraw⟩ c.world =
          if guardedFrames c.frames ≠ [] then .reverted .reentrant
          else if c.world.storage.pendingPayouts msg.sender = 0 then .reverted .noPayout
          else .calling (c.world.paying msg.sender)
            (.withdrawal msg.sender (c.world.storage.pendingPayouts msg.sender))) ∧
      ∃ available, houseReserve c.world = .ok available ∧
        ∀ (msg : Msg) amount, msg.value = 0 → msg.sender = c.world.storage.owner →
          guardedFrames c.frames = [] →
          ((∃ h pending, start odd ⟨msg, .withdrawBankroll amount⟩ c.world = .calling h pending) ↔
            0 < amount ∧ amount ≤ available) := by
  obtain ⟨solvent, nested⟩ := sound_run deployed run
  obtain ⟨dice, free, initial⟩ := constructor_wired deployed
  have wired := ((wired_rely anyCall d).sound initial rfl run).1
  obtain ⟨once, guard⟩ := guarded_nested free nested
  have covered := solvent.covered
  unfold House.reserve at covered
  refine ⟨once, fun sequence randomNumber side => solvent.verifyRandomness,
    fun msg sequence provider randomNumber value sender => ?_, fun msg value => ?_, c.world.balance -
      c.world.reserve, ?_, fun msg amount value owner unguarded => ?_⟩
  · simp only [start, value, ne_eq, not_true_eq_false, false_and, if_false]
    have known : c.world.storage.dice ≠ 0 := wired.dice ▸ dice
    have from_dice : msg.sender = c.world.storage.dice := sender.trans wired.dice.symm
    split
    · next live =>
      rw [entropyCallbackExternal_of_open solvent fits known from_dice live]
      rfl
    · next dead =>
      have refused : entropyCallbackExternal odd c.world msg sequence provider randomNumber =
          .error .gameAlreadyResolved :=
        bind_error.mpr (.inr ⟨(), revertIf_ok.mpr known, bind_error.mpr
          (.inr ⟨(), revertIf_ok.mpr (not_not.mpr from_dice), entropyCallback_of_not_open dead⟩)⟩)
      rw [refused]
      rfl
  · simp only [start, value, ne_eq, not_true_eq_false, false_and, if_false]
    split
    · next held =>
      have locked : c.world.storage.guard ≠ 1 := fun one => held (guard.mp one)
      have refused : withdraw c.world msg = .error .reentrant :=
        bind_error.mpr (.inl (enter_of_held locked))
      rw [refused]
      rfl
    · next open_ =>
      have one := guard.mpr (not_not.mp open_)
      split
      · next none =>
        rw [withdraw_of_none one none]
        rfl
      · next credit =>
        have total := solvent.credit_le msg.sender
        rw [withdraw_of_credit one credit total (by omega)]
        rfl
  · refine bind_ok.mpr ⟨_, reserved_of_fits (by omega), ?_⟩
    split
    · next broke =>
      rw [House.reserve, Nat.sub_eq_zero_of_le broke]
      rfl
    · rfl
  · simp only [start, value, ne_eq, not_true_eq_false, false_and, if_false, waiting_calling]
    unfold House.reserve
    constructor
    · rintro ⟨h, pending, called⟩
      obtain ⟨_, _, positive, enough, _⟩ := withdrawBankroll_ok called
      omega
    · rintro ⟨positive, enough⟩
      exact ⟨_, _, withdrawBankroll_of_enough owner (guard.mpr unguarded) (by omega) (by omega)
        (by omega)⟩

theorem obligations_met_won :
    (guardedFrames Casino.won.frames).length ≤ 1 ∧
      start Casino.sizeOdd ⟨⟨Sample.user, 0, Sample.user_ne_zero⟩, .withdraw⟩ Casino.won.world =
        .reverted .reentrant := by
  have run : (coinFlip symbolic Casino.sizeOdd).Reachable anyCall ⟨Casino.house, []⟩ Casino.won :=
    .of_actions _ Casino.wonRun
  obtain ⟨once, _, _, paid, _⟩ := obligations_met Casino.deployed run (by decide +kernel)
  refine ⟨once, ?_⟩
  rw [paid ⟨Sample.user, 0, Sample.user_ne_zero⟩ rfl, if_pos]
  intro none
  cases none

end Runs

end CoinFlip

end Dice
