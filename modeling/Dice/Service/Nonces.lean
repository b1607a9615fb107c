/-
**The nonce manager between its two kinds of senders.**

Reveal tasks submit one at a time, under `reveal_lock`; the loop that advances the commitment submits
without it. Both take their nonces from one `NonceManagerMiddleware`. A task runs without interruption
from one await point to the next, and what it awaits is answered in any order.

* `Phase` — the await points of a submission; `step` — one task goes on to its next await point.
* `Effect` — what a step can do to the manager: nothing, hand out a nonce, store a queried count
  before that, store one after a failed send, or reset.
* `nonces_nodup` — the nonces handed out since a reset are distinct when no step writes the counter of
  an initialized manager back.
* `reveals_alone` — reveal tasks by themselves never store the answer to a query that has been
  overtaken.

What the manager does not see is left out: which wallet and contract it is for, and the transactions
but for their nonces.
-/

import Mathlib.Data.List.Infix
import Mathlib.Data.List.Nodup
import Mathlib.Logic.Function.Basic

set_option linter.unusedSectionVars false

namespace Dice

/-- `NonceManagerMiddleware`. Its `init_guard` is only used by `initialize_nonce`, which nothing
calls. -/
structure NonceManager where
  initialized : Bool
  nonce : UInt64
  deriving DecidableEq, Repr

namespace NonceManager

/-- `NonceManagerMiddleware::new`. -/
def new : NonceManager := ⟨false, 0⟩

/-- `next`: the nonce, and the manager with `fetch_add`, which wraps around. -/
def next (manager : NonceManager) : UInt64 × NonceManager :=
  (manager.nonce, { manager with nonce := manager.nonce + 1 })

/-- What `get_transaction_count_with_manager` stores when its query is answered. -/
def storeCount (manager : NonceManager) (count : UInt64) : NonceManager :=
  { manager with nonce := count, initialized := true }

/-- What `send_transaction` stores after a nonce mismatch. -/
def resync (manager : NonceManager) (count : UInt64) : NonceManager :=
  { manager with nonce := count }

/-- `reset`. -/
def reset (manager : NonceManager) : NonceManager := { manager with initialized := false }

end NonceManager

/-- The two kinds of senders: a reveal task, and `update_commitments_loop`. -/
inductive Sender where
  | reveal (task : ℕ)
  | advance
  deriving DecidableEq, Repr

/-- The await points of a submission. -/
inductive Phase where
  | idle
  /-- The gas estimate and the gas price. -/
  | pricing
  /-- `get_transaction_count` in `get_transaction_count_with_manager`. -/
  | counting
  /-- `fill_transaction` of the inner middleware, for reveals. -/
  | filling (nonce : UInt64)
  | sending (nonce : UInt64)
  /-- `get_transaction_count` after a failed send, with its error. -/
  | recounting (error : List Char)
  | resending (nonce : UInt64)
  /-- The receipt, and the query for it when it does not come. -/
  | confirming
  /-- `retry_notify`, between two attempts. -/
  | backingOff
  deriving DecidableEq, Repr

/-- How the wait for a receipt ends. -/
inductive Confirmation where
  | receipt (success : Bool)
  | error
  /-- No receipt in time, or `None`; then the answer to the query. -/
  | queried (receipt : Option Bool)
  deriving DecidableEq, Repr

/-- What a task was waiting for. -/
inductive Reply where
  | scheduled
  | answered (ok : Bool)
  | counted (count : Except (List Char) UInt64)
  | sent (error : Option (List Char))
  | confirmed (confirmation : Confirmation)
  | elapsed (retry : Bool)

/-- The manager, the tasks that share it, and the nonces that `get_transaction_count_with_manager` has
returned since the last reset, the last one first. -/
structure Wallet where
  manager : NonceManager
  revealLock : Option ℕ
  phase : Sender → Phase
  handedOut : List UInt64

/-- The errors after which `submit_tx` resets the manager. -/
def nonceTooLow (msg : List Char) : Bool :=
  "nonce too low".toList <:+: msg ∨ "nonce has already been used".toList <:+: msg

namespace Wallet

def initial : Wallet := ⟨.new, none, fun _ => .idle, []⟩

def goto (s : Wallet) (sender : Sender) (phase : Phase) : Wallet :=
  { s with phase := Function.update s.phase sender phase }

/-- A submission ends, and with it the guard of a reveal. -/
def finish (s : Wallet) (sender : Sender) : Wallet :=
  match sender with
  | .reveal task =>
      { s.goto (.reveal task) .idle with
        revealLock := if s.revealLock = some task then none else s.revealLock }
  | .advance => s.goto .advance .idle

/-- An attempt fails: a reveal backs off, under its lock, and an advancement is given up. -/
def abandon (s : Wallet) (sender : Sender) : Wallet :=
  match sender with
  | .reveal task => s.goto (.reveal task) .backingOff
  | .advance => s.goto .advance .idle

def reset (s : Wallet) : Wallet := { s with manager := s.manager.reset, handedOut := [] }

/-- `Ok(self.next())`. A reveal goes on to fill its transaction, an advancement to send it. -/
def handOut (s : Wallet) (sender : Sender) : Wallet :=
  let (nonce, manager) := s.manager.next
  let s := { s with manager, handedOut := nonce :: s.handedOut }
  match sender with
  | .reveal task => s.goto (.reveal task) (.filling nonce)
  | .advance => s.goto .advance (.sending nonce)

/-- `send_transaction` fails. Only `submit_tx` reads the error. -/
def reject (s : Wallet) (sender : Sender) (error : List Char) : Wallet :=
  match sender with
  | .reveal task =>
      if nonceTooLow error then s.reset.abandon (.reveal task) else s.abandon (.reveal task)
  | .advance => s.abandon .advance

/-- The end of `submit_tx`, or of `send_and_confirm`. -/
def confirm (s : Wallet) (sender : Sender) (confirmation : Confirmation) : Wallet :=
  match sender, confirmation with
  | .advance, _ => s.finish .advance
  | sender, .receipt true => s.finish sender
  | sender, .receipt false => s.abandon sender
  | sender, .error => s.abandon sender
  | sender, .queried (some true) => s.reset.finish sender
  | sender, .queried _ => s.reset.abandon sender

/-- One task goes on. A reply it does not wait for changes nothing. -/
def step (s : Wallet) (action : Sender × Reply) : Wallet :=
  let sender := action.1
  match s.phase sender, action.2 with
  | .idle, .scheduled =>
      match sender with
      | .reveal task =>
          if s.revealLock = none then
            { s.goto (.reveal task) .pricing with revealLock := some task }
          else s
      | .advance => s.goto .advance .pricing
  | .pricing, .answered true =>
      if s.manager.initialized then s.handOut sender else s.goto sender .counting
  | .pricing, .answered false => s.abandon sender
  | .counting, .counted (.ok count) =>
      { s with manager := s.manager.storeCount count }.handOut sender
  | .counting, .counted (.error _) => s.abandon sender
  | .filling nonce, .answered true => s.goto sender (.sending nonce)
  | .filling _, .answered false => s.abandon sender
  | .sending _, .sent none => s.goto sender .confirming
  | .sending _, .sent (some error) => s.goto sender (.recounting error)
  | .recounting error, .counted (.ok count) =>
      if count ≠ s.manager.nonce then
        { s with manager := s.manager.resync count }.goto sender (.resending count)
      else s.reject sender error
  | .recounting _, .counted (.error error) => s.reject sender error
  | .resending _, .sent none => s.goto sender .confirming
  | .resending _, .sent (some error) => s.reject sender error
  | .confirming, .confirmed confirmation => s.confirm sender confirmation
  | .backingOff, .elapsed true => s.goto sender .pricing
  | .backingOff, .elapsed false => s.finish sender
  | _, _ => s

/-- A run. -/
def run (s : Wallet) (actions : List (Sender × Reply)) : Wallet := actions.foldl step s

/-- Every step of a run meets a condition on the state before it. -/
def Follows (condition : Wallet → Sender × Reply → Prop) : Wallet → List (Sender × Reply) → Prop
  | _, [] => True
  | s, action :: actions => condition s action ∧ (s.step action).Follows condition actions

/-! ### What a step can do -/

/-- The transaction count that a step stores, if it stores one. -/
def stored (s : Wallet) (action : Sender × Reply) : Option UInt64 :=
  match s.phase action.1, action.2 with
  | .counting, .counted (.ok count) => some count
  | .recounting _, .counted (.ok count) => if count ≠ s.manager.nonce then some count else none
  | _, _ => none

/-- A step that hands out the counter as it stands. -/
def takes (s : Wallet) (action : Sender × Reply) : Bool :=
  match s.phase action.1, action.2 with
  | .pricing, .answered true => s.manager.initialized
  | _, _ => false

/-- **No step writes the counter of an initialized manager back.** A count that is stored is not below
the counter, and the counter has not wrapped around to 0. -/
structure Forward (s : Wallet) (action : Sender × Reply) : Prop where
  notBack : s.manager.initialized = true → ∀ count ∈ s.stored action, s.manager.nonce ≤ count
  notWrapped : s.manager.initialized = true → s.stored action ≠ none ∨ s.takes action = true →
    s.manager.nonce ≠ 0

/-- **Everything that a step can do** to the manager and to the nonces it has handed out. -/
inductive Effect (s : Wallet) (action : Sender × Reply) (s' : Wallet) : Prop
  | quiet : s'.manager = s.manager → s'.handedOut = s.handedOut → Effect s action s'
  | taken : s.takes action = true → s.manager.initialized = true →
      s'.manager = s.manager.next.2 → s'.handedOut = s.manager.nonce :: s.handedOut →
      Effect s action s'
  | counted (count : UInt64) : s.stored action = some count →
      s'.manager = (s.manager.storeCount count).next.2 → s'.handedOut = count :: s.handedOut →
      Effect s action s'
  | recounted (count : UInt64) : s.stored action = some count →
      s'.manager = s.manager.resync count → s'.handedOut = s.handedOut → Effect s action s'
  | reset : s'.manager = s.manager.reset → s'.handedOut = [] → Effect s action s'

section Effects

variable {s : Wallet} (sender : Sender) (action : Sender × Reply)

@[simp] theorem goto_manager (phase : Phase) : (s.goto sender phase).manager = s.manager := rfl
@[simp] theorem goto_handedOut (phase : Phase) : (s.goto sender phase).handedOut = s.handedOut := rfl
@[simp] theorem reset_manager : s.reset.manager = s.manager.reset := rfl
@[simp] theorem reset_handedOut : s.reset.handedOut = [] := rfl

@[simp] theorem finish_manager : (s.finish sender).manager = s.manager := by cases sender <;> rfl

@[simp] theorem finish_handedOut : (s.finish sender).handedOut = s.handedOut := by
  cases sender <;> rfl

@[simp] theorem abandon_manager : (s.abandon sender).manager = s.manager := by cases sender <;> rfl

@[simp] theorem abandon_handedOut : (s.abandon sender).handedOut = s.handedOut := by
  cases sender <;> rfl

@[simp] theorem handOut_manager : (s.handOut sender).manager = s.manager.next.2 := by
  cases sender <;> rfl

@[simp] theorem handOut_handedOut :
    (s.handOut sender).handedOut = s.manager.nonce :: s.handedOut := by
  cases sender <;> rfl

theorem goto_effect (phase : Phase) : Effect s action (s.goto sender phase) := .quiet rfl rfl

theorem abandon_effect : Effect s action (s.abandon sender) := .quiet (by simp) (by simp)

theorem reject_effect (error : List Char) : Effect s action (s.reject sender error) := by
  cases sender with
  | advance => exact abandon_effect .advance action
  | reveal task =>
    show Effect s action (if nonceTooLow error then s.reset.abandon (.reveal task)
      else s.abandon (.reveal task))
    split
    · exact .reset (by simp) (by simp)
    · exact abandon_effect (.reveal task) action

theorem confirm_effect (confirmation : Confirmation) :
    Effect s action (s.confirm sender confirmation) := by
  unfold confirm
  split
  · exact .quiet (by simp) (by simp)
  · exact .quiet (by simp) (by simp)
  · exact abandon_effect _ action
  · exact abandon_effect _ action
  · exact .reset (by simp) (by simp)
  · exact .reset (by simp) (by simp)

theorem step_effect : Effect s action (s.step action) := by
  obtain ⟨sender, reply⟩ := action
  unfold step
  dsimp only
  split
  · split
    · split
      · exact .quiet rfl rfl
      · exact .quiet rfl rfl
    · exact goto_effect _ _ _
  · next pricing =>
    split
    · next initialized =>
      have taking : s.takes (sender, .answered true) = true := by
        simpa only [takes, pricing] using initialized
      exact .taken taking initialized (by simp) (by simp)
    · exact goto_effect _ _ _
  · exact abandon_effect _ _
  · next count counting =>
    have storing : s.stored (sender, .counted (.ok count)) = some count := by
      simp only [stored, counting]
    exact .counted count storing (by simp) (by simp [NonceManager.storeCount])
  · exact abandon_effect _ _
  · exact goto_effect _ _ _
  · exact abandon_effect _ _
  · exact goto_effect _ _ _
  · exact goto_effect _ _ _
  · next count recounting =>
    split
    · next mismatch =>
      have storing : s.stored (sender, .counted (.ok count)) = some count := by
        simp only [stored, recounting, if_pos mismatch]
      exact .recounted count storing rfl rfl
    · exact reject_effect _ _ _
  · exact reject_effect _ _ _
  · exact goto_effect _ _ _
  · exact reject_effect _ _ _
  · exact confirm_effect _ _ _
  · exact goto_effect _ _ _
  · exact .quiet (by simp) (by simp)
  · exact .quiet rfl rfl

end Effects

/-! ### Runs that never go back -/

/-- **The invariant.** The nonces handed out since the last reset are distinct, and below the counter
unless it has wrapped. Between a reset and the next count there are none. -/
structure Increasing (s : Wallet) : Prop where
  nodup : s.handedOut.Nodup
  initialized : s.handedOut ≠ [] → s.manager.initialized = true
  below : s.manager.initialized = true → s.manager.nonce ≠ 0 →
    ∀ nonce ∈ s.handedOut, nonce < s.manager.nonce

section Runs

variable {s s' : Wallet} {action : Sender × Reply}

/-- The counter after `fetch_add` is above the nonce, unless it has wrapped. -/
theorem lt_succ_of_ne_zero {nonce : UInt64} (kept : nonce + 1 ≠ 0) : nonce < nonce + 1 := by
  rw [UInt64.lt_iff_toNat_lt]
  have nonzero : (nonce + 1).toNat ≠ 0 := fun zero => kept (UInt64.toNat_inj.mp zero)
  have small := nonce.toNat_lt
  rw [UInt64.toNat_add, UInt64.toNat_one] at nonzero ⊢
  omega

/-- A nonce above all those handed out is handed out. -/
theorem Increasing.handOut (holds : s.Increasing) {nonce : UInt64}
    (above : ∀ earlier ∈ s.handedOut, earlier < nonce)
    (initialized : s'.manager.initialized = true) (next : s'.manager.nonce = nonce + 1)
    (handed : s'.handedOut = nonce :: s.handedOut) : s'.Increasing where
  nodup := by
    rw [handed]
    exact List.nodup_cons.mpr
      ⟨fun member => UInt64.lt_irrefl nonce (above nonce member), holds.nodup⟩
  initialized _ := initialized
  below := by
    intro _ kept earlier member
    rw [next] at kept ⊢
    rw [handed] at member
    rcases List.mem_cons.mp member with rfl | member
    · exact lt_succ_of_ne_zero kept
    · exact UInt64.lt_trans (above earlier member) (lt_succ_of_ne_zero kept)

/-- A count that is stored is above all nonces that were handed out. -/
theorem Increasing.above_stored (holds : s.Increasing) (forward : s.Forward action)
    {count : UInt64} (storing : s.stored action = some count) :
    ∀ earlier ∈ s.handedOut, earlier < count := by
  intro earlier member
  have initialized := holds.initialized (List.ne_nil_of_mem member)
  have kept : s.manager.nonce ≠ 0 :=
    forward.notWrapped initialized (.inl (by rw [storing]; exact Option.some_ne_none count))
  exact UInt64.lt_of_lt_of_le (holds.below initialized kept earlier member)
    (forward.notBack initialized count storing)

/-- **One step.** -/
theorem Increasing.step (holds : s.Increasing) (forward : s.Forward action) :
    (s.step action).Increasing := by
  cases step_effect (s := s) action with
  | quiet manager handed =>
    refine ⟨?_, ?_, ?_⟩
    · rw [handed]
      exact holds.nodup
    · rw [handed, manager]
      exact holds.initialized
    · rw [handed, manager]
      exact holds.below
  | taken taking initialized manager handed =>
    have kept : s.manager.nonce ≠ 0 := forward.notWrapped initialized (.inr taking)
    refine holds.handOut (holds.below initialized kept) ?_ ?_ handed
    · rw [manager]
      exact initialized
    · rw [manager]
      rfl
  | counted count storing manager handed =>
    refine holds.handOut (holds.above_stored forward storing) ?_ ?_ handed
    · rw [manager]
      rfl
    · rw [manager]
      rfl
  | recounted count storing manager handed =>
    have above := holds.above_stored forward storing
    refine ⟨?_, ?_, ?_⟩
    · rw [handed]
      exact holds.nodup
    · rw [handed, manager]
      exact holds.initialized
    · rw [handed, manager]
      exact fun _ _ => above
  | reset manager handed =>
    refine ⟨?_, ?_, ?_⟩
    · rw [handed]
      exact List.nodup_nil
    · exact fun some => absurd handed some
    · intro _ _ nonce member
      rw [handed] at member
      cases member

theorem initial_increasing : initial.Increasing where
  nodup := List.nodup_nil
  initialized some := absurd rfl some
  below _ _ _ member := absurd member List.not_mem_nil

/-- A run. -/
theorem Increasing.run {actions : List (Sender × Reply)} (holds : s.Increasing)
    (forward : s.Follows Forward actions) : (s.run actions).Increasing := by
  induction actions generalizing s with
  | nil => exact holds
  | cons action actions ih => exact ih (holds.step forward.1) forward.2

/-- **No nonce is handed out twice between two resets**, in any run in which no step writes the counter
of an initialized manager back. Every such interval ends in a state of the run. -/
theorem nonces_nodup {actions : List (Sender × Reply)} (forward : initial.Follows Forward actions) :
    (initial.run actions).handedOut.Nodup :=
  (initial_increasing.run forward).nodup

/-! ### What the lock is good for -/

/-- How a step of a reveal task changes phases and lock. -/
inductive Motion (s : Wallet) (task : ℕ) (s' : Wallet) : Prop
  | stays : s' = s → Motion s task s'
  | starts : s.revealLock = none → s'.phase = Function.update s.phase (.reveal task) .pricing →
      s'.revealLock = some task → Motion s task s'
  | moves (phase : Phase) : s.phase (.reveal task) ≠ .idle →
      s'.phase = Function.update s.phase (.reveal task) phase → s'.revealLock = s.revealLock →
      (phase = .counting → s'.manager.initialized = false) → Motion s task s'
  | ends : s.phase (.reveal task) ≠ .idle →
      s'.phase = Function.update s.phase (.reveal task) .idle → Motion s task s'

/-- A guard is held through a whole submission, and a query is only made while the manager is not
initialized. -/
structure Guarded (s : Wallet) : Prop where
  resting : s.phase .advance = .idle
  locked : ∀ task, s.phase (.reveal task) ≠ .idle → s.revealLock = some task
  fresh : ∀ task, s.phase (.reveal task) = .counting → s.manager.initialized = false

theorem ne_idle {sender : Sender} {phase : Phase} (here : s.phase sender = phase)
    (busy : phase ≠ .idle) : s.phase sender ≠ .idle := by
  rw [here]
  exact busy

theorem reject_motion {task : ℕ} (busy : s.phase (.reveal task) ≠ .idle) (error : List Char) :
    Motion s task (s.reject (.reveal task) error) := by
  show Motion s task (if nonceTooLow error then s.reset.abandon (.reveal task)
    else s.abandon (.reveal task))
  split
  · exact .moves .backingOff busy rfl rfl nofun
  · exact .moves .backingOff busy rfl rfl nofun

theorem finish_motion {task : ℕ} (busy : s.phase (.reveal task) ≠ .idle) :
    Motion s task (s.finish (.reveal task)) :=
  .ends busy rfl

theorem confirm_motion {task : ℕ} (busy : s.phase (.reveal task) ≠ .idle)
    (confirmation : Confirmation) : Motion s task (s.confirm (.reveal task) confirmation) := by
  match confirmation with
  | .receipt true => exact finish_motion busy
  | .receipt false => exact .moves .backingOff busy rfl rfl nofun
  | .error => exact .moves .backingOff busy rfl rfl nofun
  | .queried (some true) => exact .ends busy rfl
  | .queried (some false) => exact .moves .backingOff busy rfl rfl nofun
  | .queried none => exact .moves .backingOff busy rfl rfl nofun

theorem step_motion (task : ℕ) (reply : Reply) :
    Motion s task (s.step (.reveal task, reply)) := by
  unfold step
  dsimp only
  split
  · split
    · next free => exact .starts free rfl rfl
    · exact .stays rfl
  · next here =>
    split
    · exact .moves _ (ne_idle here nofun) rfl rfl nofun
    · next fresh =>
      exact .moves .counting (ne_idle here nofun) rfl rfl fun _ => eq_false_of_ne_true fresh
  · next here => exact .moves .backingOff (ne_idle here nofun) rfl rfl nofun
  · next count here => exact .moves (.filling count) (ne_idle here nofun) rfl rfl nofun
  · next here => exact .moves .backingOff (ne_idle here nofun) rfl rfl nofun
  · next nonce here => exact .moves (.sending nonce) (ne_idle here nofun) rfl rfl nofun
  · next here => exact .moves .backingOff (ne_idle here nofun) rfl rfl nofun
  · next here => exact .moves .confirming (ne_idle here nofun) rfl rfl nofun
  · next error here => exact .moves (.recounting error) (ne_idle here nofun) rfl rfl nofun
  · next error count here =>
    split
    · exact .moves (.resending count) (ne_idle here nofun) rfl rfl nofun
    · exact reject_motion (ne_idle here nofun) error
  · next error here => exact reject_motion (ne_idle here nofun) error
  · next here => exact .moves .confirming (ne_idle here nofun) rfl rfl nofun
  · next error here => exact reject_motion (ne_idle here nofun) error
  · next confirmation here => exact confirm_motion (ne_idle here nofun) confirmation
  · next here => exact .moves .pricing (ne_idle here nofun) rfl rfl nofun
  · next here => exact finish_motion (ne_idle here nofun)
  · exact .stays rfl

/-- While nobody but `task` can hold the lock, the other tasks are idle. -/
theorem Guarded.others (holds : s.Guarded) {task other : ℕ}
    (held : s.revealLock = none ∨ s.revealLock = some task) (different : other ≠ task) :
    s.phase (.reveal other) = .idle := by
  by_contra busy
  have locked := holds.locked other busy
  rcases held with free | held
  · rw [free] at locked
    cases locked
  · rw [held] at locked
    exact different (Option.some.inj locked).symm

/-- One reveal task moves, and the others are idle. -/
theorem Guarded.update (holds : s.Guarded) {task : ℕ} {phase : Phase}
    (held : s.revealLock = none ∨ s.revealLock = some task)
    (updated : s'.phase = Function.update s.phase (.reveal task) phase)
    (locked : phase ≠ .idle → s'.revealLock = some task)
    (fresh : phase = .counting → s'.manager.initialized = false) : s'.Guarded := by
  have here : s'.phase (.reveal task) = phase := by rw [updated, Function.update_self]
  have others : ∀ other, other ≠ task → s'.phase (.reveal other) = .idle := by
    intro other different
    have apart : Sender.reveal other ≠ .reveal task := fun same => different (Sender.reveal.inj same)
    rw [updated, Function.update_of_ne apart]
    exact holds.others held different
  refine ⟨?_, fun other busy => ?_, fun other counting => ?_⟩
  · have apart : Sender.advance ≠ .reveal task := nofun
    rw [updated, Function.update_of_ne apart]
    exact holds.resting
  · by_cases same : other = task
    · subst same
      exact locked (here ▸ busy)
    · exact absurd (others other same) busy
  · by_cases same : other = task
    · subst same
      exact fresh (here.symm.trans counting)
    · rw [others other same] at counting
      cases counting

theorem Guarded.step (holds : s.Guarded) (task : ℕ) (reply : Reply) :
    (s.step (.reveal task, reply)).Guarded := by
  cases step_motion (s := s) task reply with
  | stays same =>
    rw [same]
    exact holds
  | starts free updated locked => exact holds.update (.inl free) updated (fun _ => locked) nofun
  | moves phase busy updated lock fresh =>
    have held := holds.locked task busy
    exact holds.update (.inr held) updated (fun _ => lock.trans held) fresh
  | ends busy updated =>
    exact holds.update (.inr (holds.locked task busy)) updated (fun busy => absurd rfl busy) nofun

theorem Guarded.run {actions : List (Sender × Reply)} (holds : s.Guarded)
    (reveals : ∀ action ∈ actions, ∃ task, action.1 = .reveal task) : (s.run actions).Guarded := by
  induction actions generalizing s with
  | nil => exact holds
  | cons action actions ih =>
    obtain ⟨⟨task, same⟩, rest⟩ := List.forall_mem_cons.mp reveals
    have stepped := holds.step task action.2
    rw [← same] at stepped
    exact ih stepped rest

theorem initial_guarded : initial.Guarded where
  resting := rfl
  locked _ busy := absurd rfl busy
  fresh _ counting := nomatch counting

/-- **Reveal tasks alone do not race.** While only they submit, a task that awaits a transaction count
finds the manager as it left it: not initialized. -/
theorem reveals_alone {actions : List (Sender × Reply)}
    (reveals : ∀ action ∈ actions, ∃ task, action.1 = .reveal task) {task : ℕ}
    (counting : (initial.run actions).phase (.reveal task) = .counting) :
    (initial.run actions).manager.initialized = false :=
  (initial_guarded.run reveals).fresh task counting

end Runs

/-! ### Two runs from start-up -/

/-- A reveal finds the manager as the loop has left it. -/
def oneAfterAnother : List (Sender × Reply) :=
  [(.advance, .scheduled), (.advance, .answered true), (.advance, .counted (.ok 5)),
    (.reveal 0, .scheduled), (.reveal 0, .answered true)]

theorem nonces_nodup_oneAfterAnother : (initial.run oneAfterAnother).handedOut.Nodup := by
  refine nonces_nodup ⟨⟨nofun, nofun⟩, ⟨nofun, nofun⟩, ⟨nofun, nofun⟩, ⟨?_, ?_⟩, ⟨?_, ?_⟩, trivial⟩
  · exact fun _ _ none => by cases none
  · exact fun _ => by decide +kernel
  · exact fun _ _ none => by cases none
  · exact fun _ => by decide +kernel

/-- Both find the manager uninitialized, and the node answers both with the same count. -/
def bothAsk : List (Sender × Reply) :=
  [(.advance, .scheduled), (.advance, .answered true), (.reveal 0, .scheduled),
    (.reveal 0, .answered true), (.advance, .counted (.ok 5)), (.reveal 0, .counted (.ok 5))]

theorem nonce_repeated :
    (initial.run bothAsk).handedOut = [5, 5] ∧ ¬ (initial.run bothAsk).handedOut.Nodup := by
  decide +kernel

end Wallet

end Dice
