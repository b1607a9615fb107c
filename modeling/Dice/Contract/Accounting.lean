/-
**Fees in, fees out.**

* `total` — sums over the history of a run: what was paid, forced in, refunded and withdrawn.
* `Moves` — the money that a half of a call moves, in balance, accrued fees and history alike.
* `Balanced` — the invariant: the balance is the accrued fees and what was forced in, and the accrued
  fees are what was paid and neither refunded nor withdrawn.
* `Outflow` — the two ways in which ether may leave.
* `State.settings` — what only the admin changes.
* `fees_accounted` — all of this in every run.
-/

import Dice.Contract.Symbolic
import Mathlib.Algebra.BigOperators.Group.List.Basic

set_option linter.unusedSectionVars false

namespace Dice

variable {Bytes32 : Type}

/-! ### Sums over the history -/

@[simp] def Entry.paidAmount : Entry Bytes32 → ℕ
  | .paid _ amount => amount
  | _ => 0

@[simp] def Entry.forcedAmount : Entry Bytes32 → ℕ
  | .forced amount => amount
  | _ => 0

@[simp] def Entry.refundedAmount : Entry Bytes32 → ℕ
  | .refunded _ _ _ amount => amount
  | _ => 0

@[simp] def Entry.withdrawnAmount : Entry Bytes32 → ℕ
  | .withdrawn _ _ amount => amount
  | _ => 0

/-- The sum of an amount over a history, or over a part of it. -/
def total (amount : Entry Bytes32 → ℕ) (history : List (Entry Bytes32)) : ℕ :=
  (history.map amount).sum

@[simp] theorem total_cons (amount : Entry Bytes32 → ℕ) (entry : Entry Bytes32)
    (history : List (Entry Bytes32)) :
    total amount (entry :: history) = amount entry + total amount history := by
  simp [total]

/-- The transfers of ether to other accounts, newest first: recipient and amount. -/
@[simp] def Entry.transfer : Entry Bytes32 → Option (Address × ℕ)
  | .refunded _ _ recipient amount => some (recipient, amount)
  | .withdrawn _ recipient amount => some (recipient, amount)
  | _ => none

def transfers (history : List (Entry Bytes32)) : List (Address × ℕ) :=
  history.filterMap Entry.transfer

/-! ### The money a half moves -/

structure Moves (paid forced refunded withdrawn : ℕ) (w w' : World Bytes32) : Prop where
  balance : w'.balance + refunded + withdrawn = w.balance + paid + forced
  accrued : w'.state.accruedFeesInWei + refunded + withdrawn = w.state.accruedFeesInWei + paid
  paidTotal : total Entry.paidAmount w'.history = total Entry.paidAmount w.history + paid
  forcedTotal : total Entry.forcedAmount w'.history = total Entry.forcedAmount w.history + forced
  refundedTotal :
    total Entry.refundedAmount w'.history = total Entry.refundedAmount w.history + refunded
  withdrawnTotal :
    total Entry.withdrawnAmount w'.history = total Entry.withdrawnAmount w.history + withdrawn

/-- **The invariant of the books.** -/
structure Balanced (w : World Bytes32) : Prop where
  balance : w.balance = w.state.accruedFeesInWei + total Entry.forcedAmount w.history
  accrued : w.state.accruedFeesInWei + total Entry.refundedAmount w.history +
    total Entry.withdrawnAmount w.history = total Entry.paidAmount w.history

theorem Balanced.moves {paid forced refunded withdrawn : ℕ} {w w' : World Bytes32}
    (balanced : Balanced w) (moves : Moves paid forced refunded withdrawn w w') : Balanced w' := by
  obtain ⟨balance, accrued⟩ := balanced
  obtain ⟨balance', accrued', paidTotal, forcedTotal, refundedTotal, withdrawnTotal⟩ := moves
  exact ⟨by omega, by omega⟩

variable (K : Keccak Bytes32) [DecidableEq Bytes32]

section Halves

variable {K} {m : Message Bytes32} {w w' : World Bytes32} {pending : Pending Bytes32}
variable {result : CallResult}

theorem Administers.accrued {s s' : State Bytes32} (administers : Administers m s s') :
    s'.accruedFeesInWei = s.accruedFeesInWei := by
  cases administers <;> rfl

@[simp] theorem State.setProvider_accrued (s : State Bytes32) (provider : Address)
    (info : ProviderInfo Bytes32) :
    (s.setProvider provider info).accruedFeesInWei = s.accruedFeesInWei := rfl

@[simp] theorem State.setTable_accrued (s : State Bytes32)
    (table : SlotTable.Table (Fin numRequests) (FullHash Bytes32) (Request Bytes32)) :
    (s.setTable table).accruedFeesInWei = s.accruedFeesInWei := rfl

@[simp] theorem State.setCallbackStatus_accrued (s : State Bytes32) (ref : RequestRef Bytes32)
    (status : CallbackStatus) :
    (s.setCallbackStatus ref status).accruedFeesInWei = s.accruedFeesInWei := rfl

@[simp] theorem State.accrue_accrued (s : State Bytes32) (amount : ℕ) :
    (s.accrue amount).accruedFeesInWei = s.accruedFeesInWei + amount := rfl

@[simp] theorem State.release_accrued (s : State Bytes32) (amount : ℕ) :
    (s.release amount).accruedFeesInWei = s.accruedFeesInWei - amount := rfl

/-- A call that finishes at once moves in what it is paid, or what is forced in. -/
theorem Finishes.moves (finishes : Finishes K m w w') :
    ∃ paid forced, Moves paid forced 0 0 w w' := by
  cases finishes with
  | registered _ _ => exact ⟨0, 0, by constructor <;> simp [World.rotated]⟩
  | requested _ checks =>
    have paid := checks.paid
    exact ⟨m.msg.value, 0, by constructor <;> simp [World.requested, paid, Nat.add_comm]⟩
  | revealed _ _ _ _ => exact ⟨0, 0, by constructor <;> simp [World.accepted, World.cleared]⟩
  | noCallback _ _ _ _ _ => exact ⟨0, 0, by constructor <;> simp [World.accepted, World.cleared]⟩
  | refundedNothing _ _ _ => exact ⟨0, 0, by constructor <;> simp [World.cleared]⟩
  | advanced _ _ => exact ⟨0, 0, by constructor <;> simp [World.advanced]⟩
  | configured _ _ => exact ⟨0, 0, by constructor <;> simp⟩
  | administered administers => exact ⟨0, 0, by constructor <;> simp [administers.accrued]⟩
  | @forced amount _ => exact ⟨0, amount, by constructor <;> simp [Nat.add_comm]⟩

/-- A call that makes a message call moves out what it refunds or withdraws. -/
theorem Calls.moves (calls : Calls K m w w' pending) :
    ∃ refunded withdrawn, Moves 0 0 refunded withdrawn w w' := by
  cases calls with
  | limited _ _ _ _ => exact ⟨0, 0, by constructor <;> simp [World.accepted]⟩
  | unlimited _ _ _ _ => exact ⟨0, 0, by constructor <;> simp [World.accepted, World.cleared]⟩
  | @refund _ _ req _ _ _ enough funded =>
    exact ⟨req.feePaid, 0, by
      constructor <;> simp [World.refunding, World.cleared, Nat.add_comm,
        Nat.sub_add_cancel enough, Nat.sub_add_cancel funded]⟩
  | @withdrawal amount _ _ enough funded =>
    exact ⟨0, amount, by
      constructor <;> simp [Nat.add_comm, Nat.sub_add_cancel enough, Nat.sub_add_cancel funded]⟩
  | foreign _ => exact ⟨0, 0, by constructor <;> simp⟩

/-- The rest of a call moves nothing. -/
theorem Resumes.moves (resumes : Resumes K result w pending w') : Moves 0 0 0 0 w w' := by
  cases resumes with
  | limitedDelivered _ _ _ => constructor <;> simp [World.cleared]
  | limitedFailed _ _ _ _ => constructor <;> simp
  | unlimitedDelivered _ _ _ => constructor <;> simp
  | unlimitedFailed _ _ _ => constructor <;> simp
  | refund _ => constructor <;> simp
  | withdrawal _ => constructor <;> simp
  | foreign _ => constructor <;> simp

theorem balanced_rely (guard : Message Bytes32 → World Bytes32 → Prop) :
    CallStack.Rely (dice K) guard (Sound K) (Evolves K) Balanced fun _ _ => True := by
  refine rely_of_invariant ?_ ?_ ?_ ?_
  · intro m w w' _ balanced _ finishes
    obtain ⟨paid, forced, moves⟩ := finishes.moves
    exact balanced.moves moves
  · intro m w w' pending _ balanced _ calls
    obtain ⟨refunded, withdrawn, moves⟩ := calls.moves
    exact balanced.moves moves
  · exact fun _ balanced resumes => balanced.moves resumes.moves
  · exact fun balanced => ⟨balanced.balance, balanced.accrued⟩

theorem constructor_balanced {d : Deployment Bytes32} {w : World Bytes32}
    (deployed : constructor K d = .ok w) : Balanced w := by
  rcases (constructor_ok deployed).2 with ⟨_, rfl⟩ | ⟨_, rfl⟩
  · exact ⟨by simp [Deployment.world, Deployment.state, total], by
      simp [Deployment.world, Deployment.state, total]⟩
  · exact ⟨by simp [Deployment.world, Deployment.state, total], by
      simp [Deployment.world, Deployment.state, total]⟩

theorem Reachable.balanced {c : Config Bytes32} (reach : Reachable K anyCall c) : Balanced c.world :=
  (reach.holds (balanced_rely anyCall) constructor_balanced).1.2

/-! ### Where ether goes -/

/-- **The two ways out.** -/
inductive Outflow (K : Keccak Bytes32) (w : World Bytes32) (m : Message Bytes32) :
    Address → ℕ → Prop
  | withdrawal {amount : ℕ} : m.call = .withdrawFees amount → m.msg.sender = w.state.admin →
      Outflow K w m w.state.vault amount
  | refund {provider : Address} {n : ℕ} {req : Request Bytes32} :
      m.call = .refundRequest provider n → w.state.lookup K (provider, n) = some req →
      req.requester = m.msg.sender → Outflow K w m req.requester req.feePaid

/-- A half sends nothing, and the balance does not go down. -/
def SendsNothing (w w' : World Bytes32) : Prop :=
  transfers w'.history = transfers w.history ∧ w.balance ≤ w'.balance

/-- A half sends an amount, once, out of the accrued fees. -/
def Sends (recipient : Address) (amount : ℕ) (w w' : World Bytes32) : Prop :=
  transfers w'.history = (recipient, amount) :: transfers w.history ∧
    w'.balance + amount = w.balance ∧
    w'.state.accruedFeesInWei + amount = w.state.accruedFeesInWei

theorem Finishes.sendsNothing (finishes : Finishes K m w w') : SendsNothing w w' := by
  cases finishes with
  | requested _ _ => exact ⟨rfl, Nat.le_add_right _ _⟩
  | forced _ => exact ⟨rfl, Nat.le_add_right _ _⟩
  | _ => exact ⟨rfl, Nat.le_refl _⟩

theorem Calls.sends (calls : Calls K m w w' pending) :
    SendsNothing w w' ∨ ∃ recipient amount, Outflow K w m recipient amount ∧
      Sends recipient amount w w' := by
  cases calls with
  | limited _ _ _ _ => exact .inl ⟨rfl, Nat.le_refl _⟩
  | unlimited _ _ _ _ => exact .inl ⟨rfl, Nat.le_refl _⟩
  | refund call checks _ enough funded =>
    exact .inr ⟨_, _, .refund call checks.found checks.requester, rfl, Nat.sub_add_cancel funded,
      Nat.sub_add_cancel enough⟩
  | withdrawal call admin enough funded =>
    exact .inr ⟨_, _, .withdrawal call admin, rfl, Nat.sub_add_cancel funded,
      Nat.sub_add_cancel enough⟩
  | foreign _ => exact .inl ⟨rfl, Nat.le_refl _⟩

theorem Resumes.sendsNothing (resumes : Resumes K result w pending w') : SendsNothing w w' := by
  cases resumes <;> exact ⟨rfl, Nat.le_refl _⟩

/-! ### What only the admin changes -/

/-- `admin`, `feeInWei`, `vault`, `defaultProvider` and `refundDelayBlocks`. -/
def State.settings (s : State Bytes32) : Address × ℕ × Address × Address × ℕ :=
  (s.admin, s.feeInWei, s.vault, s.defaultProvider, s.refundDelayBlocks)

/-- The settings of a world, and no admin proposed. -/
def Settled (settings : Address × ℕ × Address × Address × ℕ) (w : World Bytes32) : Prop :=
  w.state.settings = settings ∧ w.state.proposedAdmin = 0

theorem Finishes.settled {settings : Address × ℕ × Address × Address × ℕ}
    (settled : Settled settings w) (outsider : m.msg.sender ≠ settings.1)
    (finishes : Finishes K m w w') : Settled settings w' := by
  obtain ⟨rfl, unproposed⟩ := settled
  cases finishes with
  | administered administers =>
    cases administers with
    | proposed _ admin _ => exact absurd admin outsider
    | accepted _ proposed => exact absurd (proposed.trans unproposed) m.msg.sender_ne_zero
    | defaultProvider _ admin => exact absurd admin outsider
    | fee _ admin => exact absurd admin outsider
  | _ => exact ⟨rfl, unproposed⟩

theorem Calls.settled {settings : Address × ℕ × Address × Address × ℕ}
    (settled : Settled settings w) (calls : Calls K m w w' pending) : Settled settings w' := by
  obtain ⟨same, unproposed⟩ := settled
  cases calls <;> exact ⟨same, unproposed⟩

theorem Resumes.settled {settings : Address × ℕ × Address × Address × ℕ}
    (settled : Settled settings w) (resumes : Resumes K result w pending w') :
    Settled settings w' := by
  obtain ⟨same, unproposed⟩ := settled
  cases resumes <;> exact ⟨same, unproposed⟩

/-- In a run without calls by the admin. -/
theorem settled_rely (settings : Address × ℕ × Address × Address × ℕ) :
    CallStack.Rely (dice K) (fun m _ => m.msg.sender ≠ settings.1) (Sound K) (Evolves K)
      (Settled settings) fun _ _ => True :=
  rely_of_invariant (fun _ settled outsider finishes => finishes.settled settled outsider)
    (fun _ settled _ calls => calls.settled settled)
    (fun _ settled resumes => resumes.settled settled) fun settled => settled

theorem constructor_settled {d : Deployment Bytes32} {w : World Bytes32}
    (deployed : constructor K d = .ok w) :
    Settled (d.admin, d.feeInWei, d.vault, d.defaultProvider, d.refundDelayBlocks) w := by
  rcases (constructor_ok deployed).2 with ⟨_, rfl⟩ | ⟨_, rfl⟩
  · exact ⟨rfl, rfl⟩
  · exact ⟨rfl, rfl⟩

/-- **Fee accounting and outflow**, in every run with whatever nesting of calls. The balance is the
accrued fees and the ether forced in; the accrued fees are what was paid and neither refunded nor
withdrawn; a call sends nothing unless it is one of the two outflows, which send their amount once;
the rest of a call sends nothing; and without a call by the admin the settings stay as deployed. -/
theorem fees_accounted {d : Deployment Bytes32} {origin : World Bytes32}
    (deployed : constructor K d = .ok origin) {c : Config Bytes32}
    (run : (dice K).Reachable anyCall ⟨origin, []⟩ c) :
    c.world.balance = c.world.state.accruedFeesInWei +
        total Entry.forcedAmount c.world.history ∧
      c.world.state.accruedFeesInWei + total Entry.refundedAmount c.world.history +
        total Entry.withdrawnAmount c.world.history = total Entry.paidAmount c.world.history ∧
      (∀ m w', start K m c.world = .done w' → SendsNothing c.world w') ∧
      (∀ m w' pending, start K m c.world = .calling w' pending → SendsNothing c.world w' ∨
        ∃ recipient amount, Outflow K c.world m recipient amount ∧
          Sends recipient amount c.world w') ∧
      (∀ frame ∈ c.frames, ∀ result w w', resume K frame.pending result w = .ok w' →
        SendsNothing w w') ∧
      ((dice K).Reachable (fun m _ => m.msg.sender ≠ d.admin) ⟨origin, []⟩ c →
        c.world.state.settings = origin.state.settings) := by
  have reach : Reachable K anyCall c := ⟨d, origin, deployed, run⟩
  have balanced := reach.balanced
  refine ⟨balanced.balance, balanced.accrued, fun m w' started => ?_, fun m w' pending started => ?_,
    fun frame member result w w' resumed => ?_, fun quiet => ?_⟩
  · exact (start_done started).sendsNothing
  · exact (start_calling started).sends
  · obtain ⟨_, _, _, nested⟩ := reach.nested
    obtain ⟨_, _, operation, _, started⟩ := nested.frame frame member
    exact (resume_ok (start_calling started).proper resumed).sendsNothing
  · have initial := constructor_settled deployed
    have rely := absolute (settled_rely (K := K)
      (d.admin, d.feeInWei, d.vault, d.defaultProvider, d.refundDelayBlocks))
    have settled := (rely.sound ⟨constructor_sound deployed, initial⟩ rfl quiet).1.2
    exact settled.1.trans initial.1.symm

end Halves

/-- Two requests, and a refund of the first. -/
def Sample.refundRun : List (Action Sym) :=
  [request 1, request 2, wait 6, fromUser (.refundRequest provider 1), succeed]

theorem fees_accounted_refundRun :
    let c := Sample.after Sample.refundRun
    c.world.balance = c.world.state.accruedFeesInWei +
        total Entry.forcedAmount c.world.history ∧
      c.world.state.accruedFeesInWei + total Entry.refundedAmount c.world.history +
        total Entry.withdrawnAmount c.world.history = total Entry.paidAmount c.world.history ∧
      (∀ m w', start symbolic m c.world = .done w' → SendsNothing c.world w') ∧
      (∀ m w' pending, start symbolic m c.world = .calling w' pending → SendsNothing c.world w' ∨
        ∃ recipient amount, Outflow symbolic c.world m recipient amount ∧
          Sends recipient amount c.world w') ∧
      (∀ frame ∈ c.frames, ∀ result w w', resume symbolic frame.pending result w = .ok w' →
        SendsNothing w w') ∧
      c.world.state.settings = Sample.world.state.settings := by
  obtain ⟨balance, accrued, finishing, calling, resuming, settings⟩ :=
    fees_accounted Sample.deployed (.of_actions _ Sample.refundRun)
  exact ⟨balance, accrued, finishing, calling, resuming, settings (.of_run _ (by decide +kernel))⟩

end Dice
