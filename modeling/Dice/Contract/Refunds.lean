/-
**When refunds can be paid.**

All fees are in one pool, `accruedFeesInWei`, from which `withdrawFees` may take everything.

* `Solvent` — the pool covers the fees of all active requests together.
* `LeavesCover` — the withdrawals that leave that much in the pool; in runs that make no others the
  contract stays solvent.
* `refund_paid` — a due refund pays the recorded fee if the pool has it, and reverts if not; in runs
  whose withdrawals leave cover it always pays.
-/

import Dice.Contract.Accounting
import Dice.Library.Pool

set_option linter.unusedSectionVars false

namespace Dice

open Pool (Covers)

variable {Bytes32 : Type} (K : Keccak Bytes32) [DecidableEq Bytes32]

/-- What a refund of the request would pay; nothing when it is not active. -/
def World.owed (w : World Bytes32) (key : RequestKey) : ℕ :=
  match w.state.lookup K key with
  | some req => req.feePaid
  | none => 0

/-- **The pool covers the fees of all active requests.** -/
def Solvent (w : World Bytes32) : Prop :=
  Covers w.state.accruedFeesInWei (w.owed K)

/-- A withdrawal leaves the fees of all active requests in the pool. -/
def LeavesCover (m : Message Bytes32) (w : World Bytes32) : Prop :=
  ∀ amount, m.call = .withdrawFees amount →
    ∀ F : Finset RequestKey, amount + ∑ key ∈ F, w.owed K key ≤ w.state.accruedFeesInWei

section Invariant

variable {K} {m : Message Bytes32} {w w' : World Bytes32} {pending : Pending Bytes32}
variable {result : CallResult}

theorem owed_of_found {key : RequestKey} {req : Request Bytes32}
    (found : w.state.lookup K key = some req) : w.owed K key = req.feePaid := by
  unfold World.owed
  rw [found]

theorem owed_of_none {key : RequestKey} (absent : w.state.lookup K key = none) :
    w.owed K key = 0 := by
  unfold World.owed
  rw [absent]

/-- A half that makes no request owes no more after it. -/
theorem Narrows.owed_le (narrows : Narrows K w w') (key : RequestKey) :
    w'.owed K key ≤ w.owed K key := by
  cases found : w'.state.lookup K key with
  | none =>
    rw [owed_of_none found]
    exact Nat.zero_le _
  | some req' =>
    obtain ⟨req, before, same⟩ := narrows found
    unfold Request.Same at same
    rw [owed_of_found found, owed_of_found before, same]

theorem Finishes.solvent (sound : Sound K w) (solvent : Solvent K w)
    (finishes : Finishes K m w w') : Solvent K w' := by
  rcases finishes.narrows sound with narrows | ⟨provider, u, _, gasLimit10k, checks, rfl⟩
  · obtain ⟨paid, _, moves⟩ := finishes.moves
    have accrued := moves.accrued
    exact (solvent.mono narrows.owed_le).grow (by omega)
  · have lookup := lookup_requested (K := K) sound m.msg u gasLimit10k checks.registered
    refine solvent.incur (provider, (w.state.providers provider).sequenceNumber)
      (fun key different => ?_) ?_
    · unfold World.owed
      rw [lookup, Function.update_of_ne different]
    · rw [owed_of_found (by rw [lookup, Function.update_self])]
      exact Nat.le_refl _

theorem Calls.solvent (sound : Sound K w) (solvent : Solvent K w) (leaves : LeavesCover K m w)
    (calls : Calls K m w w' pending) : Solvent K w' := by
  have shrinks := (calls.narrows sound).owed_le
  cases calls with
  | limited _ _ _ _ => exact solvent.mono shrinks
  | unlimited _ _ _ _ => exact solvent.mono shrinks
  | @refund provider n req _ checks _ _ _ =>
    have paid := solvent.settle (provider, n) shrinks (owed_of_none (by
      rw [lookup_of_removed sound.wf rfl, Function.update_self]))
    rw [owed_of_found checks.found] at paid
    exact paid
  | withdrawal call _ _ _ => exact (Covers.withdraw (leaves _ call)).mono shrinks
  | foreign _ => exact solvent

theorem solvent_rely :
    CallStack.Rely (dice K) (LeavesCover K) (Sound K) (Evolves K) (Solvent K) fun _ _ => True := by
  refine rely_of_invariant ?_ ?_ ?_ ?_
  · exact fun sound solvent _ finishes => finishes.solvent sound solvent
  · exact fun sound solvent leaves calls => calls.solvent sound solvent leaves
  · intro result w pending w' sound solvent resumes
    have accrued := resumes.moves.accrued
    exact (solvent.mono (resumes.narrows sound).owed_le).grow (by omega)
  · exact fun solvent => solvent

theorem constructor_solvent {d : Deployment Bytes32} {w : World Bytes32}
    (deployed : constructor K d = .ok w) : Solvent K w := by
  intro F
  rw [Finset.sum_eq_zero fun key _ => owed_of_none (constructor_lookup deployed key)]
  exact Nat.zero_le _

/-! ### The refund itself -/

/-- The checks of a refund are all it takes to get to the transfer. -/
theorem refundRequestChecks_of {msg : Msg} {provider : Address} {n : ℕ} {req : Request Bytes32}
    (checks : RefundChecks K w msg provider n req) :
    refundRequestChecks K w msg provider n =
      .ok (w.cleared K provider n, req.requester, req.feePaid) := by
  have nonzero := nonzero_of_found checks.found
  have read := read_findRequest checks.found
  have due := checks.due
  unfold refundRequestChecks
  rw [findActiveRequest_eq, checks.found]
  simp only [bind, Except.bind, read, revertIf, checks.requester, ne_eq, not_true_eq_false,
    if_false, Nat.not_lt.mpr due, setState_clearRequest nonzero]
  rfl

/-- **A refund that goes through**: it pays the recorded fee, once, the request is gone, and when
the requester has taken the ether the rest cannot fail. -/
def Refunds (K : Keccak Bytes32) (w : World Bytes32) (msg : Msg) (provider : Address) (n : ℕ)
    (req : Request Bytes32) : Prop :=
  if req.feePaid = 0 then
    start K ⟨msg, .refundRequest provider n⟩ w =
      .done ((w.cleared K provider n).emit (.requestRefunded provider req.requester n 0))
  else
    start K ⟨msg, .refundRequest provider n⟩ w =
      .calling (w.refunding K provider n req) (.refund provider req.requester n req.feePaid) ∧
    Sends req.requester req.feePaid w (w.refunding K provider n req) ∧
    ∀ result w₂, result.success = true →
      resume K (.refund provider req.requester n req.feePaid) result w₂ =
        .ok (w₂.emit (.requestRefunded provider req.requester n req.feePaid))

theorem start_refundRequest {msg : Msg} {provider : Address} {n : ℕ} (free : msg.value = 0) :
    start K ⟨msg, .refundRequest provider n⟩ w = refundRequest K w msg provider n := by
  unfold start
  rw [if_neg (by simp [free])]

theorem refunds_of_enough {msg : Msg} {provider : Address} {n : ℕ} {req : Request Bytes32}
    (checks : RefundChecks K w msg provider n req) (free : msg.value = 0)
    (enough : req.feePaid ≤ w.state.accruedFeesInWei) (funded : req.feePaid ≤ w.balance) :
    Refunds K w msg provider n req := by
  unfold Refunds
  rw [start_refundRequest free]
  unfold refundRequest
  simp only [refundRequestChecks_of checks]
  split
  · next nothing => rw [nothing, if_neg (Nat.lt_irrefl 0)]
  · next positive =>
    refine ⟨?_, ⟨rfl, Nat.sub_add_cancel funded, Nat.sub_add_cancel enough⟩, fun result w₂ success =>
      ?_⟩
    · have sent : refundTransfer (w.cleared K provider n) provider n req.requester req.feePaid =
          .ok (w.refunding K provider n req) := by
        have enough' : (w.cleared K provider n).state.accruedFeesInWei ≥ req.feePaid := enough
        have funded' : (w.cleared K provider n).balance ≥ req.feePaid := funded
        simp only [refundTransfer, require, bind, Except.bind, enough', World.setState_balance,
          funded', if_true]
        rfl
      rw [if_pos (Nat.pos_of_ne_zero positive), sent]
    · show refundRequestSent w₂ provider req.requester n req.feePaid result = _
      unfold refundRequestSent require
      rw [if_pos success]
      rfl

theorem refund_reverts_of_less {msg : Msg} {provider : Address} {n : ℕ} {req : Request Bytes32}
    (checks : RefundChecks K w msg provider n req) (free : msg.value = 0)
    (less : w.state.accruedFeesInWei < req.feePaid) :
    start K ⟨msg, .refundRequest provider n⟩ w =
      .reverted (.require "Insufficient accrued fees") := by
  rw [start_refundRequest free]
  unfold refundRequest
  simp only [refundRequestChecks_of checks]
  have refused : refundTransfer (w.cleared K provider n) provider n req.requester req.feePaid =
      .error (.require "Insufficient accrued fees") := by
    have short : ¬ (w.cleared K provider n).state.accruedFeesInWei ≥ req.feePaid :=
      Nat.not_le.mpr less
    simp only [refundTransfer, require, bind, Except.bind, short, if_false]
  rw [if_pos (Nat.lt_of_le_of_lt (Nat.zero_le _) less), refused]

/-- **When a due refund is paid.** In every reachable state a due refund, called by the requester of
an active request, pays exactly the recorded fee if the accrued fees suffice, and reverts if they do
not. In a run whose withdrawals leave the fees of all active requests in the pool they always do. -/
theorem refund_paid {c : Config Bytes32} (reach : Reachable K anyCall c) :
    (∀ msg provider n req, RefundChecks K c.world msg provider n req → msg.value = 0 →
      (req.feePaid ≤ c.world.state.accruedFeesInWei → Refunds K c.world msg provider n req) ∧
      (c.world.state.accruedFeesInWei < req.feePaid →
        start K ⟨msg, .refundRequest provider n⟩ c.world =
          .reverted (.require "Insufficient accrued fees"))) ∧
    (Reachable K (LeavesCover K) c → Solvent K c.world ∧
      ∀ msg provider n req, RefundChecks K c.world msg provider n req → msg.value = 0 →
        Refunds K c.world msg provider n req) := by
  have balanced := reach.balanced
  have funded : ∀ {amount}, amount ≤ c.world.state.accruedFeesInWei →
      amount ≤ c.world.balance := by
    intro amount enough
    have balance := balanced.balance
    omega
  refine ⟨fun msg provider n req checks free => ⟨fun enough => ?_, fun less => ?_⟩,
    fun careful => ?_⟩
  · exact refunds_of_enough checks free enough (funded enough)
  · exact refund_reverts_of_less checks free less
  · have solvent := (careful.holds solvent_rely constructor_solvent).1.2
    refine ⟨solvent, fun msg provider n req checks free => ?_⟩
    have enough := solvent.le (provider, n)
    rw [owed_of_found checks.found] at enough
    exact refunds_of_enough checks free enough (funded enough)

end Invariant

namespace Sample

/-- Two requests, and the refund delay. -/
def dueRun : List (Action Sym) := [request 1, request 2, wait 6]

/-- The fee of the only request is withdrawn before its refund is due. -/
def drainedRun : List (Action Sym) := [request 1, fromAdmin (.withdrawFees 10), succeed, wait 6]

theorem dueRun_checks : RefundChecks symbolic (after dueRun).world (msg user 0 user_ne_zero) provider
    1 firstRequest :=
  ⟨by decide +kernel, rfl, by decide +kernel⟩

theorem drainedRun_checks : RefundChecks symbolic (after drainedRun).world
    (msg user 0 user_ne_zero) provider 1 firstRequest :=
  ⟨by decide +kernel, rfl, by decide +kernel⟩

/-- No call of the run withdraws anything. -/
theorem dueRun_leavesCover : Reachable symbolic (LeavesCover symbolic) (after dueRun) :=
  ⟨deployment, world, deployed, .of_run _ ⟨nofun, nofun, trivial, trivial⟩⟩

end Sample

theorem refund_paid_dueRun :
    let c := Sample.after Sample.dueRun
    Solvent symbolic c.world ∧ Refunds symbolic c.world (Sample.msg Sample.user 0 Sample.user_ne_zero)
      Sample.provider 1 Sample.firstRequest := by
  intro c
  obtain ⟨solvent, refunds⟩ :=
    (refund_paid (Sample.reachable Sample.dueRun)).2 Sample.dueRun_leavesCover
  exact ⟨solvent, refunds _ _ _ _ Sample.dueRun_checks rfl⟩

/-- **The pool can be emptied while a request waits**: its due refund reverts. -/
theorem refund_drained :
    let c := Sample.after Sample.drainedRun
    Reachable symbolic anyCall c ∧ ¬ Solvent symbolic c.world ∧
      RefundChecks symbolic c.world (Sample.msg Sample.user 0 Sample.user_ne_zero) Sample.provider 1
        Sample.firstRequest ∧
      start symbolic ⟨Sample.msg Sample.user 0 Sample.user_ne_zero, .refundRequest Sample.provider 1⟩
        c.world = .reverted (.require "Insufficient accrued fees") := by
  intro c
  have less : c.world.state.accruedFeesInWei < Sample.firstRequest.feePaid := by decide +kernel
  refine ⟨Sample.reachable _, fun solvent => ?_, Sample.drainedRun_checks,
    refund_reverts_of_less Sample.drainedRun_checks rfl less⟩
  have enough := solvent.le (Sample.provider, 1)
  rw [owed_of_found Sample.drainedRun_checks.found] at enough
  exact absurd less (Nat.not_lt.mpr enough)

end Dice
