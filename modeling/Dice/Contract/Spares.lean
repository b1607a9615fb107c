/-
**One request at a time.**

Every half of a call adds, removes or locks at most one request, its target. The others keep their
records but for a callback status, and none of them comes to be in progress.

* `Spares` — this relation between two worlds.
* `Finishes.spares`, `Calls.spares`, `Resumes.spares` — the target of each half, and whose request it
  is.
-/

import Dice.Contract.Retries

set_option linter.unusedSectionVars false

namespace Dice

variable {Bytes32 : Type} (K : Keccak Bytes32) [DecidableEq Bytes32]

/-- **Only the target is touched.** -/
structure Spares (target : Option RequestKey) (w w' : World Bytes32) : Prop where
  kept : ∀ {key req}, target ≠ some key → w.state.lookup K key = some req →
    ∃ req', w'.state.lookup K key = some req' ∧ req.Same req'
  old : ∀ {key req'}, target ≠ some key → w'.state.lookup K key = some req' →
    ∃ req, w.state.lookup K key = some req ∧ req.Same req' ∧
      (req'.callbackStatus = .inProgress → req.callbackStatus = .inProgress)

variable {K} {w w' w₁ w₂ w₃ : World Bytes32} {m : Message Bytes32} {pending : Pending Bytes32}
variable {result : CallResult} {target : Option RequestKey}

theorem Request.Same.requester {req req' : Request Bytes32} (same : req.Same req') :
    req'.requester = req.requester := by
  rw [same]

theorem Spares.of_same (target : Option RequestKey) (same : w'.state.table = w.state.table) :
    Spares K target w w' where
  kept _ found := ⟨_, by rw [State.lookup_congr same]; exact found, .refl _⟩
  old := by
    intro key req' _ found
    rw [State.lookup_congr same] at found
    exact ⟨req', found, .refl _, id⟩

theorem Spares.of_removed (wf : (requestScheme K).WellFormed w.state.table) {gone : RequestKey}
    (removed : w'.state.table = (requestScheme K).remove w.state.table gone) :
    Spares K (some gone) w w' where
  kept := by
    intro key req other found
    refine ⟨req, ?_, .refl _⟩
    rw [lookup_of_removed wf removed, Function.update_of_ne fun same => other (by rw [same])]
    exact found
  old _ found := ⟨_, (found_of_removed wf removed found).2, .refl _, id⟩

/-- A status is written behind a pointer. Unless that is the target's, the status is not that of a
request in progress. -/
theorem Spares.of_status (wf : (requestScheme K).WellFormed w.state.table)
    {ref : RequestRef Bytes32} {status : CallbackStatus}
    (written : w'.state.table = (w.state.setCallbackStatus ref status).table)
    (proper : status ≠ .inProgress ∨ target = (w.state.read ref).key) : Spares K target w w' where
  kept := by
    intro key req _ found
    rw [State.lookup_congr written, State.lookup_setCallbackStatus wf]
    split
    · next live =>
      have here : w.state.lookup K key = some (w.state.read ref) :=
        SlotTable.Scheme.lookup_of_live wf live
      obtain rfl := Option.some.inj (found.symm.trans here)
      exact ⟨_, rfl, .setStatus _ _⟩
    · exact ⟨req, found, .refl _⟩
  old := by
    intro key req' other found
    rcases found_of_status wf written found with ⟨live, before, rfl⟩ | ⟨_, before⟩
    · refine ⟨_, before, .setStatus _ _, fun inProgress => ?_⟩
      rcases proper with proper | same
      · exact absurd inProgress proper
      · exact absurd (same.trans live) other
    · exact ⟨req', before, .refl _, id⟩

theorem Spares.trans (first : Spares K target w w₁) (second : Spares K target w₁ w₂) :
    Spares K target w w₂ where
  kept := by
    intro key req other found
    obtain ⟨req₁, found₁, same₁⟩ := first.kept other found
    obtain ⟨req₂, found₂, same₂⟩ := second.kept other found₁
    exact ⟨req₂, found₂, same₁.trans same₂⟩
  old := by
    intro key req₂ other found₂
    obtain ⟨req₁, found₁, same₂, free₂⟩ := second.old other found₂
    obtain ⟨req, found, same₁, free₁⟩ := first.old other found₁
    exact ⟨req, found, same₁.trans same₂, fun inProgress => free₁ (free₂ inProgress)⟩

/-! ### Every half of every call -/

theorem none_of_removed (wf : (requestScheme K).WellFormed w.state.table) {gone : RequestKey}
    (removed : w'.state.table = (requestScheme K).remove w.state.table gone) :
    w'.state.lookup K gone = none := by
  rw [lookup_of_removed wf removed, Function.update_self]

/-- What a call that finishes at once does to its target: the sender makes a request, or gets its
refund, or a reveal clears the request of somebody without code. -/
inductive Targets (K : Keccak Bytes32) (m : Message Bytes32) (w w' : World Bytes32) :
    RequestKey → Prop
  | made {key : RequestKey} {req : Request Bytes32} : w.state.lookup K key = none →
      w'.state.lookup K key = some req → req.requester = m.msg.sender → Targets K m w w' key
  | refunded {key : RequestKey} {req : Request Bytes32} : w.state.lookup K key = some req →
      req.requester = m.msg.sender → w'.state.lookup K key = none → Targets K m w w' key
  | noCallback {key : RequestKey} {req : Request Bytes32} {u v : Bytes32}
      {startingGas endingGas : ℕ} :
      m.call = .revealWithCallback key.1 key.2 u v startingGas endingGas 0 →
      w.state.lookup K key = some req → w'.state.lookup K key = none → Targets K m w w' key

theorem Finishes.spares (sound : Sound K w) (finishes : Finishes K m w w') :
    ∃ target, Spares K target w w' ∧ ∀ key, target = some key → Targets K m w w' key := by
  cases finishes with
  | @requested provider u gasLimit gasLimit10k _ checks =>
    have lookup := lookup_requested (K := K) sound m.msg u gasLimit10k checks.registered
    refine ⟨some (provider, (w.state.providers provider).sequenceNumber), ⟨?_, ?_⟩, ?_⟩
    · intro key req other found
      refine ⟨req, ?_, .refl _⟩
      rw [lookup, Function.update_of_ne fun same => other (by rw [same])]
      exact found
    · intro key req' other found
      rw [lookup, Function.update_of_ne fun same => other (by rw [same])] at found
      exact ⟨req', found, .refl _, id⟩
    · rintro _ ⟨⟩
      have found : (w.requested K m.msg provider u gasLimit10k).state.lookup K
          (provider, (w.state.providers provider).sequenceNumber) =
          some (madeRequest K w m.msg provider u gasLimit10k) := by
        rw [lookup, Function.update_self]
      exact .made (sound.fresh_none (w.requested_fresh provider)) found rfl
  | @noCallback provider n startingGas endingGas u v req call checks _ _ _ =>
    refine ⟨some (provider, n), .of_removed sound.wf rfl, ?_⟩
    rintro _ ⟨⟩
    refine .noCallback call checks.found (none_of_removed sound.wf ?_)
    rfl
  | @refundedNothing provider n req _ checks _ =>
    refine ⟨some (provider, n), .of_removed sound.wf rfl, ?_⟩
    rintro _ ⟨⟩
    refine .refunded checks.found checks.requester (none_of_removed sound.wf ?_)
    rfl
  | revealed _ checks status _ => exact absurd status (sound.withCallback checks.found)
  | administered administers =>
    exact ⟨none, .of_same _ administers.table, fun _ same => by cases same⟩
  | _ => exact ⟨none, .of_same _ rfl, fun _ same => by cases same⟩

theorem Calls.spares (sound : Sound K w) (calls : Calls K m w w₁ pending) :
    Spares K pending.target w w₁ := by
  cases calls with
  | @limited provider n _ _ _ _ v req _ checks _ _ =>
    obtain ⟨sound', _⟩ := accepted_evolves sound provider n v
    have read : (w.accepted provider n v).state.read (findRequest K w.state provider n) = req :=
      read_findRequest checks.found
    have accepted : Spares K (some (provider, n)) w (w.accepted provider n v) := .of_same _ rfl
    refine accepted.trans (.of_status sound'.wf rfl (.inr ?_))
    rw [read]
    exact (SlotTable.Scheme.lookup_key checks.found).symm
  | unlimited _ _ _ _ => exact .of_removed sound.wf rfl
  | refund _ _ _ _ _ => exact .of_removed sound.wf rfl
  | withdrawal _ _ _ _ => exact .of_same _ rfl
  | foreign _ => exact .of_same _ rfl

theorem Resumes.spares (sound : Sound K w₂) (resumes : Resumes K result w₂ pending w₃) :
    Spares K pending.target w₂ w₃ := by
  cases resumes with
  | @limitedDelivered ref provider n _ _ _ _ _ _ _ =>
    have sound' : Sound K (w₂.withStatus ref .notStarted) := sound.withStatus ref (by decide)
    have written : Spares K (some (provider, n)) w₂ (w₂.withStatus ref .notStarted) :=
      .of_status sound.wf rfl (.inl (by decide))
    exact written.trans (.of_removed sound'.wf rfl)
  | limitedFailed _ _ _ _ => exact .of_status sound.wf rfl (.inl (by decide))
  | unlimitedDelivered _ _ _ => exact .of_same _ rfl
  | unlimitedFailed _ _ _ => exact .of_same _ rfl
  | refund _ => exact .of_same _ rfl
  | withdrawal _ => exact .of_same _ rfl
  | foreign _ => exact .of_same _ rfl

end Dice
