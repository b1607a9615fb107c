/-
**What a reveal does after its callback.**

In its gas-limited branch `revealWithCallback` keeps a storage pointer to the request across the
callback. A request made in the callback may take the slot, and then the pointer names that one.

* `Isolated` — the statements after the callback change no request but the one that is revealed, and
  `Revealed` names its requester.
* `World.PointsTo` — the record behind the pointer can be written and read in place of the request.
* `reveal_isolated` — in every reachable state the reveal is isolated exactly if the callback failed or
  the pointer still points to the request in this sense.
* `reveal_not_isolated` — a nested request in the same slot loses the record that its own callback
  failed, and its requester is named in the event.
-/

import Dice.Contract.Lives

set_option linter.unusedSectionVars false

namespace Dice

variable {Bytes32 : Type} (K : Keccak Bytes32) [DecidableEq Bytes32]

/-- The callers that the `Revealed` events of a history name, newest first. -/
def Entry.revealCaller : Entry Bytes32 → Option Address
  | .emitted (.revealed _ caller _ _ _ _ _ _ _) => some caller
  | _ => none

def revealCallers (history : List (Entry Bytes32)) : List Address :=
  history.filterMap Entry.revealCaller

/-- **Isolation** of the rest of a reveal of request `req`, which stands under `key`. -/
structure Isolated (key : RequestKey) (req : Request Bytes32) (w w' : World Bytes32) : Prop where
  others : ∀ other, other ≠ key → w'.state.lookup K other = w.state.lookup K other
  caller : revealCallers w'.history = req.requester :: revealCallers w.history

/-- The record behind a pointer has the requester of `req`, and either it is the request under `key`,
or inactive, or its status is what a reveal writes. -/
structure World.PointsTo (w : World Bytes32) (ref : RequestRef Bytes32) (key : RequestKey)
    (req : Request Bytes32) : Prop where
  requester : (w.state.read ref).requester = req.requester
  record : (w.state.read ref).key = some key ∨ (w.state.read ref).key = none ∨
    (w.state.read ref).callbackStatus = .notStarted

section Isolation

variable {K} {m : Message Bytes32} {w w' w₁ w₂ w₃ : World Bytes32} {pending : Pending Bytes32}
variable {result : CallResult} {key : RequestKey} {req : Request Bytes32}
variable {ref : RequestRef Bytes32} {status : CallbackStatus}

/-- Writing a status behind a pointer leaves the other requests alone if the record there is none of
them, or has that status already. -/
theorem lookup_withStatus_of_ne (wf : (requestScheme K).WellFormed w.state.table) {other : RequestKey}
    (harmless : (w.state.read ref).key ≠ some other ∨ (w.state.read ref).callbackStatus = status) :
    (w.withStatus ref status).state.lookup K other = w.state.lookup K other := by
  show (w.state.setCallbackStatus ref status).lookup K other = w.state.lookup K other
  rw [State.lookup_setCallbackStatus wf]
  split
  · next here =>
    rcases harmless with elsewhere | same
    · exact absurd here elsewhere
    · have live : (requestScheme K).keyOf (w.state.table.read ref) = some other := here
      have found : w.state.lookup K other = some (w.state.read ref) :=
        SlotTable.Scheme.lookup_of_live wf live
      rw [found, ← same]
  · rfl

/-- Removing a request leaves the others alone. -/
theorem lookup_cleared_of_ne (wf : (requestScheme K).WellFormed w.state.table)
    {provider : Address} {n : ℕ} {other : RequestKey} (different : other ≠ (provider, n)) :
    (w.cleared K provider n).state.lookup K other = w.state.lookup K other := by
  rw [lookup_of_removed wf rfl, Function.update_of_ne different]

/-- **After a successful gas-limited callback.** -/
theorem isolated_limited_iff (sound₂ : Sound K w₂) {provider : Address} {n startingGas : ℕ}
    {u v random : Bytes32} (success : result.success = true)
    (resumes : Resumes K result w₂ (.limited ref provider n u v random startingGas) w₃) :
    Isolated K (provider, n) req w₂ w₃ ↔ w₂.PointsTo ref (provider, n) req := by
  cases resumes with
  | limitedFailed failure _ _ _ =>
    rw [success] at failure
    cases failure
  | limitedDelivered _ _ _ =>
    have written : Sound K (w₂.withStatus ref .notStarted) := sound₂.withStatus ref (by decide)
    have lookup : ∀ other, other ≠ (provider, n) →
        ((w₂.withStatus ref .notStarted).cleared K provider n).state.lookup K other =
          (w₂.withStatus ref .notStarted).state.lookup K other :=
      fun other different => lookup_cleared_of_ne written.wf different
    constructor
    · rintro ⟨others, caller⟩
      refine ⟨List.head_eq_of_cons_eq caller, ?_⟩
      cases live : (w₂.state.read ref).key with
      | none => exact .inr (.inl rfl)
      | some other =>
        by_cases same : other = (provider, n)
        · exact .inl (congrArg some same)
        · refine .inr (.inr ?_)
          have inPlace : (requestScheme K).keyOf (w₂.state.table.read ref) = some other := live
          have found : w₂.state.lookup K other = some (w₂.state.read ref) :=
            SlotTable.Scheme.lookup_of_live sound₂.wf inPlace
          have changed := (lookup other same).symm.trans (others other same)
          rw [found] at changed
          have now : (w₂.withStatus ref .notStarted).state.lookup K other =
              some { w₂.state.read ref with callbackStatus := .notStarted } := by
            show (w₂.state.setCallbackStatus ref .notStarted).lookup K other = _
            rw [State.lookup_setCallbackStatus sound₂.wf, if_pos live]
          rw [now] at changed
          exact (congrArg Request.callbackStatus (Option.some.inj changed)).symm
    · rintro ⟨requester, record⟩
      refine ⟨fun other different => ?_, congrArg (· :: revealCallers w₂.history) requester⟩
      refine (lookup other different).trans (lookup_withStatus_of_ne sound₂.wf ?_)
      rcases record with this | gone | untouched
      · refine .inl fun live => ?_
        rw [this] at live
        exact different (Option.some.inj live).symm
      · refine .inl fun live => ?_
        rw [gone] at live
        cases live
      · exact .inr untouched

/-- The other branch has taken what it needs from the request before the callback. -/
theorem isolated_unlimited (calls : Calls K m w w₁ pending) (target : pending.target = some key)
    (found : w.state.lookup K key = some req) (reveals : pending.Reveals)
    (other : ¬ pending.Limited) (resumes : Resumes K result w₂ pending w₃) :
    Isolated K key req w₂ w₃ := by
  cases calls with
  | limited _ _ _ _ => exact absurd trivial other
  | @unlimited provider n _ _ _ _ v req' _ checks _ _ =>
    cases target
    obtain rfl := checks.req_eq found
    cases resumes <;> exact ⟨fun _ _ => rfl, rfl⟩
  | refund _ _ _ _ _ => exact absurd reveals not_false
  | withdrawal _ _ _ _ => cases target
  | foreign _ => cases target

/-- After a failed callback everything that was called in it is undone, and the pointer names the
request. -/
theorem isolated_of_failure (sound : Sound K w) (calls : Calls K m w w₁ pending)
    (target : pending.target = some key) (found : w.state.lookup K key = some req)
    (reveals : pending.Reveals) (failure : result.success = false)
    (resumes : Resumes K result w₁ pending w₃) : Isolated K key req w₁ w₃ := by
  have sound₁ := (calls.advances sound).1
  by_cases limited : pending.Limited
  · cases pending with
    | limited ref provider n u v random gas =>
      cases target
      obtain ⟨checks, _, _, read₁⟩ := calls.limited_found found
      cases resumes with
      | limitedDelivered success _ _ =>
        rw [success] at failure
        cases failure
      | limitedFailed _ _ _ _ =>
        refine ⟨fun other different => ?_, ?_⟩
        · refine lookup_withStatus_of_ne sound₁.wf (.inl fun live => different ?_)
          rw [read₁] at live
          exact Option.some.inj (live.symm.trans (SlotTable.Scheme.lookup_key checks.found))
        · exact congrArg (·.requester :: revealCallers w₁.history) read₁
    | _ => cases limited
  · exact isolated_unlimited calls target found reveals limited resumes

/-- **When a reveal is isolated.** In every reachable state with a waiting reveal on top, whatever was
called in its callback: the request it is about was active when it began, and the rest of the reveal
changes no other request and names its requester exactly if this is the branch without a gas limit,
or the callback failed, or the kept pointer still points to the request. -/
theorem reveal_isolated {c : Config Bytes32} (reach : Reachable K anyCall c)
    {frame : CallStack.Frame (World Bytes32) (Pending Bytes32)}
    {rest : List (CallStack.Frame (World Bytes32) (Pending Bytes32))}
    (top : c.frames = frame :: rest) (reveals : frame.pending.Reveals) {provider : Address} {n : ℕ}
    (target : frame.pending.target = some (provider, n)) :
    ∃ req, frame.entry.state.lookup K (provider, n) = some req ∧
      ∀ result w', resume K frame.pending result
          ((dice K).resumeWorld frame result c.world) = .ok w' →
        (Isolated K (provider, n) req ((dice K).resumeWorld frame result c.world) w' ↔
          ∀ ref u v random gas, frame.pending = .limited ref provider n u v random gas →
            result.success = true → c.world.PointsTo ref (provider, n) req) := by
  obtain ⟨_, _, _, nested⟩ := reach.nested
  have sound₂ := reach.sound
  rw [top] at nested
  obtain ⟨sound, _, _, operation, _, started⟩ := nested.top
  have calls := start_calling started
  obtain ⟨req, found⟩ := calls.found target
  refine ⟨req, found, fun result w' resumed => ?_⟩
  have resumes := resume_ok calls.proper resumed
  cases success : result.success with
  | false =>
    have undone : (dice K).resumeWorld frame result c.world = frame.callWorld :=
      if_neg (Bool.eq_false_iff.mp success)
    rw [undone] at resumes ⊢
    have isolated := isolated_of_failure sound calls target found reveals success resumes
    exact ⟨fun _ _ _ _ _ _ _ true_ => Bool.noConfusion true_, fun _ => isolated⟩
  | true =>
    have kept : (dice K).resumeWorld frame result c.world = c.world := if_pos success
    rw [kept] at resumes ⊢
    by_cases limited : frame.pending.Limited
    · cases pending : frame.pending with
      | limited ref provider' n' u v random gas =>
        rw [pending] at target resumes
        cases target
        rw [isolated_limited_iff sound₂ success resumes]
        constructor
        · rintro points ref' u' v' random' gas' same _
          cases same
          exact points
        · exact fun points => points ref u v random gas rfl rfl
      | _ =>
        rw [pending] at limited
        cases limited
    · have isolated := isolated_unlimited calls target found reveals limited resumes
      refine ⟨fun _ ref u v random gas same _ => ?_, fun _ => isolated⟩
      rw [same] at limited
      exact absurd trivial limited

end Isolation

namespace Sample

def otherUser : Address := 7

/-- Another user makes the request that will get number `n`. -/
def otherRequest (n : ℕ) : Action Sym :=
  .call ⟨msg otherUser 10 (by decide), .requestV2 provider (contribution n) 0⟩

/-- The callback of the first request is about to return. -/
def plainRun : List (Action Sym) := [limitGas, request 1, reveal 1]

/-- In the callback of the first request the second was made, in the same slot, and its callback
failed. -/
def displacedRun : List (Action Sym) :=
  [limitGas, request 1, reveal 1, otherRequest 2, reveal 2, failed]

/-- The first request as it was when its reveal began. -/
def limitedRequest : Request Sym := { firstRequest with gasLimit10k := 10 }

/-- The waiting reveal of the first request, which began after the given actions. -/
def revealFrame (before : List (Action Sym)) : CallStack.Frame (World Sym) (Pending Sym) where
  entry := (after before).world
  callWorld := (after (before ++ [reveal 1])).world
  pending := .limited (.slot slot) provider 1 (contribution 1) (value 1)
    (symbolic.keccak256 [contribution 1, value 1, .atom 0]) 1000000

theorem plainRun_top : (after plainRun).frames = [revealFrame [limitGas, request 1]] := rfl

theorem displacedRun_top : (after displacedRun).frames = [revealFrame [limitGas, request 1]] := rfl

theorem revealFrame_found : (revealFrame [limitGas, request 1]).entry.state.lookup symbolic
    (provider, 1) = some limitedRequest := by
  decide +kernel

end Sample

theorem reveal_isolated_plainRun :
    ∃ w', resume symbolic (Sample.revealFrame [Sample.limitGas, Sample.request 1]).pending
        ⟨true, [], 900000⟩ (Sample.after Sample.plainRun).world = .ok w' ∧
      Isolated symbolic (Sample.provider, 1) Sample.limitedRequest
        (Sample.after Sample.plainRun).world w' := by
  obtain ⟨req, found, isolated⟩ :=
    reveal_isolated (Sample.reachable Sample.plainRun) Sample.plainRun_top trivial rfl
  have same : req = Sample.limitedRequest :=
    Option.some.inj (found.symm.trans Sample.revealFrame_found)
  subst same
  obtain ⟨w', resumed⟩ := Sample.exists_of_isOk
    (x := resume symbolic (Sample.revealFrame [Sample.limitGas, Sample.request 1]).pending
      ⟨true, [], 900000⟩ (Sample.after Sample.plainRun).world) (by decide +kernel)
  refine ⟨w', resumed, (isolated ⟨true, [], 900000⟩ w' resumed).mpr ?_⟩
  intro ref u v random gas pending _
  cases pending
  exact ⟨by decide +kernel, .inl (by decide +kernel)⟩

/-- **A request that was made in the callback, in the slot of the revealed one**: the rest of the
reveal overwrites its status, and names its requester. -/
theorem reveal_not_isolated :
    ∃ frame w', Reachable symbolic anyCall (Sample.after Sample.displacedRun) ∧
      (Sample.after Sample.displacedRun).frames = [frame] ∧
      frame.pending.target = some (Sample.provider, 1) ∧
      frame.entry.state.lookup symbolic (Sample.provider, 1) = some Sample.limitedRequest ∧
      resume symbolic frame.pending ⟨true, [], 900000⟩ (Sample.after Sample.displacedRun).world =
        .ok w' ∧
      w'.state.lookup symbolic (Sample.provider, 2) ≠
        (Sample.after Sample.displacedRun).world.state.lookup symbolic (Sample.provider, 2) ∧
      revealCallers w'.history = Sample.otherUser ::
        revealCallers (Sample.after Sample.displacedRun).world.history ∧
      Sample.otherUser ≠ Sample.limitedRequest.requester := by
  refine ⟨_, _, Sample.reachable _, Sample.displacedRun_top, rfl, Sample.revealFrame_found, rfl, ?_,
    ?_, ?_⟩
  all_goals decide +kernel

end Dice
