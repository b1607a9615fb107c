/-
**What a failed callback leaves.**

The gas-limited branch of `revealWithCallback` keeps the request when its callback fails. The other
branch, which also serves every further attempt, has cleared it before the callback.

* `KeepsPromise` — an attempt has no effect, or delivers, or announces the failure and leaves the request
  so that the same contributions reveal it again.
* `callback_kept` — the attempts that keep the promise are exactly the first ones of requests with a
  gas limit, the successful ones, and those whose gas count does not fit.
* `failed_callback_destroys` — a request without a gas limit, and one that is tried again, are gone
  after their callback failed.
-/

import Dice.Contract.Lives

set_option linter.unusedSectionVars false

namespace Dice

variable {Bytes32 : Type} (K : Keccak Bytes32) [DecidableEq Bytes32]

/-- The last thing recorded is `Revealed` for these contributions. -/
def Announces (provider : Address) (n : ℕ) (u v : Bytes32) (callbackFailed : Bool)
    (w : World Bytes32) : Prop :=
  ∃ caller random ret gasUsed earlier, w.history =
    .emitted (.revealed provider caller n random u v callbackFailed ret gasUsed) :: earlier

/-- The last things recorded are a successful callback and its `Revealed`. -/
def Delivers (provider : Address) (n : ℕ) (u v : Bytes32) (w : World Bytes32) : Prop :=
  ∃ caller random ret gasUsed earlier, w.history =
    .emitted (.revealed provider caller n random u v false ret gasUsed) :: .delivered provider n ::
      earlier

/-- A request is active, unchanged but for its status, and the contributions reveal it. -/
def Rerevealable (provider : Address) (n : ℕ) (u v : Bytes32) (req : Request Bytes32)
    (w : World Bytes32) : Prop :=
  (∃ req', w.state.lookup K (provider, n) = some req' ∧ req.Same req') ∧
    ∃ passed, revealWithCallbackChecks K w provider n u v = .ok passed

/-- **The promise to a request**: an attempt that began in `entry` and ended in `w` had no effect, or
delivered, or failed and can be repeated. -/
def KeepsPromise (provider : Address) (n : ℕ) (u v : Bytes32) (req : Request Bytes32)
    (entry w : World Bytes32) : Prop :=
  w = entry ∨ Delivers provider n u v w ∨
    Announces provider n u v true w ∧ Rerevealable K provider n u v req w

/-- A waiting reveal of a request by these contributions, which measured this gas at its start. -/
inductive Pending.Answers (provider : Address) (n : ℕ) (u v : Bytes32) (startingGas : ℕ) :
    Pending Bytes32 → Prop
  | limited {ref : RequestRef Bytes32} {random : Bytes32} :
      Answers provider n u v startingGas (.limited ref provider n u v random startingGas)
  | unlimited {callAddress : Address} {random : Bytes32} :
      Answers provider n u v startingGas (.unlimited callAddress provider n u v random startingGas)

/-- The gas that an attempt has used, as the contract counts it, fits 32 bits. -/
def GasFits (startingGas : ℕ) (result : CallResult) : Prop :=
  result.gasLeft ≤ startingGas ∧ startingGas - result.gasLeft < 2 ^ 32

section Retries

variable {K} {m : Message Bytes32} {w w' w₁ w₂ w₃ : World Bytes32} {pending : Pending Bytes32}
variable {result : CallResult} {req : Request Bytes32} {provider : Address} {n startingGas : ℕ}
variable {u v : Bytes32}

theorem Pending.Answers.target (answers : pending.Answers provider n u v startingGas) :
    pending.target = some (provider, n) := by
  cases answers <;> rfl

/-- The checks of a reveal are all it takes to pass them. -/
theorem revealWithCallbackChecks_of (checks : RevealChecks K w provider n u v req)
    (status : req.callbackStatus = .notStarted ∨ req.callbackStatus = .failed) :
    ∃ passed, revealWithCallbackChecks K w provider n u v = .ok passed := by
  have read := read_findRequest checks.found
  have active : findActiveRequest K w.state provider n = .ok (findRequest K w.state provider n) := by
    rw [findActiveRequest_eq, checks.found]
  have opens : K.keccak256 [constructUserCommitment K u,
      constructProviderCommitment K req.numHashes v] = req.commitment := by
    rw [constructProviderCommitment_eq]
    exact checks.opens
  have helper : ∃ passed, revealHelper K w (findRequest K w.state provider n) u v = .ok passed := by
    unfold revealHelper
    rw [read]
    refine ⟨_, bind_ok.mpr ⟨(), revertIf_ok.mpr (not_not.mpr opens),
      bind_ok.mpr ⟨(), revertIf_ok.mpr ?_, rfl⟩⟩⟩
    rintro ⟨uses, zero⟩
    rw [if_pos uses] at zero
    exact checks.available uses zero
  obtain ⟨passed, ok⟩ := helper
  refine ⟨_, bind_ok.mpr ⟨_, active, bind_ok.mpr ⟨(), revertIf_ok.mpr ?_, bind_ok.mpr ⟨passed, ok,
    rfl⟩⟩⟩⟩
  rw [read]
  exact not_not.mpr status

/-- **The gas-limited branch keeps the request**: when its callback fails and there was enough gas,
the request is marked as failed and can be revealed again. -/
theorem rerevealable_of_limited (sound : Sound K w) (calls : Calls K m w w₁ pending)
    (answers : pending.Answers provider n u v startingGas) (limited : pending.Limited)
    (found : w.state.lookup K (provider, n) = some req) (failure : result.success = false)
    (resumes : Resumes K result w₁ pending w₃) :
    Announces provider n u v true w₃ ∧ Rerevealable K provider n u v req w₃ := by
  have sound₁ := (calls.advances sound).1
  cases answers with
  | unlimited => cases limited
  | @limited ref _ =>
    obtain ⟨checks, _, _, read₁⟩ := calls.limited_found found
    cases resumes with
    | limitedDelivered success _ _ =>
      rw [success] at failure
      cases failure
    | limitedFailed _ _ _ _ =>
      have found₃ : (w₁.state.setCallbackStatus ref .failed).lookup K (provider, n) =
          some { req with callbackStatus := .failed } := by
        rw [State.lookup_setCallbackStatus sound₁.wf, read₁]
        exact if_pos (SlotTable.Scheme.lookup_key checks.found)
      have plain : req.useBlockhash = false := sound.noBlockhash checks.found
      refine ⟨⟨_, _, _, _, _, rfl⟩, ⟨_, found₃, .setStatus _ _⟩, ?_⟩
      have checks₃ : ∀ event, RevealChecks K ((w₁.withStatus ref .failed).emit event) provider n u v
          { req with callbackStatus := .failed } := by
        refine fun event => ⟨found₃, checks.opens, fun uses => ?_⟩
        rw [show req.useBlockhash = true from uses] at plain
        cases plain
      exact revealWithCallbackChecks_of (checks₃ _) (.inr rfl)

/-- The other branch has removed the request before its callback. -/
theorem not_rerevealable_of_gone (gone : w.Gone K (provider, n)) :
    ¬ Rerevealable K provider n u v req w := by
  rintro ⟨⟨req', found, _⟩, _⟩
  exact not_gone_of_found found gone

/-- Without a gas limit, or in a further attempt, a failed callback breaks the promise. -/
theorem not_keepsPromise_of_unlimited (sound : Sound K w) (calls : Calls K m w w₁ pending)
    (answers : pending.Answers provider n u v startingGas) (other : ¬ pending.Limited)
    (failure : result.success = false) (resumes : Resumes K result w₁ pending w₃) :
    ¬ KeepsPromise K provider n u v req w w₃ := by
  have advances := (calls.advances sound).2
  cases answers with
  | limited => exact absurd trivial other
  | unlimited =>
    have gone₁ := calls.gone sound rfl other
    cases resumes with
    | unlimitedDelivered success _ _ =>
      rw [success] at failure
      cases failure
    | unlimitedFailed _ _ _ =>
      rintro (same | ⟨_, _, _, _, _, delivered⟩ | ⟨_, again⟩)
      · have longer := advances.history.length_le
        have lengths := congrArg (fun w => w.history.length) same
        simp only [World.emit_history, List.length_cons] at lengths
        omega
      · rw [World.emit_history] at delivered
        injection delivered with first _
        injection first with event
        injection event with _ _ _ _ _ _ flag
        cases flag
      · refine not_rerevealable_of_gone ?_ again
        exact gone₁

/-- The rest of an attempt whose callback succeeded delivers. -/
theorem delivers_of_success (answers : pending.Answers provider n u v startingGas)
    (success : result.success = true) (resumes : Resumes K result w₂ pending w₃) :
    Delivers provider n u v w₃ := by
  cases answers with
  | limited =>
    cases resumes with
    | limitedDelivered _ _ _ => exact ⟨_, _, _, _, _, rfl⟩
    | limitedFailed failure _ _ _ =>
      rw [success] at failure
      cases failure
  | unlimited =>
    cases resumes with
    | unlimitedDelivered _ _ _ => exact ⟨_, _, _, _, _, rfl⟩
    | unlimitedFailed failure _ _ =>
      rw [success] at failure
      cases failure

/-- The contract refuses an attempt whose gas count does not fit. -/
theorem gasFits_of_ok (answers : pending.Answers provider n u v startingGas)
    (resumes : Resumes K result w₂ pending w₃) : GasFits startingGas result := by
  cases answers with
  | limited => cases resumes <;> exact ⟨by assumption, by assumption⟩
  | unlimited => cases resumes <;> exact ⟨by assumption, by assumption⟩

/-- Outside the gas-limited branch it refuses nothing else. -/
theorem unlimited_ok (w₂ : World Bytes32) (answers : pending.Answers provider n u v startingGas)
    (other : ¬ pending.Limited) (fits : GasFits startingGas result) :
    ∃ w₃, resume K pending result w₂ = .ok w₃ := by
  cases answers with
  | limited => exact absurd trivial other
  | unlimited =>
    exact ⟨_, bind_ok.mpr ⟨_, checkedSub_ok.mpr ⟨fits.1, rfl⟩, bind_ok.mpr ⟨_,
      toUint_ok.mpr ⟨fits.2, rfl⟩, rfl⟩⟩⟩

/-- The branch that a reveal takes is decided by the request it found. -/
theorem limited_iff (calls : Calls K m w w₁ pending)
    (answers : pending.Answers provider n u v startingGas)
    (found : w.state.lookup K (provider, n) = some req) :
    pending.Limited ↔ req.gasLimit10k ≠ 0 ∧ req.callbackStatus = .notStarted := by
  cases answers with
  | limited =>
    obtain ⟨_, status, limit, _⟩ := calls.limited_found found
    exact ⟨fun _ => ⟨limit, status⟩, fun _ => trivial⟩
  | unlimited =>
    cases calls with
    | @unlimited _ _ _ _ _ _ _ req' _ checks status _ =>
      obtain rfl := checks.req_eq found
      constructor
      · exact fun limited => limited.elim
      · rintro ⟨limit, first⟩
        rcases status with ⟨_, none⟩ | retry
        · exact absurd none limit
        · rw [first] at retry
          cases retry

/-- A reveal that makes no message call is of a request whose requester has no code. -/
theorem noCallback_of_done {msg : Msg} {startingGas endingGas len : ℕ}
    (started : start K ⟨msg, .revealWithCallback provider n u v startingGas endingGas len⟩ w =
      .done w') : len = 0 ∧ ∃ req, RevealChecks K w provider n u v req ∧
        w' = ((w.accepted provider n v).cleared K provider n).emit (.revealed provider req.requester n
          (revealedNumber K w req u v) u v false [] (startingGas - endingGas)) := by
  cases start_done started with
  | noCallback call checks _ _ _ =>
    cases call
    exact ⟨rfl, _, checks, rfl⟩
  | registered call _ => cases call
  | requested call _ => cases call
  | revealed call _ _ _ => cases call
  | refundedNothing call _ _ => cases call
  | advanced call _ => cases call
  | configured _ configures =>
    cases configures with
    | uri call => cases call
    | maxNumHashes call => cases call
    | defaultGasLimit call _ => cases call
  | administered administers =>
    cases administers with
    | proposed call _ _ => cases call
    | accepted call _ => cases call
    | defaultProvider call _ => cases call
    | fee call _ => cases call
  | forced call => cases call

/-- There is then no callback to fail. -/
theorem announces_of_done {msg : Msg} {startingGas endingGas len : ℕ}
    (started : start K ⟨msg, .revealWithCallback provider n u v startingGas endingGas len⟩ w =
      .done w') : len = 0 ∧ Announces provider n u v false w' := by
  obtain ⟨noCode, req, _, rfl⟩ := noCallback_of_done started
  exact ⟨noCode, _, _, _, _, _, rfl⟩

/-- **When the promise is kept.** In every reachable state a `revealWithCallback` that reverts has no
effect, and one that makes no call has no callback that could fail. When the message call of a
waiting reveal returns, whatever happened in it, the promise to its request is kept exactly if this
is the first attempt of a request with a gas limit, or the callback succeeded, or the contract
refuses the gas count. -/
theorem callback_kept {c : Config Bytes32} (reach : Reachable K anyCall c) :
    (∀ msg provider n u v startingGas endingGas len,
      let m : Message Bytes32 :=
        ⟨msg, .revealWithCallback provider n u v startingGas endingGas len⟩
      (∀ error, start K m c.world = .reverted error → (dice K).step c (.call m) = c) ∧
      ∀ w', start K m c.world = .done w' → len = 0 ∧ Announces provider n u v false w') ∧
    ∀ frame rest, c.frames = frame :: rest → ∀ provider n u v startingGas,
      frame.pending.Answers provider n u v startingGas →
      ∃ req, frame.entry.state.lookup K (provider, n) = some req ∧ ∀ result,
        (KeepsPromise K provider n u v req frame.entry ((dice K).step c (.ret result)).world ↔
          req.gasLimit10k ≠ 0 ∧ req.callbackStatus = .notStarted ∨ result.success = true ∨
            ¬ GasFits startingGas result) := by
  refine ⟨fun msg provider n u v startingGas endingGas len => ⟨fun error started => ?_,
    fun w' started => announces_of_done started⟩, ?_⟩
  · exact CallStack.Component.step_reverted started
  intro frame rest top provider n u v startingGas answers
  obtain ⟨_, _, _, nested⟩ := reach.nested
  rw [top] at nested
  obtain ⟨sound, _, _, operation, _, started⟩ := nested.top
  have calls := start_calling started
  obtain ⟨req, found⟩ := calls.found answers.target
  refine ⟨req, found, fun result => ?_⟩
  have stepped : ((dice K).step c (.ret result)).world = (dice K).finish frame result c.world := by
    unfold CallStack.Component.step
    rw [top]
  rw [stepped, ← limited_iff calls answers found]
  cases resumed : resume K frame.pending result ((dice K).resumeWorld frame result c.world) with
  | error error =>
    have undone : (dice K).finish frame result c.world = frame.entry :=
      CallStack.Component.finish_error resumed
    rw [undone]
    refine ⟨fun _ => ?_, fun _ => .inl rfl⟩
    by_contra unkept
    simp only [not_or, not_not] at unkept
    obtain ⟨w₃, ok⟩ := unlimited_ok (K := K) ((dice K).resumeWorld frame result c.world) answers
      unkept.1 unkept.2.2
    rw [resumed] at ok
    cases ok
  | ok w₃ =>
    have done : (dice K).finish frame result c.world = w₃ :=
      CallStack.Component.finish_ok resumed
    have resumes := resume_ok calls.proper resumed
    have fits := gasFits_of_ok answers resumes
    rw [done]
    cases success : result.success with
    | true =>
      exact ⟨fun _ => .inr (.inl rfl),
        fun _ => .inr (.inl (delivers_of_success answers success resumes))⟩
    | false =>
      have rolledBack : (dice K).resumeWorld frame result c.world = frame.callWorld :=
        if_neg (Bool.eq_false_iff.mp success)
      rw [rolledBack] at resumes
      by_cases limited : frame.pending.Limited
      · have kept := rerevealable_of_limited sound calls answers limited found success resumes
        exact ⟨fun _ => .inl limited, fun _ => .inr (.inr kept)⟩
      · refine ⟨fun kept => absurd kept ?_, ?_⟩
        · exact not_keepsPromise_of_unlimited sound calls answers limited success resumes
        · rintro (here | wrong | misfit)
          · exact absurd here limited
          · cases wrong
          · exact absurd fits misfit

end Retries

namespace Sample

/-- The first attempt of a request with a gas limit. -/
def firstAttemptRun : List (Action Sym) := [limitGas, request 1, reveal 1]

/-- The first attempt of a request without a gas limit failed. -/
def unlimitedFailureRun : List (Action Sym) := [request 1, reveal 1, failed]

/-- The second attempt of a request with a gas limit failed as well. -/
def retryFailureRun : List (Action Sym) := [limitGas, request 1, reveal 1, failed, reveal 1, failed]

end Sample

theorem callback_kept_firstAttemptRun :
    ∃ req, KeepsPromise symbolic Sample.provider 1 (Sample.contribution 1) (Sample.value 1) req
      (Sample.after [Sample.limitGas, Sample.request 1]).world
      ((dice symbolic).step (Sample.after Sample.firstAttemptRun) Sample.failed).world := by
  obtain ⟨_, waiting⟩ := callback_kept (Sample.reachable Sample.firstAttemptRun)
  obtain ⟨req, found, kept⟩ := waiting _ _ rfl _ _ _ _ _ .limited
  have limited : (req.gasLimit10k ≠ 0 ∧ req.callbackStatus = .notStarted) := by
    have conditions : ((Sample.after [Sample.limitGas, Sample.request 1]).world.state.lookup symbolic
        (Sample.provider, 1)).all fun req =>
          req.gasLimit10k ≠ 0 ∧ req.callbackStatus = .notStarted := by
      decide +kernel
    rw [show (Sample.after [Sample.limitGas, Sample.request 1]).world.state.lookup symbolic
      (Sample.provider, 1) = some req from found] at conditions
    simpa using conditions
  exact ⟨req, (kept ⟨false, [], 900000⟩).mpr (.inl limited)⟩

/-- **A failed callback destroys a request** that has no gas limit, or that is tried again: `Revealed`
says that the callback failed, and the same contributions cannot reveal the request again. -/
theorem failed_callback_destroys :
    (Reachable symbolic anyCall (Sample.after Sample.unlimitedFailureRun) ∧
      Announces Sample.provider 1 (Sample.contribution 1) (Sample.value 1) true
        (Sample.after Sample.unlimitedFailureRun).world ∧
      revealWithCallbackChecks symbolic (Sample.after Sample.unlimitedFailureRun).world
        Sample.provider 1 (Sample.contribution 1) (Sample.value 1) = .error .noSuchRequest) ∧
    (Reachable symbolic anyCall (Sample.after Sample.retryFailureRun) ∧
      Announces Sample.provider 1 (Sample.contribution 1) (Sample.value 1) true
        (Sample.after Sample.retryFailureRun).world ∧
      revealWithCallbackChecks symbolic (Sample.after Sample.retryFailureRun).world
        Sample.provider 1 (Sample.contribution 1) (Sample.value 1) = .error .noSuchRequest) :=
  ⟨⟨Sample.reachable _, ⟨_, _, _, _, _, rfl⟩, rfl⟩,
    Sample.reachable _, ⟨_, _, _, _, _, rfl⟩, rfl⟩

end Dice
