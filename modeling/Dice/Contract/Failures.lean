/-
**Requests whose callback failed.**

* `World.TellsFailures` — a request that is marked as failed has a gas limit, and a `Revealed` event
  that reports the failure. Every run keeps this (`Reachable.tellsFailures`), though the status of a
  request may be written behind the pointer of another one.
* `World.Handled` — somebody has dealt with a request: it was refunded, or a reveal cleared it, or its
  callback failed and the request waits for another attempt.
* `handled_iff` — between two transactions a request that was made is handled exactly if it is not open
  with the status `CALLBACK_NOT_STARTED`.
-/

import Dice.Contract.Reveals

set_option linter.unusedSectionVars false

namespace Dice

variable {Bytes32 : Type} (K : Keccak Bytes32) [DecidableEq Bytes32]

/-- A request that is marked as failed has a gas limit and an event of the failure. -/
def World.TellsFailures (w : World Bytes32) : Prop :=
  ∀ key req, w.state.lookup K key = some req → req.callbackStatus = .failed →
    req.gasLimit10k ≠ 0 ∧ ∃ event ∈ w.revealedEvents key, event.callbackFailed = true

/-- **The request was handled.** -/
inductive World.Handled (w : World Bytes32) (key : RequestKey) : Prop
  | refunded : w.Gone K key → 0 < w.refunds key → Handled w key
  | cleared {event : RevealedFilter Bytes32} : w.ClearedBy K key event → Handled w key
  | failed {req : Request Bytes32} {event : RevealedFilter Bytes32} :
      w.state.lookup K key = some req → req.callbackStatus = .failed → req.gasLimit10k ≠ 0 →
      event ∈ w.revealedEvents key → event.callbackFailed = true → Handled w key

section Failures

variable {K} {m : Message Bytes32} {w w' w₁ w₂ w₃ : World Bytes32} {pending : Pending Bytes32}
variable {result : CallResult} {key : RequestKey} {req : Request Bytes32}

/-! ### Each half -/

/-- No request is newly marked as failed. -/
def MarksNone (K : Keccak Bytes32) (w w' : World Bytes32) : Prop :=
  ∀ key req, w'.state.lookup K key = some req → req.callbackStatus = .failed →
    w.state.lookup K key = some req

theorem World.TellsFailures.carry (tells : w.TellsFailures K) (grows : w.history <:+ w'.history)
    (none : MarksNone K w w') : w'.TellsFailures K := by
  intro key req found failed
  obtain ⟨limited, event, member, reported⟩ := tells key req (none key req found failed) failed
  exact ⟨limited, event, (grows.filterMap _).subset member, reported⟩

theorem MarksNone.of_same (same : w'.state.table = w.state.table) : MarksNone K w w' := by
  intro key req found _
  rwa [State.lookup_congr same] at found

theorem MarksNone.of_removed (wf : (requestScheme K).WellFormed w.state.table)
    (removed : w'.state.table = (requestScheme K).remove w.state.table key) : MarksNone K w w' :=
  fun _ _ found _ => (found_of_removed wf removed found).2

/-- A status other than `CALLBACK_FAILED` is written behind a pointer. -/
theorem MarksNone.of_status (wf : (requestScheme K).WellFormed w.state.table)
    {ref : RequestRef Bytes32} {status : CallbackStatus} (other : status ≠ .failed)
    (written : w'.state.table = (w.state.setCallbackStatus ref status).table) : MarksNone K w w' := by
  intro key req found failed
  rcases found_of_status wf written found with ⟨_, _, rfl⟩ | ⟨_, before⟩
  · exact absurd failed other
  · exact before

theorem MarksNone.trans (first : MarksNone K w w₁) (second : MarksNone K w₁ w₂) :
    MarksNone K w w₂ :=
  fun key req found failed => first key req (second key req found failed) failed

theorem Finishes.marksNone (sound : Sound K w) (finishes : Finishes K m w w') : MarksNone K w w' := by
  cases finishes with
  | @requested provider u _ gasLimit10k _ checks =>
    intro key req found failed
    rw [lookup_requested sound m.msg u gasLimit10k checks.registered] at found
    by_cases made : key = (provider, (w.state.providers provider).sequenceNumber)
    · rw [made, Function.update_self] at found
      cases found
      cases failed
    · rwa [Function.update_of_ne made] at found
  | revealed _ _ _ _ => exact .of_removed sound.wf rfl
  | noCallback _ _ _ _ _ => exact .of_removed sound.wf rfl
  | refundedNothing _ _ _ => exact .of_removed sound.wf rfl
  | administered administers => exact .of_same administers.table
  | _ => exact .of_same rfl

theorem Calls.marksNone (sound : Sound K w) (calls : Calls K m w w₁ pending) :
    MarksNone K w w₁ := by
  cases calls with
  | limited _ _ _ _ => exact .of_status sound.wf (by decide) rfl
  | unlimited _ _ _ _ => exact .of_removed sound.wf rfl
  | refund _ _ _ _ _ => exact .of_removed sound.wf rfl
  | _ => exact .of_same rfl

/-- **Only a failed gas-limited callback marks a request**, its own, and says so in the event. -/
theorem whole_tellsFailures (calls : Calls K m w w₁ pending) (sound₁ : Sound K w₁)
    (sound₂ : Sound K w₂) (tells : w₂.TellsFailures K)
    (resumes : Resumes K result w₂ pending w₃) (undone : result.success = false → w₂ = w₁) :
    w₃.TellsFailures K := by
  have grows := (resumes.keeps sound₂).2.history
  cases resumes with
  | @limitedDelivered ref provider n _ _ _ _ _ _ _ =>
    have written : Sound K (w₂.withStatus ref .notStarted) := sound₂.withStatus ref (by decide)
    have status : MarksNone K w₂ (w₂.withStatus ref .notStarted) :=
      .of_status sound₂.wf (by decide) rfl
    exact tells.carry grows (status.trans (.of_removed written.wf rfl))
  | @limitedFailed ref provider n startingGas u v random failure _ _ _ =>
    obtain rfl := undone failure
    obtain ⟨before, found⟩ := calls.found rfl
    obtain ⟨checks, _, limit, read⟩ := calls.limited_found found
    have here : (w₂.state.read ref).key = some (provider, n) := by
      rw [read]
      exact SlotTable.Scheme.lookup_key checks.found
    intro key req marked failed
    rcases found_of_status sound₁.wf rfl marked with ⟨live, _, rfl⟩ | ⟨_, old⟩
    · -- the pointer names the request of the reveal
      obtain rfl : (provider, n) = key := Option.some.inj (here.symm.trans live)
      refine ⟨?_, ⟨provider, (w₂.state.read ref).requester, n, random, u, v, true,
        result.returnData.take 256, startingGas - result.gasLeft⟩, ?_, rfl⟩
      · show (w₂.state.read ref).gasLimit10k ≠ 0
        rw [read]
        exact limit
      · rw [revealedEvents_emit]
        exact List.mem_append_left _ (by simp)
    · obtain ⟨limited, event, member, reported⟩ := tells key req old failed
      exact ⟨limited, event, (grows.filterMap _).subset member, reported⟩
  | _ => exact tells.carry grows (.of_same rfl)

/-! ### Runs -/

theorem tellsFailures_rely (guard : Message Bytes32 → World Bytes32 → Prop) :
    CallStack.Rely (dice K) guard (Sound K) (Evolves K) (World.TellsFailures K) fun _ _ => True :=
  rely_of_halves (fun _ => trivial) (fun _ _ _ _ _ => trivial)
    (fun sound tells _ finishes _ evolves =>
      ⟨tells.carry evolves.history (finishes.marksNone sound), trivial⟩)
    (fun sound tells _ calls _ =>
      tells.carry (calls.advances sound).2.history (calls.marksNone sound))
    (fun _ _ _ calls sound₁ _ sound₂ tells₂ _ _ resumes undone _ =>
      ⟨whole_tellsFailures calls sound₁ sound₂ tells₂ resumes undone, trivial⟩)
    fun tells => ⟨tells, trivial⟩

variable {guard : Message Bytes32 → World Bytes32 → Prop} {c : Config Bytes32}

theorem Reachable.tellsFailures (reach : Reachable K guard c) : c.world.TellsFailures K := by
  have initial : ∀ {d : Deployment Bytes32} {w}, constructor K d = .ok w → w.TellsFailures K := by
    intro d w deployed key req found _
    rw [constructor_lookup deployed] at found
    cases found
  exact (reach.holds (tellsFailures_rely guard) initial).1.2

/-- Between two transactions no request is in progress. -/
theorem Reachable.not_inProgress (reach : Reachable K guard c) (idle : c.frames = [])
    (found : c.world.state.lookup K key = some req) : req.callbackStatus ≠ .inProgress := by
  obtain ⟨d, origin, deployed, nested⟩ := reach.nested
  rw [idle] at nested
  intro inProgress
  obtain ⟨before, existed, _⟩ := nested.idle.settled found inProgress
  rw [constructor_lookup deployed] at existed
  cases existed

/-- **Which requests are handled**: all that are not open and waiting for their first attempt. -/
theorem handled_iff (reach : Reachable K guard c) (idle : c.frames = [])
    (made : c.world.requests key ≠ []) :
    c.world.Handled K key ↔
      ∀ req, c.world.state.lookup K key = some req → req.callbackStatus ≠ .notStarted := by
  constructor
  · intro handled req found fresh
    cases handled with
    | refunded gone _ => exact not_gone_of_found found gone
    | cleared cleared => exact not_gone_of_found found cleared.gone
    | failed found' failed _ _ _ =>
      rw [found] at found'
      cases found'
      rw [fresh] at failed
      cases failed
  · intro started
    have used : c.world.Used key := by
      by_contra fresh
      exact made ((reach.reported key).unused fresh).2
    cases found : c.world.state.lookup K key with
    | none =>
      rcases gone_cases reach idle ⟨used, found⟩ made with refunded | ⟨event, cleared⟩
      · exact .refunded ⟨used, found⟩ refunded
      · exact .cleared cleared
    | some req =>
      have failed : req.callbackStatus = .failed := by
        cases status : req.callbackStatus with
        | notNecessary => exact absurd status (reach.sound.withCallback found)
        | notStarted => exact absurd status (started req found)
        | inProgress => exact absurd status (reach.not_inProgress idle found)
        | failed => rfl
      obtain ⟨limited, event, member, reported⟩ := reach.tellsFailures key req found failed
      exact .failed found failed limited member reported

end Failures

end Dice
