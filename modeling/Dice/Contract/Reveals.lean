/-
**What the `Revealed` events of a request tell.**

* `World.revealedEvents` — the `Revealed` events of a request, newest first, as a client decodes them.
* `World.ClearedBy` — the request was cleared by the reveal that emitted an event.
* `cleared_by_reveal` — whenever a request that was made is gone and was not refunded, a reveal cleared
  it, after the request was last seen; the earlier events of the request report failed callbacks.
* `gone_cases` — the ways in which a request can be gone.
-/

import Dice.Contract.Callbacks
import Dice.Contract.Settlement

set_option linter.unusedSectionVars false

namespace Dice

variable {Bytes32 : Type}

/-- `RevealedFilter`, the decoded event. -/
structure RevealedFilter (Bytes32 : Type) where
  provider : Address
  caller : Address
  sequenceNumber : ℕ
  randomNumber : Bytes32
  userContribution : Bytes32
  providerContribution : Bytes32
  callbackFailed : Bool
  callbackReturnValue : Bytes
  callbackGasUsed : ℕ
  deriving DecidableEq, Repr

/-- The event that an entry of the history is for a request, if it is a `Revealed`. -/
@[simp] def Entry.revealedEvent (key : RequestKey) :
    Entry Bytes32 → Option (RevealedFilter Bytes32)
  | .emitted (.revealed provider caller n random u v callbackFailed returnValue gasUsed) =>
      if (provider, n) = key then
        some ⟨provider, caller, n, random, u, v, callbackFailed, returnValue, gasUsed⟩
      else none
  | _ => none

/-- The entry is the `Requested` event of a request. -/
@[simp] def Entry.requests (key : RequestKey) : Entry Bytes32 → Bool
  | .emitted (.requested provider _ n _ _) => (provider, n) = key
  | _ => false

/-- The `Revealed` events of a request, newest first. -/
def World.revealedEvents (w : World Bytes32) (key : RequestKey) : List (RevealedFilter Bytes32) :=
  w.history.filterMap (Entry.revealedEvent key)

/-- The `Requested` events of a request. -/
def World.requests (w : World Bytes32) (key : RequestKey) : List (Entry Bytes32) :=
  w.history.filter (Entry.requests key)

section Logs

variable (w : World Bytes32) (key : RequestKey)

@[simp] theorem revealedEvents_setState (s : State Bytes32) :
    (w.setState s).revealedEvents key = w.revealedEvents key := rfl

@[simp] theorem revealedEvents_record (entry : Entry Bytes32) :
    (w.record entry).revealedEvents key =
      (Entry.revealedEvent key entry).toList ++ w.revealedEvents key := by
  unfold World.revealedEvents
  rw [World.record_history, List.filterMap_cons]
  cases Entry.revealedEvent key entry <;> rfl

@[simp] theorem revealedEvents_emit (event : Event Bytes32) :
    (w.emit event).revealedEvents key =
      (Entry.revealedEvent key (.emitted event)).toList ++ w.revealedEvents key :=
  revealedEvents_record w key _

@[simp] theorem revealedEvents_receive (amount : ℕ) :
    (w.receive amount).revealedEvents key = w.revealedEvents key := rfl

@[simp] theorem revealedEvents_send (amount : ℕ) :
    (w.send amount).revealedEvents key = w.revealedEvents key := rfl

@[simp] theorem requests_setState (s : State Bytes32) :
    (w.setState s).requests key = w.requests key := rfl

@[simp] theorem requests_record (entry : Entry Bytes32) :
    (w.record entry).requests key =
      if Entry.requests key entry then entry :: w.requests key else w.requests key :=
  List.filter_cons

@[simp] theorem requests_emit (event : Event Bytes32) :
    (w.emit event).requests key =
      if Entry.requests key (.emitted event) then .emitted event :: w.requests key
      else w.requests key :=
  List.filter_cons

@[simp] theorem requests_receive (amount : ℕ) :
    (w.receive amount).requests key = w.requests key := rfl

@[simp] theorem requests_send (amount : ℕ) : (w.send amount).requests key = w.requests key := rfl

end Logs

variable (K : Keccak Bytes32) [DecidableEq Bytes32]

/-- **The reveal that cleared a request** emitted `event`: the request is gone, nobody refunded it, and
this is the last that was revealed of it. -/
structure World.ClearedBy (w : World Bytes32) (key : RequestKey) (event : RevealedFilter Bytes32) :
    Prop where
  gone : w.Gone K key
  unrefunded : w.refunds key = 0
  last : (w.revealedEvents key).head? = some event

/-- **The invariant**: nothing is on record of an unused number, and only the last `Revealed` of a
request that is gone reports a success. -/
structure Reported (w : World Bytes32) (key : RequestKey) : Prop where
  unused : ¬ w.Used key → w.revealedEvents key = [] ∧ w.requests key = []
  waiting : ¬ w.Gone K key → ∀ event ∈ w.revealedEvents key, event.callbackFailed = true
  earlier : ∀ event ∈ (w.revealedEvents key).tail, event.callbackFailed = true

/-- What whole calls add to the record of a request: a shut request is not revealed again, a used
number is not requested again, and a request does not go without a new event. -/
structure Reports (w w' : World Bytes32) (key : RequestKey) : Prop where
  grows : w.history <:+ w'.history
  used : w.Used key → w'.Used key
  shut : w.Shut K key → w'.Shut K key ∧ w'.revealedEvents key = w.revealedEvents key
  requests : w.Used key → w'.requests key = w.requests key
  settles : ¬ w.Gone K key → w'.Gone K key → w'.requests key ≠ [] → w'.refunds key = 0 →
    (w.revealedEvents key).length < (w'.revealedEvents key).length

section Record

variable {K} {m : Message Bytes32} {u v w w' w₁ w₂ w₃ : World Bytes32} {pending : Pending Bytes32}
variable {result : CallResult} {key : RequestKey}

@[simp] theorem revealedEvents_accepted (w : World Bytes32) (provider : Address) (n : ℕ)
    (v : Bytes32) (key : RequestKey) :
    (w.accepted provider n v).revealedEvents key = w.revealedEvents key :=
  revealedEvents_record _ _ _

@[simp] theorem revealedEvents_cleared (w : World Bytes32) (provider : Address) (n : ℕ)
    (key : RequestKey) : (w.cleared K provider n).revealedEvents key = w.revealedEvents key := rfl

@[simp] theorem requests_accepted (w : World Bytes32) (provider : Address) (n : ℕ) (v : Bytes32)
    (key : RequestKey) : (w.accepted provider n v).requests key = w.requests key :=
  requests_record _ _ _

@[simp] theorem requests_cleared (w : World Bytes32) (provider : Address) (n : ℕ)
    (key : RequestKey) : (w.cleared K provider n).requests key = w.requests key := rfl

/-! ### Composition -/

theorem refunds_mono (grows : w.history <:+ w'.history) : w.refunds key ≤ w'.refunds key :=
  (grows.sublist.filterMap _).count_le _

theorem revealedEvents_length_mono (grows : w.history <:+ w'.history) :
    (w.revealedEvents key).length ≤ (w'.revealedEvents key).length :=
  (grows.sublist.filterMap _).length_le

theorem Reports.refl (w : World Bytes32) (key : RequestKey) : Reports K w w key where
  grows := List.suffix_refl _
  used := id
  shut shut := ⟨shut, rfl⟩
  requests _ := rfl
  settles alive gone := absurd gone alive

theorem Reports.trans (first : Reports K u v key) (second : Reports K v w key) :
    Reports K u w key where
  grows := first.grows.trans second.grows
  used used := second.used (first.used used)
  shut := by
    intro shut
    obtain ⟨shut', same⟩ := first.shut shut
    obtain ⟨shut'', same'⟩ := second.shut shut'
    exact ⟨shut'', same'.trans same⟩
  requests used := (second.requests (first.used used)).trans (first.requests used)
  settles := by
    intro alive gone made unrefunded
    by_cases early : v.Gone K key
    · -- it went in the first part, and nothing is added in the second
      have made' : v.requests key ≠ [] := by
        rwa [second.requests early.1] at made
      have unrefunded' : v.refunds key = 0 := by
        have le : v.refunds key ≤ w.refunds key := refunds_mono second.grows
        omega
      rw [(second.shut early.shut).2]
      exact first.settles alive early made' unrefunded'
    · exact Nat.lt_of_le_of_lt (revealedEvents_length_mono first.grows)
        (second.settles early gone made unrefunded)

/-! ### Halves that reveal nothing -/

/-- The record of a request is as it was. -/
structure Silent (w w' : World Bytes32) (key : RequestKey) : Prop where
  events : w'.revealedEvents key = w.revealedEvents key
  requests : w'.requests key = w.requests key

theorem Reported.silent (reported : Reported K w key) (keeps : Keeps K w w')
    (silent : Silent w w' key) : Reported K w' key where
  unused := by
    intro fresh
    rw [silent.events, silent.requests]
    exact reported.unused fun used => fresh (used.mono keeps.counter)
  waiting := by
    intro alive
    rw [silent.events]
    exact reported.waiting fun gone => alive (gone.mono keeps)
  earlier := by
    rw [silent.events]
    exact reported.earlier

/-- A half that reveals nothing, at the end, does not take the request away either, unless by a
refund. -/
theorem Reports.then_silent (first : Reports K u v key) (reported : Reported K v key)
    (keeps : Keeps K v w) (advances : Advances K u w) (silent : Silent v w key)
    (kept : v.state.lookup K key ≠ none → w.state.lookup K key ≠ none ∨ 0 < w.refunds key) :
    Reports K u w key where
  grows := advances.history
  used used := used.mono advances.counter
  shut shut := ⟨advances.shut shut, silent.events.trans (first.shut shut).2⟩
  requests used := silent.requests.trans (first.requests used)
  settles := by
    intro alive gone made unrefunded
    rw [silent.requests] at made
    rw [silent.events]
    have used : v.Used key := by
      by_contra fresh
      exact made (reported.unused fresh).2
    by_cases absent : v.state.lookup K key = none
    · have unrefunded' : v.refunds key = 0 := by
        have le : v.refunds key ≤ w.refunds key := refunds_mono keeps.history
        omega
      exact first.settles alive ⟨used, absent⟩ made unrefunded'
    · rcases kept absent with present | refunded
      · exact absurd gone.2 present
      · omega

theorem Reports.silent (reported : Reported K w key) (advances : Advances K w w')
    (silent : Silent w w' key)
    (kept : w.state.lookup K key ≠ none → w'.state.lookup K key ≠ none ∨ 0 < w'.refunds key) :
    Reports K w w' key :=
  (Reports.refl w key).then_silent reported advances.toKeeps advances silent kept

/-- A reveal is added to the record of a request that was there. -/
theorem Reported.revealed {event : RevealedFilter Bytes32} (reported : Reported K w key)
    (alive : ¬ w.Gone K key) (events : w'.revealedEvents key = event :: w.revealedEvents key)
    (used : w'.Used key) (failed : ¬ w'.Gone K key → event.callbackFailed = true) :
    Reported K w' key where
  unused fresh := absurd used fresh
  waiting := by
    intro alive' other member
    rw [events] at member
    rcases List.mem_cons.mp member with rfl | before
    · exact failed alive'
    · exact reported.waiting alive other before
  earlier := by
    rw [events]
    exact reported.waiting alive

theorem Reports.revealed {event : RevealedFilter Bytes32} (keeps : Keeps K w w')
    (open_ : ¬ w.Shut K key) (events : w'.revealedEvents key = event :: w.revealedEvents key)
    (requests : w'.requests key = w.requests key) : Reports K w w' key where
  grows := keeps.history
  used used := used.mono keeps.counter
  shut shut := absurd shut open_
  requests _ := requests
  settles := by
    intro _ _ _ _
    rw [events]
    exact Nat.lt_succ_self _

/-! ### Every half of every call -/

/-- Removing one request leaves the others. -/
theorem present_of_removed (wf : (requestScheme K).WellFormed w.state.table) {gone : RequestKey}
    (removed : w'.state.table = (requestScheme K).remove w.state.table gone) (other : gone ≠ key)
    (present : w.state.lookup K key ≠ none) : w'.state.lookup K key ≠ none := by
  rw [lookup_of_removed wf removed, Function.update_of_ne other.symm]
  exact present

theorem present_of_same (same : w'.state.table = w.state.table)
    (present : w.state.lookup K key ≠ none) : w'.state.lookup K key ≠ none := by
  rw [State.lookup_congr same]
  exact present

/-- A status is written to one request; none goes. -/
theorem present_of_status (wf : (requestScheme K).WellFormed w.state.table)
    {ref : RequestRef Bytes32} {status : CallbackStatus}
    (present : w.state.lookup K key ≠ none) :
    (w.state.setCallbackStatus ref status).lookup K key ≠ none := by
  rw [State.lookup_setCallbackStatus wf]
  split
  · exact nofun
  · exact present

theorem Finishes.silent_or_reveals (sound : Sound K w) (finishes : Finishes K m w w')
    (key : RequestKey) :
    (Silent w w' key ∧
        (w.state.lookup K key ≠ none → w'.state.lookup K key ≠ none ∨ 0 < w'.refunds key)) ∨
      (¬ w.Used key ∧ w'.state.lookup K key ≠ none ∧
        w'.revealedEvents key = w.revealedEvents key) ∨
      ∃ req event, w.state.lookup K key = some req ∧
        (req.callbackStatus = .notStarted ∨ req.callbackStatus = .failed) ∧ w'.Gone K key ∧
        w'.revealedEvents key = event :: w.revealedEvents key ∧
        w'.requests key = w.requests key := by
  have same_table : ∀ {v : World Bytes32}, v.state.table = w.state.table →
      w.state.lookup K key ≠ none → v.state.lookup K key ≠ none ∨ 0 < v.refunds key :=
    fun same present => .inl (present_of_same same present)
  cases finishes with
  | registered _ _ => exact .inl ⟨⟨by simp [World.rotated], by simp [World.rotated]⟩, same_table rfl⟩
  | @requested provider u _ gasLimit10k _ checks =>
    have lookup := lookup_requested (K := K) sound m.msg u gasLimit10k checks.registered
    by_cases made : (provider, (w.state.providers provider).sequenceNumber) = key
    · subst made
      refine .inr (.inl ⟨w.requested_fresh provider, ?_, by simp [World.requested]⟩)
      rw [lookup, Function.update_self]
      exact nofun
    · refine .inl ⟨⟨by simp [World.requested], by simp [World.requested, made]⟩, fun present => ?_⟩
      rw [lookup, Function.update_of_ne (Ne.symm made)]
      exact .inl present
  | revealed _ checks status _ => exact absurd status (sound.withCallback checks.found)
  | @noCallback provider n startingGas endingGas u v req _ checks status _ _ =>
    by_cases same : (provider, n) = key
    · subst same
      refine .inr (.inr ⟨req, ⟨provider, req.requester, n, revealedNumber K w req u v, u, v, false,
        [], startingGas - endingGas⟩, checks.found, status.imp_left And.left, ?_, by simp, by simp⟩)
      exact gone_of_removed sound.wf rfl
        ((sound.used checks.found).mono (w.accepted_countsUp provider n v))
    · refine .inl ⟨⟨by simp [same], by simp⟩, fun present => .inl ?_⟩
      exact present_of_removed sound.wf rfl same present
  | @refundedNothing provider n req _ checks _ =>
    refine .inl ⟨⟨by simp, by simp⟩, fun present => ?_⟩
    by_cases same : (provider, n) = key
    · subst same
      refine .inr ?_
      unfold World.refunds
      simp
    · exact .inl (present_of_removed sound.wf rfl same present)
  | advanced _ _ => exact .inl ⟨⟨by simp [World.advanced], by simp [World.advanced]⟩, same_table rfl⟩
  | configured _ configures =>
    refine .inl ⟨?_, same_table rfl⟩
    cases configures <;> exact ⟨by simp, by simp⟩
  | administered administers => exact .inl ⟨⟨by simp, by simp⟩, same_table administers.table⟩
  | forced _ => exact .inl ⟨⟨by simp, by simp⟩, same_table rfl⟩

/-- A first half puts nothing on record. -/
theorem Calls.silent (calls : Calls K m w w₁ pending) (key : RequestKey) : Silent w w₁ key := by
  cases calls with
  | refund _ _ _ _ _ => exact ⟨rfl, rfl⟩
  | foreign _ => exact ⟨rfl, rfl⟩
  | _ => exact ⟨by simp, by simp⟩

/-- It takes away no request but its own. -/
theorem Calls.present_other (sound : Sound K w) (calls : Calls K m w w₁ pending)
    (other : pending.target ≠ some key) (present : w.state.lookup K key ≠ none) :
    w₁.state.lookup K key ≠ none := by
  cases calls with
  | limited _ _ _ _ => exact present_of_status sound.wf present
  | unlimited _ _ _ _ =>
    exact present_of_removed sound.wf rfl (Pending.other_key other rfl) present
  | refund _ _ _ _ _ =>
    exact present_of_removed sound.wf rfl (Pending.other_key other rfl) present
  | withdrawal _ _ _ _ => exact present
  | foreign _ => exact present

/-- **The rest of a call** puts nothing on the record of other requests, and takes none of them
away. -/
theorem Resumes.silent_other (sound : Sound K w₂) (resumes : Resumes K result w₂ pending w₃)
    (other : pending.target ≠ some key) :
    Silent w₂ w₃ key ∧ (w₂.state.lookup K key ≠ none → w₃.state.lookup K key ≠ none) := by
  cases resumes with
  | @limitedDelivered ref provider n _ _ _ _ _ _ _ =>
    refine ⟨⟨by simp [Pending.other_key other rfl], by simp⟩, fun present => ?_⟩
    have sound' : Sound K (w₂.withStatus ref .notStarted) := sound.withStatus ref (by decide)
    exact present_of_removed sound'.wf rfl (Pending.other_key other rfl)
      (present_of_status sound.wf present)
  | limitedFailed _ _ _ _ =>
    exact ⟨⟨by simp [Pending.other_key other rfl], by simp⟩,
      fun present => present_of_status sound.wf present⟩
  | unlimitedDelivered _ _ _ => exact ⟨⟨by simp [Pending.other_key other rfl], by simp⟩, id⟩
  | unlimitedFailed _ _ _ => exact ⟨⟨by simp [Pending.other_key other rfl], by simp⟩, id⟩
  | refund _ => exact ⟨⟨by simp, by simp⟩, id⟩
  | withdrawal _ => exact ⟨⟨rfl, rfl⟩, id⟩
  | foreign _ => exact ⟨⟨rfl, rfl⟩, id⟩

/-- The rest of a reveal puts the outcome of the callback on the record of its request. -/
theorem Resumes.reveals (resumes : Resumes K result w₂ pending w₃)
    (target : pending.target = some key) (reveals : pending.Reveals) :
    ∃ event, w₃.revealedEvents key = event :: w₂.revealedEvents key ∧
      event.callbackFailed = !result.success ∧ w₃.requests key = w₂.requests key := by
  cases resumes with
  | @limitedDelivered ref provider n startingGas u v random success _ _ =>
    cases target
    refine ⟨⟨provider, (w₂.state.read ref).requester, n, random, u, v, false,
      result.returnData.take 256, startingGas - result.gasLeft⟩, by simp, ?_, by simp⟩
    rw [success]
    rfl
  | @limitedFailed ref provider n startingGas u v random failure _ _ _ =>
    cases target
    refine ⟨⟨provider, (w₂.state.read ref).requester, n, random, u, v, true,
      result.returnData.take 256, startingGas - result.gasLeft⟩, by simp, ?_, by simp⟩
    rw [failure]
    rfl
  | @unlimitedDelivered callAddress provider n startingGas u v random success _ _ =>
    cases target
    refine ⟨⟨provider, callAddress, n, random, u, v, false, [], startingGas - result.gasLeft⟩,
      by simp, ?_, by simp⟩
    rw [success]
    rfl
  | @unlimitedFailed callAddress provider n startingGas u v random failure _ _ =>
    cases target
    refine ⟨⟨provider, callAddress, n, random, u, v, true, [], startingGas - result.gasLeft⟩,
      by simp, ?_, by simp⟩
    rw [failure]
    rfl
  | refund _ => exact absurd reveals not_false
  | withdrawal _ => exact absurd reveals not_false
  | foreign _ => exact absurd reveals not_false

/-- A refund puts nothing on record but itself. -/
theorem Resumes.refunds (resumes : Resumes K result w₂ pending w₃)
    (target : pending.target = some key) (refunds : ¬ pending.Reveals) :
    Silent w₂ w₃ key ∧ 0 < w₃.refunds key := by
  cases resumes with
  | refund _ =>
    cases target
    refine ⟨⟨by simp, by simp⟩, ?_⟩
    unfold World.refunds
    simp
  | withdrawal _ => cases target
  | foreign _ => cases target
  | _ => exact absurd trivial refunds

/-! ### The obligations -/

theorem Finishes.reports (sound : Sound K w) (reported : Reported K w key)
    (finishes : Finishes K m w w') (sound' : Sound K w') (evolves : Evolves K w w') :
    Reported K w' key ∧ Reports K w w' key := by
  rcases finishes.silent_or_reveals sound key with ⟨silent, kept⟩ | ⟨fresh, present, same⟩ |
    ⟨req, event, found, status, gone, events, requests⟩
  · exact ⟨reported.silent evolves.toKeeps silent, .silent reported evolves.toAdvances silent kept⟩
  · -- the request is made
    have none_before : w'.revealedEvents key = [] := same.trans (reported.unused fresh).1
    refine ⟨⟨fun fresh' => absurd (sound'.fresh_none fresh') present, ?_, ?_⟩,
      ⟨evolves.history, fun used => absurd used fresh, fun shut => absurd shut.1 fresh,
        fun used => absurd used fresh, fun _ gone => absurd gone.2 present⟩⟩
    · rw [none_before]
      exact fun _ _ member => absurd member List.not_mem_nil
    · rw [none_before]
      exact fun _ member => absurd member List.not_mem_nil
  · have alive : ¬ w.Gone K key := not_gone_of_found found
    exact ⟨reported.revealed alive events gone.1 fun alive' => absurd gone alive',
      .revealed evolves.toKeeps (not_shut_of_status found status) events requests⟩

/-- A call that is not about the request. -/
theorem whole_reports_other (sound : Sound K w) (reported : Reported K w key)
    (calls : Calls K m w w₁ pending) (sound₂ : Sound K w₂) (reported₂ : Reported K w₂ key)
    (between : Reports K w₁ w₂ key) (resumes : Resumes K result w₂ pending w₃)
    (evolves : Evolves K w w₃) (other : pending.target ≠ some key) :
    Reported K w₃ key ∧ Reports K w w₃ key := by
  have keeps := (resumes.keeps sound₂).2
  obtain ⟨silent, kept⟩ := resumes.silent_other sound₂ other
  have first : Reports K w w₁ key := .silent reported (calls.advances sound).2 (calls.silent key)
    fun present => .inl (calls.present_other sound other present)
  exact ⟨reported₂.silent keeps silent, (first.trans between).then_silent reported₂ keeps
    evolves.toAdvances silent fun present => .inl (kept present)⟩

/-- A refund of the request. -/
theorem whole_reports_refund (sound : Sound K w) (calls : Calls K m w w₁ pending)
    (sound₂ : Sound K w₂) (reported₂ : Reported K w₂ key) (between : Reports K w₁ w₂ key)
    (resumes : Resumes K result w₂ pending w₃) (evolves : Evolves K w w₃)
    (target : pending.target = some key) (refunds : ¬ pending.Reveals) :
    Reported K w₃ key ∧ Reports K w w₃ key := by
  obtain ⟨silent, refunded⟩ := resumes.refunds target refunds
  have first := calls.silent key
  have advances := (calls.advances sound).2
  refine ⟨reported₂.silent (resumes.keeps sound₂).2 silent, evolves.history,
    fun used => used.mono evolves.counter, fun shut => ⟨evolves.toAdvances.shut shut, ?_⟩,
    fun used => ?_, fun _ _ _ unrefunded => ?_⟩
  · rw [silent.events, (between.shut (advances.shut shut)).2, first.events]
  · rw [silent.requests, between.requests (used.mono advances.counter), first.requests]
  · omega

/-- A reveal of the request: it is shut while its callback runs. -/
theorem whole_reports_reveal (sound : Sound K w) (reported : Reported K w key)
    (calls : Calls K m w w₁ pending) (sound₂ : Sound K w₂) (keeps₂ : Keeps K w₁ w₂)
    (between : Reports K w₁ w₂ key) (resumes : Resumes K result w₂ pending w₃)
    (evolves : Evolves K w w₃) (target : pending.target = some key) (reveals : pending.Reveals) :
    Reported K w₃ key ∧ Reports K w w₃ key := by
  obtain ⟨opened, shut₁⟩ := calls.opens sound target reveals
  obtain ⟨req, found⟩ := calls.found target
  have first := calls.silent key
  have used := sound.used found
  obtain ⟨event, events, outcome, requests⟩ := resumes.reveals target reveals
  rw [(between.shut shut₁).2, first.events] at events
  rw [between.requests shut₁.1, first.requests] at requests
  refine ⟨reported.revealed (not_gone_of_found found) events (used.mono evolves.counter)
    fun alive => ?_, .revealed evolves.toKeeps opened events requests⟩
  cases success : result.success with
  | true => exact absurd (whole_gone sound calls target sound₂ keeps₂ resumes success) alive
  | false =>
    rw [outcome, success]
    rfl

/-- **The obligations of the record.** -/
theorem reports_rely (guard : Message Bytes32 → World Bytes32 → Prop) :
    CallStack.Rely (dice K) guard (Sound K) (Evolves K) (fun w => ∀ key, Reported K w key)
      (fun w w' => ∀ key, Reports K w w' key) := by
  refine rely_of_halves ?_ ?_ ?_ ?_ ?_ ?_
  · exact fun w key => .refl w key
  · exact fun u v w first second key => (first key).trans (second key)
  · intro m w w' sound reported _ finishes sound' evolves
    have both := fun key => finishes.reports sound (reported key) sound' evolves
    exact ⟨fun key => (both key).1, fun key => (both key).2⟩
  · exact fun sound reported _ calls _ key =>
      (reported key).silent (calls.advances sound).2.toKeeps (calls.silent key)
  · intro m w w₁ pending result w₂ w₃ sound reported _ calls _ _ sound₂ reported₂ keeps₂ between
      resumes _ evolves
    have both : ∀ key, Reported K w₃ key ∧ Reports K w w₃ key := by
      intro key
      by_cases target : pending.target = some key
      · by_cases reveals : pending.Reveals
        · exact whole_reports_reveal sound (reported key) calls sound₂ keeps₂.toKeeps (between key)
            resumes evolves target reveals
        · exact whole_reports_refund sound calls sound₂ (reported₂ key) (between key) resumes
            evolves target reveals
      · exact whole_reports_other sound (reported key) calls sound₂ (reported₂ key) (between key)
          resumes evolves target
    exact ⟨fun key => (both key).1, fun key => (both key).2⟩
  · intro t w reported
    have evolves : Evolves K w (mine t w) :=
      .of_same rfl (World.countsUp_of_same rfl) (List.suffix_refl _)
    have silent : ∀ key, Silent w (mine t w) key := fun key => ⟨rfl, rfl⟩
    exact ⟨fun key => (reported key).silent evolves.toKeeps (silent key),
      fun key => .silent (reported key) evolves.toAdvances (silent key) .inl⟩

theorem constructor_reported {d : Deployment Bytes32} {w : World Bytes32}
    (deployed : constructor K d = .ok w) (key : RequestKey) : Reported K w key := by
  have empty : w.revealedEvents key = [] ∧ w.requests key = [] := by
    rcases (constructor_ok deployed).2 with ⟨_, rfl⟩ | ⟨_, rfl⟩
    · exact ⟨rfl, rfl⟩
    · exact ⟨rfl, rfl⟩
  refine ⟨fun _ => empty, ?_, ?_⟩
  · rw [empty.1]
    exact fun _ _ member => absurd member List.not_mem_nil
  · rw [empty.1]
    exact fun _ member => absurd member List.not_mem_nil

/-! ### Runs -/

variable {guard : Message Bytes32 → World Bytes32 → Prop} {c c' : Config Bytes32}

theorem Reachable.reported (reach : Reachable K guard c) (key : RequestKey) :
    Reported K c.world key :=
  (reach.holds (reports_rely guard) constructor_reported).1.2 key

/-- From one moment without open calls to another. -/
theorem Reachable.reports (reach : Reachable K guard c) (run : (dice K).Reachable guard c c')
    (before : c.frames = []) (after : c'.frames = []) (key : RequestKey) :
    Evolves K c.world c'.world ∧ Reports K c.world c'.world key := by
  obtain ⟨_, nested⟩ := CallStack.Rely.sound (absolute (reports_rely guard))
    ⟨reach.sound, reach.reported⟩ before run
  rw [after] at nested
  exact ⟨nested.idle.1, nested.idle.2 key⟩

/-- **Who cleared a request.** In every run, when a request that was made is gone and was not refunded:
a reveal cleared it, after the request was last there, and no earlier reveal of it did, since all
their callbacks are reported as failed and left it in storage. -/
theorem cleared_by_reveal (reach : Reachable K guard c) (run : (dice K).Reachable guard c c')
    (before : c.frames = []) (after : c'.frames = []) {key : RequestKey}
    (alive : ¬ c.world.Gone K key) (gone : c'.world.Gone K key) (made : c'.world.requests key ≠ [])
    (unrefunded : c'.world.refunds key = 0) :
    ∃ event earlier, c'.world.revealedEvents key = event :: earlier ∧
      c'.world.ClearedBy K key event ∧ c.world.revealedEvents key <:+ earlier ∧
      ∀ other ∈ earlier, other.callbackFailed = true := by
  have reports := (reach.reports run before after key).2
  obtain ⟨d, w, deployed, first⟩ := reach
  have reported := Reachable.reported ⟨d, w, deployed, .trans _ first run⟩ key
  have longer := reports.settles alive gone made unrefunded
  have suffix : c.world.revealedEvents key <:+ c'.world.revealedEvents key :=
    reports.grows.filterMap _
  cases events : c'.world.revealedEvents key with
  | nil =>
    rw [events] at longer
    exact absurd longer (Nat.not_lt_zero _)
  | cons event earlier =>
    rw [events] at longer suffix
    refine ⟨event, earlier, rfl, ⟨gone, unrefunded, by rw [events]; rfl⟩, ?_, ?_⟩
    · rcases List.suffix_cons_iff.mp suffix with same | older
      · rw [same] at longer
        exact absurd longer (Nat.lt_irrefl _)
      · exact older
    · have failed := reported.earlier
      rwa [events] at failed

/-- **The ways to go**: a request that was made and is gone was refunded, or a reveal cleared it. -/
theorem gone_cases (reach : Reachable K guard c) (idle : c.frames = []) {key : RequestKey}
    (gone : c.world.Gone K key) (made : c.world.requests key ≠ []) :
    0 < c.world.refunds key ∨ ∃ event, c.world.ClearedBy K key event := by
  obtain ⟨d, w, deployed, run⟩ := reach
  have origin : Reachable K guard ⟨w, []⟩ := ⟨d, w, deployed, .refl⟩
  by_cases refunded : c.world.refunds key = 0
  · have alive : ¬ w.Gone K key := by
      intro early
      have same := (origin.reports run rfl idle key).2.requests early.1
      have none_made : w.requests key = [] := by
        rcases (constructor_ok deployed).2 with ⟨_, rfl⟩ | ⟨_, rfl⟩
        · rfl
        · rfl
      exact made (same.trans none_made)
    obtain ⟨event, _, _, cleared, _⟩ :=
      cleared_by_reveal origin run rfl idle alive gone made refunded
    exact .inr ⟨event, cleared⟩
  · exact .inl (Nat.pos_of_ne_zero refunded)

end Record

end Dice
