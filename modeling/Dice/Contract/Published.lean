/-
**What is published of a request.**

A request is made once, and revealed as often as its callback fails. Anybody may send a reveal, within
any callback.

* `World.RequestedWith` — the `Requested` event of a number, with the contribution of its user.
* `RevealedFilter.Opens` — a `Revealed` event that opens the commitment of a request.
* `Published` — the invariant: an active request is committed to the contribution it was made with, and
  every `Revealed` event of a number opens the same commitment.
* `published_agree` — in every run a number is requested once at most, and all its `Revealed` events
  carry this contribution, one contribution of the provider, and the number combined of both.
-/

import Dice.Contract.Reveals
import Dice.Contract.Symbolic

set_option linter.unusedSectionVars false

namespace Dice

variable {Bytes32 : Type}

/-- The number was requested with a contribution. -/
def World.RequestedWith (w : World Bytes32) (key : RequestKey) (u : Bytes32) : Prop :=
  ∃ caller gasLimit, Entry.emitted (.requested key.1 caller key.2 u gasLimit) ∈ w.requests key

variable (K : Keccak Bytes32) [DecidableEq Bytes32]

/-- The event opens the commitment of a request. -/
def RevealedFilter.Opens (event : RevealedFilter Bytes32) (req : Request Bytes32) : Prop :=
  K.keccak256 [constructUserCommitment K event.userContribution,
    (chainHash K)^[req.numHashes] event.providerContribution] = req.commitment

/-- **The invariant.** -/
structure Published (w : World Bytes32) (key : RequestKey) : Prop where
  once : (w.requests key).length ≤ 1
  committed : ∀ req, w.state.lookup K key = some req → ∃ u c, w.RequestedWith key u ∧
    req.commitment = K.keccak256 [constructUserCommitment K u, c]
  opens : ∀ req, w.state.lookup K key = some req → ∀ event ∈ w.revealedEvents key,
    event.Opens K req
  combined : ∀ event ∈ w.revealedEvents key, w.RequestedWith key event.userContribution ∧
    event.randomNumber =
      combineRandomValues K event.userContribution event.providerContribution (K.word 0)
  agree : ∀ event ∈ w.revealedEvents key, ∀ other ∈ w.revealedEvents key,
    event.providerContribution = other.providerContribution

/-- What a waiting reveal will publish. -/
def Pending.Publishes : Pending Bytes32 → Bytes32 → Bytes32 → Bytes32 → Prop
  | .limited _ _ _ u v random _, u', v', random' => u' = u ∧ v' = v ∧ random' = random
  | .unlimited _ _ _ u v random _, u', v', random' => u' = u ∧ v' = v ∧ random' = random
  | _, _, _, _ => False

section Publication

variable {K} {m : Message Bytes32} {w w' w₁ w₂ w₃ : World Bytes32} {pending : Pending Bytes32}
variable {result : CallResult} {key : RequestKey} {req : Request Bytes32} {u v random : Bytes32}

/-- Two `Requested` events of a number are one. -/
theorem Published.requestedWith_unique (published : Published K w key) {u' : Bytes32}
    (first : w.RequestedWith key u) (second : w.RequestedWith key u') : u = u' := by
  obtain ⟨_, _, member⟩ := first
  obtain ⟨_, _, member'⟩ := second
  obtain ⟨entry, single⟩ | empty : (∃ entry, w.requests key = [entry]) ∨ w.requests key = [] := by
    have once := published.once
    rcases requests : w.requests key with _ | ⟨entry, rest⟩
    · exact .inr rfl
    · rw [requests, List.length_cons] at once
      exact .inl ⟨entry, congrArg _ (List.length_eq_zero_iff.mp (by omega))⟩
  · rw [single, List.mem_singleton] at member member'
    rw [← member'] at member
    cases member
    rfl
  · rw [empty] at member
    cases member

/-- What two events open is the same. -/
theorem RevealedFilter.Opens.same (injective : Function.Injective K.keccak256)
    {event other : RevealedFilter Bytes32} (first : event.Opens K req) (second : other.Opens K req) :
    event.userContribution = other.userContribution ∧
      event.providerContribution = other.providerContribution := by
  have words := injective (first.trans second.symm)
  simp only [List.cons.injEq, and_true] at words
  have user := injective words.1
  simp only [List.cons.injEq, and_true] at user
  exact ⟨user, (chainHash_injective injective).iterate _ words.2⟩

theorem RevealedFilter.Opens.of_same {event : RevealedFilter Bytes32} {req' : Request Bytes32}
    (opens : event.Opens K req) (same : req.Same req') : event.Opens K req' := by
  unfold Request.Same at same
  rw [same]
  exact opens

/-! ### Each half -/

/-- A half that adds nothing to the record of the number. -/
theorem Published.carry (published : Published K w key)
    (narrows : ∀ {req'}, w'.state.lookup K key = some req' →
      ∃ req, w.state.lookup K key = some req ∧ req.Same req')
    (silent : Silent w w' key) : Published K w' key where
  once := by
    rw [silent.requests]
    exact published.once
  committed := by
    intro req' found'
    obtain ⟨req, found, same⟩ := narrows found'
    obtain ⟨u, c, requested, commitment⟩ := published.committed req found
    refine ⟨u, c, ?_, ?_⟩
    · unfold World.RequestedWith
      rw [silent.requests]
      exact requested
    · unfold Request.Same at same
      rw [same]
      exact commitment
  opens := by
    intro req' found' event member
    obtain ⟨req, found, same⟩ := narrows found'
    rw [silent.events] at member
    exact (published.opens req found event member).of_same same
  combined := by
    unfold World.RequestedWith
    rw [silent.events, silent.requests]
    exact published.combined
  agree := by
    rw [silent.events]
    exact published.agree

/-- **A reveal is published**: it opens the request that was there, so it agrees with all before. -/
theorem Published.reveal (injective : Function.Injective K.keccak256)
    (published : Published K w key) (found : w.state.lookup K key = some req)
    (event : RevealedFilter Bytes32) (opens : event.Opens K req)
    (number : event.randomNumber =
      combineRandomValues K event.userContribution event.providerContribution (K.word 0))
    (events : w'.revealedEvents key = event :: w.revealedEvents key)
    (requests : w'.requests key = w.requests key)
    (kept : ∀ req', w'.state.lookup K key = some req' → req.Same req') : Published K w' key where
  once := by
    rw [requests]
    exact published.once
  committed := by
    intro req' found'
    obtain ⟨u, c, requested, commitment⟩ := published.committed req found
    have same := kept req' found'
    refine ⟨u, c, ?_, ?_⟩
    · unfold World.RequestedWith
      rw [requests]
      exact requested
    · unfold Request.Same at same
      rw [same]
      exact commitment
  opens := by
    intro req' found' other member
    rw [events] at member
    refine RevealedFilter.Opens.of_same ?_ (kept req' found')
    rcases List.mem_cons.mp member with rfl | before
    · exact opens
    · exact published.opens req found other before
  combined := by
    unfold World.RequestedWith
    rw [events, requests]
    intro other member
    rcases List.mem_cons.mp member with rfl | before
    · obtain ⟨u, c, requested, commitment⟩ := published.committed req found
      have words := injective (opens.trans commitment)
      simp only [List.cons.injEq, and_true] at words
      have user := injective words.1
      simp only [List.cons.injEq, and_true] at user
      exact ⟨user ▸ requested, number⟩
    · exact published.combined other before
  agree := by
    have first : ∀ other ∈ w.revealedEvents key,
        event.providerContribution = other.providerContribution :=
      fun other before => (opens.same injective (published.opens req found other before)).2
    rw [events]
    intro a memberA b memberB
    rcases List.mem_cons.mp memberA with rfl | beforeA
    · rcases List.mem_cons.mp memberB with rfl | beforeB
      · rfl
      · exact first b beforeB
    · rcases List.mem_cons.mp memberB with rfl | beforeB
      · exact (first a beforeA).symm
      · exact published.agree a beforeA b beforeB

/-- The number is combined without a block hash. -/
theorem revealedNumber_combined (sound : Sound K w) (found : w.state.lookup K key = some req) :
    revealedNumber K w req u v = combineRandomValues K u v (K.word 0) := by
  unfold revealedNumber
  rw [sound.noBlockhash found]
  rfl

/-- **A number is requested.** -/
theorem Published.requested (sound : Sound K w) (reported : Reported K w key)
    (published : Published K w key) {msg : Msg} {provider : Address} {gasLimit gasLimit10k : ℕ}
    (checks : RequestChecks w msg provider gasLimit gasLimit10k) :
    Published K (w.requested K msg provider u gasLimit10k) key := by
  have lookup := lookup_requested (K := K) sound msg u gasLimit10k checks.registered
  by_cases made : (provider, (w.state.providers provider).sequenceNumber) = key
  · subst made
    obtain ⟨events, requests⟩ := reported.unused (w.requested_fresh provider)
    have noEvents : (w.requested K msg provider u gasLimit10k).revealedEvents
        (provider, (w.state.providers provider).sequenceNumber) = [] := by
      simp [World.requested, events]
    have one : (w.requested K msg provider u gasLimit10k).requests
        (provider, (w.state.providers provider).sequenceNumber) =
          [.emitted (.requested provider msg.sender (w.state.providers provider).sequenceNumber u
            (gasLimit10k * tenThousand))] := by
      simp [World.requested, requests]
    refine ⟨?_, fun req found => ?_, ?_, ?_, ?_⟩
    · exact Nat.le_of_eq (congrArg List.length one)
    · rw [lookup, Function.update_self] at found
      cases found
      refine ⟨u, _, ⟨msg.sender, gasLimit10k * tenThousand, ?_⟩, rfl⟩
      rw [one]
      exact List.mem_singleton_self _
    all_goals
      rw [noEvents]
      simp
  · refine published.carry (fun {req'} found => ?_)
      ⟨by simp [World.requested], by simp [World.requested, made]⟩
    rw [lookup, Function.update_of_ne (Ne.symm made)] at found
    exact ⟨req', found, .refl _⟩

theorem Finishes.published (injective : Function.Injective K.keccak256) (sound : Sound K w)
    (reported : Reported K w key) (published : Published K w key) (finishes : Finishes K m w w') :
    Published K w' key := by
  obtain narrows | ⟨_, _, _, _, checks, rfl⟩ := finishes.narrows sound
  · cases finishes with
    | requested _ checks => exact published.requested sound reported checks
    | revealed _ checks status _ => exact absurd status (sound.withCallback checks.found)
    | @noCallback provider n startingGas endingGas u v req _ checks _ _ _ =>
      by_cases same : (provider, n) = key
      · subst same
        refine published.reveal injective checks.found ⟨provider, req.requester, n,
          revealedNumber K w req u v, u, v, false, [], startingGas - endingGas⟩ checks.opens
          (revealedNumber_combined sound checks.found) (by simp) (by simp) fun req' found' => ?_
        obtain ⟨before, found, same⟩ := narrows found'
        rw [checks.found] at found
        cases found
        exact same
      · exact published.carry (fun found => narrows found) ⟨by simp [same], by simp⟩
    | registered _ _ =>
      exact published.carry (fun found => narrows found)
        ⟨by simp [World.rotated], by simp [World.rotated]⟩
    | advanced _ _ =>
      exact published.carry (fun found => narrows found)
        ⟨by simp [World.advanced], by simp [World.advanced]⟩
    | configured _ configures =>
      refine published.carry (fun found => narrows found) ?_
      cases configures <;> exact ⟨by simp, by simp⟩
    | _ => exact published.carry (fun found => narrows found) ⟨by simp, by simp⟩
  · exact published.requested sound reported checks

/-- **What the rest of a reveal publishes** was fixed when its callback was called. -/
theorem Resumes.publishes (resumes : Resumes K result w₂ pending w₃)
    (target : pending.target = some key) (reveals : pending.Reveals) :
    ∃ event, w₃.revealedEvents key = event :: w₂.revealedEvents key ∧
      pending.Publishes event.userContribution event.providerContribution event.randomNumber := by
  cases resumes with
  | @limitedDelivered ref provider n startingGas u v random _ _ _ =>
    cases target
    exact ⟨⟨provider, (w₂.state.read ref).requester, n, random, u, v, false,
      result.returnData.take 256, startingGas - result.gasLeft⟩, by simp, rfl, rfl, rfl⟩
  | @limitedFailed ref provider n startingGas u v random _ _ _ _ =>
    cases target
    exact ⟨⟨provider, (w₂.state.read ref).requester, n, random, u, v, true,
      result.returnData.take 256, startingGas - result.gasLeft⟩, by simp, rfl, rfl, rfl⟩
  | @unlimitedDelivered callAddress provider n startingGas u v random _ _ _ =>
    cases target
    exact ⟨⟨provider, callAddress, n, random, u, v, false, [], startingGas - result.gasLeft⟩,
      by simp, rfl, rfl, rfl⟩
  | @unlimitedFailed callAddress provider n startingGas u v random _ _ _ =>
    cases target
    exact ⟨⟨provider, callAddress, n, random, u, v, true, [], startingGas - result.gasLeft⟩,
      by simp, rfl, rfl, rfl⟩
  | refund _ => exact absurd reveals not_false
  | withdrawal _ => exact absurd reveals not_false
  | foreign _ => exact absurd reveals not_false

/-- It was checked against the request. -/
theorem Calls.publishes_opens (sound : Sound K w) (calls : Calls K m w w₁ pending)
    (target : pending.target = some key) {event : RevealedFilter Bytes32}
    (publishes : pending.Publishes event.userContribution event.providerContribution
      event.randomNumber) :
    ∃ req, w.state.lookup K key = some req ∧ event.Opens K req ∧ event.randomNumber =
      combineRandomValues K event.userContribution event.providerContribution (K.word 0) := by
  cases calls with
  | limited _ checks _ _ =>
    cases target
    obtain ⟨user, provider, number⟩ := publishes
    refine ⟨_, checks.found, ?_, ?_⟩
    · unfold RevealedFilter.Opens
      rw [user, provider]
      exact checks.opens
    · rw [number, user, provider]
      exact revealedNumber_combined sound checks.found
  | unlimited _ checks _ _ =>
    cases target
    obtain ⟨user, provider, number⟩ := publishes
    refine ⟨_, checks.found, ?_, ?_⟩
    · unfold RevealedFilter.Opens
      rw [user, provider]
      exact checks.opens
    · rw [number, user, provider]
      exact revealedNumber_combined sound checks.found
  | refund _ _ _ _ _ => exact publishes.elim
  | withdrawal _ _ _ _ => exact publishes.elim
  | foreign _ => exact publishes.elim

/-- **A whole call.** While its callback runs nothing else is published of its request. -/
theorem whole_published (injective : Function.Injective K.keccak256) (sound : Sound K w)
    (published : Published K w key) (calls : Calls K m w w₁ pending) (sound₂ : Sound K w₂)
    (published₂ : Published K w₂ key) (between : Reports K w₁ w₂ key)
    (resumes : Resumes K result w₂ pending w₃) (evolves : Evolves K w w₃) :
    Published K w₃ key := by
  have narrows := resumes.narrows sound₂
  by_cases target : pending.target = some key
  · by_cases reveals : pending.Reveals
    · obtain ⟨event, events, publishes⟩ := resumes.publishes target reveals
      obtain ⟨req, found, opens, number⟩ := calls.publishes_opens sound target publishes
      obtain ⟨_, _, _, requests⟩ := resumes.reveals target reveals
      have first := calls.silent key
      obtain ⟨_, shut⟩ := calls.opens sound target reveals
      rw [(between.shut shut).2, first.events] at events
      rw [between.requests shut.1, first.requests] at requests
      refine published.reveal injective found event opens number events requests fun req' found' => ?_
      obtain ⟨before, found₀, same⟩ := evolves.request (sound.used found) found'
      rw [found] at found₀
      cases found₀
      exact same
    · exact published₂.carry (fun found => narrows found) (resumes.refunds target reveals).1
  · exact published₂.carry (fun found => narrows found) (resumes.silent_other sound₂ target).1

/-! ### Runs -/

/-- **The obligations**, on top of those of the record. -/
theorem published_rely (injective : Function.Injective K.keccak256) :
    CallStack.Rely (dice K) anyCall (fun w => Sound K w ∧ ∀ key, Reported K w key)
      (fun w w' => Evolves K w w' ∧ ∀ key, Reports K w w' key) (fun w => ∀ key, Published K w key)
      fun _ _ => True where
  refl _ := trivial
  trans _ _ _ _ _ := trivial
  done known published _ started _ _ := by
    refine ⟨fun key => ?_, trivial⟩
    exact (start_done started).published injective known.1 (known.2 key) (published key)
  calling known published _ started _ key :=
    have calls := start_calling started
    (published key).carry (fun found => calls.narrows known.1 found) (calls.silent key)
  succeed := by
    intro m w w₁ pending result w₂ w₃ known published _ started _ _ known₂ published₂ between _
      success resumed _ evolves
    have calls := start_calling started
    refine ⟨fun key => ?_, trivial⟩
    exact whole_published injective known.1 (published key) calls known₂.1 (published₂ key)
      (between.2 key) (resume_ok calls.proper resumed) evolves.1
  fail := by
    intro m w w₁ pending result w₃ known published _ started known₁ published₁ _ resumed _ evolves
    have calls := start_calling started
    refine ⟨fun key => ?_, trivial⟩
    exact whole_published injective known.1 (published key) calls known₁.1 (published₁ key)
      (.refl w₁ key) (resume_ok calls.proper resumed) evolves.1
  idle _ published _ _ :=
    ⟨fun key => (published key).carry (fun found => ⟨_, found, .refl _⟩) ⟨rfl, rfl⟩, trivial⟩

theorem constructor_published {d : Deployment Bytes32} (deployed : constructor K d = .ok w)
    (key : RequestKey) : Published K w key := by
  have empty : w.revealedEvents key = [] ∧ w.requests key = [] := by
    rcases (constructor_ok deployed).2 with ⟨_, rfl⟩ | ⟨_, rfl⟩ <;> exact ⟨rfl, rfl⟩
  refine ⟨?_, fun req found => ?_, fun req found => ?_, ?_, ?_⟩
  · rw [empty.2]
    exact Nat.zero_le _
  · rw [constructor_lookup deployed] at found
    cases found
  · rw [constructor_lookup deployed] at found
    cases found
  all_goals
    rw [empty.1]
    simp

theorem Reachable.published (injective : Function.Injective K.keccak256) {c : Config Bytes32}
    (reach : Reachable K anyCall c) (key : RequestKey) : Published K c.world key := by
  obtain ⟨d, origin, deployed, run⟩ := reach
  have rely := (absolute (reports_rely (K := K) anyCall)).extend (published_rely injective)
  obtain ⟨holds, _⟩ := rely.sound ⟨⟨constructor_sound deployed, constructor_reported deployed⟩,
    constructor_published deployed⟩ rfl run
  exact holds.2 key

/-- **All that is published of a number agrees.** In every run, whatever is called within callbacks: a
number is requested at most once. Each of its `Revealed` events has the contribution of this request
and the number that is combined of it and the provider's; any two of them have the same contributions
and the same number; and all but the newest report a callback that failed. -/
theorem published_agree (injective : Function.Injective K.keccak256) {c : Config Bytes32}
    (reach : Reachable K anyCall c) (key : RequestKey) :
    (c.world.requests key).length ≤ 1 ∧
      (∀ event ∈ c.world.revealedEvents key,
        c.world.RequestedWith key event.userContribution ∧
          event.randomNumber = combineRandomValues K event.userContribution
            event.providerContribution (K.word 0)) ∧
      (∀ event ∈ c.world.revealedEvents key, ∀ other ∈ c.world.revealedEvents key,
        event.userContribution = other.userContribution ∧
          event.providerContribution = other.providerContribution ∧
          event.randomNumber = other.randomNumber) ∧
      ∀ event ∈ (c.world.revealedEvents key).tail, event.callbackFailed = true := by
  have published := reach.published injective key
  refine ⟨published.once, published.combined, fun event member other member' => ?_,
    (reach.reported key).earlier⟩
  obtain ⟨requested, number⟩ := published.combined event member
  obtain ⟨requested', number'⟩ := published.combined other member'
  have user := published.requestedWith_unique requested requested'
  have provider := published.agree event member other member'
  exact ⟨user, provider, by rw [number, number', user, provider]⟩

end Publication

/-- The callback of a request with a gas limit fails, and a second attempt succeeds. -/
theorem published_agree_retried :
    ((Sample.after [Sample.limitGas, Sample.request 1, Sample.reveal 1, Sample.failed,
        Sample.reveal 1, Sample.succeed]).world.revealedEvents (Sample.provider, 1)).length = 2 ∧
      ∀ event ∈ (Sample.after [Sample.limitGas, Sample.request 1, Sample.reveal 1, Sample.failed,
          Sample.reveal 1, Sample.succeed]).world.revealedEvents (Sample.provider, 1),
        ∀ other ∈ (Sample.after [Sample.limitGas, Sample.request 1, Sample.reveal 1, Sample.failed,
            Sample.reveal 1, Sample.succeed]).world.revealedEvents (Sample.provider, 1),
          event.randomNumber = other.randomNumber := by
  refine ⟨by decide +kernel, fun event member other member' => ?_⟩
  obtain ⟨_, _, agree, _⟩ :=
    published_agree symbolic_injective (Sample.reachable _) (Sample.provider, 1)
  exact (agree event member other member').2.2

end Dice
