/-
**To which registration a number and a value belong.**

* `Entry.chainValue` — the value that an entry of the history puts on chain: a registered commitment, an
  advancement, or a reveal.
* `Placed` — the registration of a number: the last one that starts at or before it, and its chain is
  long enough.
* `Attributed` — the invariant: every number below the present registration has one, and every value on
  chain is a link of the chain of its number's registration, at the index of the number.
* `reveal_of_placed` — so a `HashChainState` reveals this one value, also if it does not know the later
  registrations.
-/

import Dice.Service.ChainState

set_option linter.unusedSectionVars false

namespace Dice

open HashChain (IsLink)

variable {Bytes32 : Type}

/-- The provider, the number and the value. -/
def Entry.chainValue : Entry Bytes32 → Option (Address × ℕ × Bytes32)
  | .registered provider index commitment => some (provider, index, commitment)
  | .advanced provider index value => some (provider, index, value)
  | .revealed provider index value => some (provider, index, value)
  | _ => none

/-- **The registration of a number.** -/
def Placed (own : List (Registration Bytes32)) (n : ℕ) (registration : Registration Bytes32) : Prop :=
  ∃ before after, own = before ++ registration :: after ∧ registration.offset ≤ n ∧
    n < registration.offset + registration.chainLength ∧ ∀ later ∈ after, n < later.offset

/-- The value of a number. -/
def Belongs (K : Keccak Bytes32) (own : List (Registration Bytes32)) (n : ℕ) (v : Bytes32) : Prop :=
  ∃ registration, Placed own n registration ∧
    IsLink (chainHash K) registration.commitment (n - registration.offset) v

/-- **The invariant.** -/
structure Attributed (K : Keccak Bytes32) (w : World Bytes32) (log : List (Registration Bytes32)) :
    Prop where
  earlier : ∀ provider, ∀ n < (w.state.providers provider).originalCommitmentSequenceNumber,
    ∃ registration, Placed (registrationsOf provider log) n registration
  values : ∀ entry ∈ w.history, ∀ provider n v, entry.chainValue = some (provider, n, v) →
    n < (w.state.providers provider).sequenceNumber ∧ Belongs K (registrationsOf provider log) n v

section Placing

variable {own : List (Registration Bytes32)} {registration : Registration Bytes32} {n : ℕ}

/-- A registration from a higher number on does not concern the number. -/
theorem Placed.append (placed : Placed own n registration) {later : Registration Bytes32}
    (above : n < later.offset) : Placed (own ++ [later]) n registration := by
  obtain ⟨before, after, rfl, lower, upper, rest⟩ := placed
  refine ⟨before, after ++ [later], by simp, lower, upper, fun other member => ?_⟩
  rcases List.mem_append.mp member with member | member
  · exact rest other member
  · obtain rfl := List.mem_singleton.mp member
    exact above

/-- The last registration has all numbers of its span. -/
theorem Placed.last {before : List (Registration Bytes32)} (lower : registration.offset ≤ n)
    (upper : n < registration.offset + registration.chainLength) :
    Placed (before ++ [registration]) n registration :=
  ⟨before, [], rfl, lower, upper, fun _ member => absurd member List.not_mem_nil⟩

/-- The registration does not depend on the ones from a higher number on. -/
theorem Placed.known {known later : List (Registration Bytes32)}
    (placed : Placed (known ++ later) n registration) (below : ∀ r ∈ later, n < r.offset) :
    Placed known n registration := by
  obtain ⟨before, after, split, lower, upper, rest⟩ := placed
  rcases List.append_eq_append_iff.mp split with ⟨missing, _, behind⟩ | ⟨more, front, behind⟩
  · have member : registration ∈ later := by
      rw [behind]
      exact List.mem_append_right _ List.mem_cons_self
    exact absurd (below registration member) (Nat.not_lt_of_le lower)
  · cases more with
    | nil =>
      have member : registration ∈ later := by
        rw [← List.nil_append later, ← behind]
        exact List.mem_cons_self
      exact absurd (below registration member) (Nat.not_lt_of_le lower)
    | cons first more =>
      obtain ⟨rfl, rfl⟩ := List.cons.inj behind
      exact ⟨before, more, front, lower, upper, fun r member =>
        rest r (List.mem_append_left _ member)⟩

/-- The request's registration is the one of its number. -/
theorem Answered.placed {u : Bytes32} {req : Request Bytes32} {K : Keccak Bytes32}
    (answered : Answered K own u n req) :
    ∃ registration value index, Placed own n registration ∧
      req.commitment = K.keccak256 [constructUserCommitment K u, value] ∧
      IsLink (chainHash K) registration.commitment index value ∧
      registration.offset + index + req.numHashes = n := by
  obtain ⟨before, registration, after, split, lower, upper, rest, value, index, commits, linked, place⟩ :=
    answered
  exact ⟨registration, value, index, ⟨before, after, split, lower, upper, rest⟩, commits, linked, place⟩

end Placing

/-! ### The invariant -/

section Invariant

variable {K : Keccak Bytes32} [DecidableEq Bytes32] {w w' : World Bytes32}
variable {log : List (Registration Bytes32)} {provider : Address}

/-- **What is left to show** when no registration is made: the values that are new. -/
theorem Attributed.extend (attributed : Attributed K w log)
    (number : ∀ provider, (w'.state.providers provider).originalCommitmentSequenceNumber =
      (w.state.providers provider).originalCommitmentSequenceNumber)
    (counter : w.CountsUp w')
    (values : ∀ entry ∈ w'.history, ∀ provider n v, entry.chainValue = some (provider, n, v) →
      entry ∈ w.history ∨ n < (w'.state.providers provider).sequenceNumber ∧
        Belongs K (registrationsOf provider log) n v) : Attributed K w' log where
  earlier provider := by
    rw [number]
    exact attributed.earlier provider
  values entry member provider n v value := by
    rcases values entry member provider n v value with old | new
    · obtain ⟨used, belongs⟩ := attributed.values entry old provider n v value
      exact ⟨Nat.lt_of_lt_of_le used (counter provider), belongs⟩
    · exact new

/-- A plain entry puts no value on chain. -/
theorem Entry.chainValue_of_plain {entry : Entry Bytes32} (plain : entry.plain = true) :
    entry.chainValue = none := by
  cases entry <;> first | rfl | cases plain

theorem Attributed.quiet (attributed : Attributed K w log) (quiet : Quiet K w w') :
    Attributed K w' log := by
  have stays := quiet.stays
  obtain ⟨new, history, plain⟩ := quiet.history
  refine attributed.extend stays.number stays.counter fun entry member provider n v value => ?_
  rw [history] at member
  rcases List.mem_append.mp member with fresh | old
  · rw [Entry.chainValue_of_plain (plain entry fresh)] at value
    cases value
  · exact .inl old

/-- **An accepted reveal** puts the value of its number on chain. -/
theorem Attributed.accepted (injective : Function.Injective K.keccak256) (sound : Sound K w)
    (kept : Kept K w log) (attributed : Attributed K w log) {n : ℕ} {u v : Bytes32}
    {req : Request Bytes32} (checks : RevealChecks K w provider n u v req) :
    Attributed K (w.accepted provider n v) log := by
  have stays := accepted_stays sound checks
  refine attributed.extend stays.number stays.counter fun entry member other m value told => ?_
  rcases List.mem_cons.mp member with rfl | old
  · cases told
    refine .inr ⟨Nat.lt_of_lt_of_le (sound.used checks.found) (stays.counter provider), ?_⟩
    obtain ⟨caller, u', gasLimit, requested⟩ := kept.asked checks.found
    obtain ⟨registration, below, index, placed, commits, linked, place⟩ :=
      (kept.answered requested checks.found).placed
    -- the contributions are those of the request
    have same := injective (checks.opens.trans commits)
    have opens : (chainHash K)^[req.numHashes] v = below := (List.cons.inj (List.cons.inj same).2).1
    refine ⟨registration, placed, ?_⟩
    have index_eq : n - registration.offset = index + req.numHashes := by omega
    rw [index_eq]
    exact linked.append opens
  · exact .inl old

/-- **An advancement** puts the value of its number on chain. -/
theorem Attributed.advanced (holds : ChainSound K w) (kept : Kept K w log)
    (attributed : Attributed K w log) {n : ℕ} {v : Bytes32}
    (checks : AdvanceChecks K w provider n v) : Attributed K (w.advanced provider n v) log := by
  have stays := advanced_stays holds checks
  have registered := advanced_registered holds checks
  have ordered := holds.ordered provider registered
  refine attributed.extend stays.number stays.counter fun entry member other m value told => ?_
  rcases List.mem_cons.mp member with rfl | old
  · cases told
    obtain ⟨before, registration, own, offset, commitment, last⟩ := kept.current provider registered
    have start := ordered.original_le
    have newer := checks.newer
    have inside := checks.inside
    refine .inr ⟨?_, registration, ?_, ?_⟩
    · show n < ((w.state.setProvider provider _).providers provider).sequenceNumber
      rw [State.setProvider_providers, if_pos rfl]
      exact Nat.lt_of_lt_of_le (Nat.lt_succ_self n) (Nat.le_max_right _ _)
    · rw [own]
      exact .last (by omega) (by omega)
    · rw [offset, commitment]
      have steps : n - (w.state.providers provider).originalCommitmentSequenceNumber =
          (w.state.providers provider).currentCommitmentSequenceNumber -
            (w.state.providers provider).originalCommitmentSequenceNumber +
          (n - (w.state.providers provider).currentCommitmentSequenceNumber) := by omega
      rw [steps]
      exact ordered.linked.append checks.opens
  · exact .inl old

/-- A request puts no value on chain. -/
theorem Attributed.requested (attributed : Attributed K w log) (msg : Msg) (u : Bytes32)
    (gasLimit10k : ℕ) : Attributed K (w.requested K msg provider u gasLimit10k) log := by
  have providers : ∀ other, (w.requested K msg provider u gasLimit10k).state.providers other =
      if other = provider then (w.state.providers provider).counted
      else w.state.providers other :=
    fun other => State.setProvider_providers w.state provider other _
  refine attributed.extend (fun other => ?_) (fun other => ?_) fun entry member other n v value => ?_
  · rw [providers]
    by_cases same : other = provider
    · rw [if_pos same, same]
      rfl
    · rw [if_neg same]
  · rw [providers]
    by_cases same : other = provider
    · rw [if_pos same, same]
      exact Nat.le_succ _
    · exact Nat.le_of_eq (congrArg ProviderInfo.sequenceNumber (if_neg same)).symm
  · rcases List.mem_cons.mp member with rfl | member
    · cases value
    · rcases List.mem_cons.mp member with rfl | old
      · cases value
      · exact .inl old

/-- The number of the present registration, up to the counter. -/
theorem Kept.placed (holds : ChainSound K w) (kept : Kept K w log) {n : ℕ}
    (lower : (w.state.providers provider).originalCommitmentSequenceNumber ≤ n)
    (upper : n < (w.state.providers provider).sequenceNumber) :
    ∃ registration, Placed (registrationsOf provider log) n registration := by
  have registered : (w.state.providers provider).sequenceNumber ≠ 0 := by omega
  obtain ⟨before, registration, own, offset, _, last⟩ := kept.current provider registered
  have ordered := (holds.ordered provider registered).sequence_le
  refine ⟨registration, ?_⟩
  rw [own]
  exact .last (by omega) (by omega)

/-- **Every number that was assigned has a registration.** -/
theorem Attributed.placed (holds : ChainSound K w) (kept : Kept K w log)
    (attributed : Attributed K w log) {n : ℕ} (used : n < (w.state.providers provider).sequenceNumber) :
    ∃ registration, Placed (registrationsOf provider log) n registration := by
  by_cases current : (w.state.providers provider).originalCommitmentSequenceNumber ≤ n
  · exact kept.placed holds current used
  · exact attributed.earlier provider n (Nat.lt_of_not_le current)

/-- A registration of a provider takes nothing from the numbers below it. -/
theorem placed_registered {other : Address} {n : ℕ} {registration new : Registration Bytes32}
    (placed : Placed (registrationsOf other log) n registration)
    (above : new.provider = other → n < new.offset) :
    Placed (registrationsOf other (log ++ [new])) n registration := by
  rw [registrationsOf_append]
  by_cases own : new.provider = other
  · rw [if_pos own]
    exact placed.append (above own)
  · rw [if_neg own, List.append_nil]
    exact placed

/-- **A registration**: the numbers up to the counter are those of the earlier ones, and the commitment is
the value of the first number. -/
theorem Attributed.rotated (attributed : Attributed K w log)
    (assigned : ∀ n < (w.state.providers provider).sequenceNumber,
      ∃ registration, Placed (registrationsOf provider log) n registration)
    {commitment : Bytes32} {commitmentMetadata uri : Bytes} {chainLength : ℕ}
    (nonempty : 0 < chainLength) :
    Attributed K (w.rotated provider commitment commitmentMetadata chainLength uri)
      (log ++ [⟨provider, (w.state.providers provider).sequenceNumber, commitment, chainLength⟩]) := by
  have providers : ∀ other, (w.rotated provider commitment commitmentMetadata chainLength
      uri).state.providers other = if other = provider then (w.state.providers provider).rotated
        commitment commitmentMetadata chainLength uri else w.state.providers other :=
    fun other => State.setProvider_providers w.state provider other _
  refine ⟨fun other n below => ?_, fun entry member other n v told => ?_⟩
  · rw [providers] at below
    by_cases same : other = provider
    · subst same
      rw [if_pos rfl] at below
      obtain ⟨registration, placed⟩ := assigned n below
      exact ⟨registration, placed_registered placed fun _ => below⟩
    · rw [if_neg same] at below
      obtain ⟨registration, placed⟩ := attributed.earlier other n below
      exact ⟨registration, placed_registered placed fun own => absurd own.symm same⟩
  · rcases List.mem_cons.mp member with rfl | member
    · cases told
    · rcases List.mem_cons.mp member with rfl | old
      · cases told
        rw [providers, if_pos rfl]
        refine ⟨Nat.lt_succ_self _, ⟨provider,
          (w.state.providers provider).sequenceNumber, commitment, chainLength⟩, ?_, ?_⟩
        · rw [registrationsOf_append, if_pos rfl]
          exact .last (Nat.le_refl _) (Nat.lt_add_of_pos_right nonempty)
        · show IsLink (chainHash K) commitment (_ - _) commitment
          rw [Nat.sub_self]
          exact .root _ _
      · obtain ⟨used, registration, placed, linked⟩ := attributed.values entry old other n v told
        refine ⟨?_, registration, placed_registered placed ?_, linked⟩
        · rw [providers]
          by_cases same : other = provider
          · subst same
            rw [if_pos rfl]
            exact Nat.lt_succ_of_lt used
          · rw [if_neg same]
            exact used
        · rintro rfl
          exact used

/-! ### The obligations -/

theorem Finishes.attributed (injective : Function.Injective K.keccak256) (sound : Sound K w)
    (holds : ChainSound K w) (kept : Kept K w log) (attributed : Attributed K w log)
    {m : Message Bytes32} (finishes : Finishes K m w w') :
    Attributed K w' (logRegistration m w w' log) := by
  -- only a registration writes the log
  cases finishes with
  | @registered provider _ chainLength commitment metadata uri call checks =>
    have number : ((w.rotated provider commitment metadata chainLength uri).state.providers
        provider).originalCommitmentSequenceNumber =
          (w.state.providers provider).sequenceNumber := by
      show ((w.state.setProvider provider _).providers provider).originalCommitmentSequenceNumber = _
      rw [State.setProvider_providers, if_pos rfl]
      rfl
    simp only [logRegistration, call, number]
    exact attributed.rotated (fun n => attributed.placed holds kept)
      (Nat.pos_of_ne_zero checks.nonempty)
  | requested call checks =>
    simp only [logRegistration, call]
    exact attributed.requested _ _ _
  | revealed _ checks status _ => exact absurd status (sound.withCallback checks.found)
  | @noCallback provider n _ _ _ v _ call checks _ _ _ =>
    simp only [logRegistration, call]
    have sound' := (accepted_evolves sound provider n v).1
    refine (attributed.accepted injective sound kept checks).quiet ?_
    exact .of_removed sound'.wf rfl rfl (plain_one rfl)
  | refundedNothing call _ _ =>
    simp only [logRegistration, call]
    refine attributed.quiet ?_
    exact .of_removed sound.wf rfl rfl (plain_one rfl)
  | advanced call checks =>
    simp only [logRegistration, call]
    exact attributed.advanced holds kept checks
  | configured registered configures =>
    have same : ∀ after, logRegistration m w after log = log := by
      intro after
      cases configures with
      | uri call => simp only [logRegistration, call]
      | maxNumHashes call => simp only [logRegistration, call]
      | defaultGasLimit call _ => simp only [logRegistration, call]
    have stays := configured_stays (K := K) registered configures
    rw [same]
    refine attributed.extend stays.number stays.counter fun entry member other n v told => ?_
    rcases List.mem_cons.mp member with rfl | old
    · cases told
    · exact .inl old
  | administered administers =>
    have same : ∀ after, logRegistration m w after log = log := by
      intro after
      cases administers with
      | proposed call _ _ => simp only [logRegistration, call]
      | accepted call _ => simp only [logRegistration, call]
      | defaultProvider call _ => simp only [logRegistration, call]
      | fee call _ => simp only [logRegistration, call]
    rw [same]
    refine attributed.quiet ?_
    exact .of_same administers.table administers.providers plain_nil
  | forced call =>
    simp only [logRegistration, call]
    refine attributed.quiet ?_
    exact .of_same rfl rfl (plain_one rfl)

/-- The first half of a call that calls out accepts a reveal, or puts no value on chain. -/
theorem Calls.attributed (injective : Function.Injective K.keccak256) (sound : Sound K w)
    (kept : Kept K w log) (attributed : Attributed K w log) {m : Message Bytes32}
    {pending : Pending Bytes32} (calls : Calls K m w w' pending) : Attributed K w' log := by
  cases calls with
  | @limited provider n _ _ _ _ v _ _ checks _ _ =>
    have sound' := (accepted_evolves sound provider n v).1
    refine (attributed.accepted injective sound kept checks).quiet ?_
    exact .of_status sound'.wf rfl rfl (plain_one rfl)
  | @unlimited provider n _ _ _ _ v _ _ checks _ _ =>
    have sound' := (accepted_evolves sound provider n v).1
    refine (attributed.accepted injective sound kept checks).quiet ?_
    exact .of_removed sound'.wf rfl rfl (plain_one rfl)
  | refund _ _ _ _ _ =>
    refine attributed.quiet ?_
    exact .of_removed sound.wf rfl rfl (plain_one rfl)
  | withdrawal _ _ _ _ =>
    refine attributed.quiet ?_
    exact .of_same rfl rfl (plain_one rfl)
  | foreign _ => exact attributed

theorem constructor_attributed {d : Deployment Bytes32} (deployed : constructor K d = .ok w) :
    Attributed K w d.registrations := by
  have empty : Attributed K (d.world K) [] := by
    refine ⟨fun _ n below => absurd below (Nat.not_lt_zero n), fun entry member _ _ _ told => ?_⟩
    obtain rfl := List.mem_singleton.mp member
    cases told
  unfold Deployment.registrations
  rcases constructor_rotated deployed with ⟨none, rfl⟩ | ⟨nonempty, rfl⟩
  · rw [if_neg (by omega)]
    exact empty
  · rw [if_pos nonempty]
    exact empty.rotated (fun n below => absurd below (Nat.not_lt_zero n)) nonempty

/-- **In every logged run.** -/
theorem LoggedReachable.attributed (injective : Function.Injective K.keccak256)
    {c : LoggedConfig Bytes32} (reach : LoggedReachable K c) :
    (Sound K c.world.1 ∧ ChainSound K c.world.1) ∧ Kept K c.world.1 c.world.2 ∧
      Attributed K c.world.1 c.world.2 := by
  obtain ⟨d, w, deployed, run⟩ := reach
  have known := absolute (chain_rely injective anyCall)
  have rely : CallStack.AbsoluteRely ((dice K).logged logRegistration) _ _ _ := known.withLog
    (L := fun w log => Kept K w log ∧ Attributed K w log)
    (fun invariant holds _ started =>
      have half := start_done started
      ⟨half.kept invariant.1 invariant.2 holds.1,
        half.attributed injective invariant.1 invariant.2 holds.1 holds.2⟩)
    (fun invariant holds _ started =>
      have half := start_calling started
      ⟨holds.1.stays (half.stays invariant.1),
        half.attributed injective invariant.1 holds.1 holds.2⟩)
    (fun _ started invariant holds resumed =>
      have quiet := (resume_ok (start_calling started).proper resumed).quiet invariant.1
      ⟨holds.1.stays quiet.stays, holds.2.quiet quiet⟩)
    (fun {t w g} _ holds =>
      have quiet : Quiet K w ((dice K).idle t w) := .of_same rfl rfl plain_nil
      ⟨holds.1.stays quiet.stays, holds.2.quiet quiet⟩)
  exact (rely.sound ⟨⟨constructor_sound deployed, constructor_chain deployed⟩,
    constructor_kept deployed, constructor_attributed deployed⟩ rfl run).1

end Invariant

/-! ### What a state reveals -/

section Revealing

variable {K : Keccak Bytes32} [DecidableEq Bytes32] {known later : List (Registration Bytes32)}
variable {chains : List (PebbleHashChain Bytes32)} {n : ℕ}

/-- **The value of a number**, if its registration is known. -/
theorem reveal_of_placed {registration : Registration Bytes32}
    (increasing : (known ++ later).Pairwise fun earlier later => earlier.offset < later.offset)
    (stored : List.Forall₂ (Registration.Stores K) known chains)
    (placed : Placed (known ++ later) n registration) (below : ∀ r ∈ later, n < r.offset) :
    ∃ v, (HashChainState.mk (known.map Registration.offset) chains).reveal (chainHash K) n = .ok v ∧
      IsLink (chainHash K) registration.commitment (n - registration.offset) v := by
  obtain ⟨before, after, split, lower, upper, rest⟩ := placed.known below
  obtain ⟨chain, ⟨secret, made, root, length⟩, reveals⟩ :=
    reveal_of_answered split (List.pairwise_append.mp increasing).1 stored lower rest
  have within : n - registration.offset < chain.len := by omega
  obtain ⟨v, revealed, linked⟩ := made.link root within
  exact ⟨v, reveals.trans revealed, linked⟩

end Revealing

end Dice
