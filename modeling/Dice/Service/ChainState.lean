/-
**The keeper's chains answer every active request.**

* `Registration` — what a registration stores: where the chain starts, its commitment, its length. The
  run of the contract is logged with the list of all of them (`LoggedReachable`).
* `Answered` — a request is answered by the last registration that starts at or before its number, and
  commits to a value of that registration's chain.
* `Kept` — the invariant of world and log: registrations start at increasing numbers, the last one is
  the provider's record, and every active request is answered.
* `keeper_reveals` — a `HashChainState` of chains that were registered reveals, for every active
  request, a value that `revealHelper` accepts.
-/

import Mathlib.Data.List.Forall2
import Dice.Library.Logged
import Dice.Contract.Chains
import Dice.Service.HashChains

set_option linter.unusedSectionVars false

namespace Dice

open HashChain (IsLink)

variable {Bytes32 : Type}

/-! ### Registrations -/

/-- A registration, with the provider's `originalCommitmentSequenceNumber` after it. -/
structure Registration (Bytes32 : Type) where
  provider : Address
  offset : ℕ
  commitment : Bytes32
  chainLength : ℕ
  deriving DecidableEq, Repr

/-- The log of a finished call. -/
def logRegistration (m : Message Bytes32) (_ w' : World Bytes32)
    (log : List (Registration Bytes32)) : List (Registration Bytes32) :=
  match m.call with
  | .registerFor provider _ commitment _ chainLength _ =>
      log ++ [⟨provider, (w'.state.providers provider).originalCommitmentSequenceNumber, commitment,
        chainLength⟩]
  | _ => log

/-- The registration that the constructor makes. -/
def Deployment.registrations (d : Deployment Bytes32) : List (Registration Bytes32) :=
  if d.providerChainLength > 0 then
    [⟨d.defaultProvider, 0, d.providerCommitment, d.providerChainLength⟩]
  else []

/-- The registrations of one provider, in order. -/
def registrationsOf (provider : Address) (log : List (Registration Bytes32)) :
    List (Registration Bytes32) :=
  log.filter fun registration => registration.provider = provider

variable (K : Keccak Bytes32) [DecidableEq Bytes32]

abbrev LoggedConfig (Bytes32 : Type) :=
  CallStack.Config (World Bytes32 × List (Registration Bytes32)) (Pending Bytes32)

/-- **All runs, with the registrations that were not undone.** -/
def LoggedReachable (c : LoggedConfig Bytes32) : Prop :=
  ∃ d w, constructor K d = .ok w ∧
    ((dice K).logged logRegistration).Reachable (fun _ _ => True) ⟨(w, d.registrations), []⟩ c

/-- Without the log these are the runs of the contract. -/
theorem LoggedReachable.reachable {c : LoggedConfig Bytes32} (reach : LoggedReachable K c) :
    Reachable K anyCall c.unlog := by
  obtain ⟨d, w, deployed, run⟩ := reach
  have run' : (dice K).Reachable anyCall _ c.unlog := CallStack.Component.Reachable.unlog run
  exact ⟨d, w, deployed, run'⟩

/-- And every run can be logged. -/
theorem Reachable.logged {c : Config Bytes32} (reach : Reachable K anyCall c) :
    ∃ c' : LoggedConfig Bytes32, c'.unlog = c ∧ LoggedReachable K c' := by
  obtain ⟨d, w, deployed, run⟩ := reach
  let origin : LoggedConfig Bytes32 := ⟨(w, d.registrations), []⟩
  have unlogged : (dice K).Reachable anyCall origin.unlog c := run
  obtain ⟨c', same, run'⟩ := unlogged.relog logRegistration
  exact ⟨c', same, d, w, deployed, run'⟩

/-! ### The invariant -/

/-- **The registration that answers a request**: the last one that starts at or before its number.
The request, made with contribution `u`, commits to a value of its chain. -/
def Answered (own : List (Registration Bytes32)) (u : Bytes32) (n : ℕ) (req : Request Bytes32) :
    Prop :=
  ∃ before registration after, own = before ++ registration :: after ∧
    registration.offset ≤ n ∧ n < registration.offset + registration.chainLength ∧
    (∀ later ∈ after, n < later.offset) ∧ ∃ value index,
      req.commitment = K.keccak256 [constructUserCommitment K u, value] ∧
        IsLink (chainHash K) registration.commitment index value ∧
        registration.offset + index + req.numHashes = n

/-- **Registrations and requests.** -/
structure Kept (w : World Bytes32) (log : List (Registration Bytes32)) : Prop where
  increasing : ∀ provider,
    (registrationsOf provider log).Pairwise fun earlier later => earlier.offset < later.offset
  used : ∀ provider, ∀ registration ∈ registrationsOf provider log,
    registration.offset < (w.state.providers provider).sequenceNumber
  current : ∀ provider, (w.state.providers provider).sequenceNumber ≠ 0 →
    ∃ before registration, registrationsOf provider log = before ++ [registration] ∧
      registration.offset = (w.state.providers provider).originalCommitmentSequenceNumber ∧
      registration.commitment = (w.state.providers provider).originalCommitment ∧
      registration.offset + registration.chainLength =
        (w.state.providers provider).endSequenceNumber
  assigned : ∀ {provider caller n u gasLimit},
    .emitted (.requested provider caller n u gasLimit) ∈ w.history →
      n < (w.state.providers provider).sequenceNumber
  asked : ∀ {provider n req}, w.state.lookup K (provider, n) = some req →
    ∃ caller u gasLimit, .emitted (.requested provider caller n u gasLimit) ∈ w.history
  answered : ∀ {provider caller n u gasLimit req},
    .emitted (.requested provider caller n u gasLimit) ∈ w.history →
      w.state.lookup K (provider, n) = some req → Answered K (registrationsOf provider log) u n req

/-- Registrations stay and no request is new. -/
structure Stays (w w' : World Bytes32) : Prop where
  narrows : Narrows K w w'
  counter : w.CountsUp w'
  registered : ∀ provider, (w'.state.providers provider).sequenceNumber ≠ 0 →
    (w.state.providers provider).sequenceNumber ≠ 0
  original : ∀ provider, (w'.state.providers provider).originalCommitment =
    (w.state.providers provider).originalCommitment
  number : ∀ provider, (w'.state.providers provider).originalCommitmentSequenceNumber =
    (w.state.providers provider).originalCommitmentSequenceNumber
  last : ∀ provider, (w'.state.providers provider).endSequenceNumber =
    (w.state.providers provider).endSequenceNumber
  requested : ∀ {provider caller n u gasLimit},
    .emitted (.requested provider caller n u gasLimit) ∈ w'.history ↔
      .emitted (.requested provider caller n u gasLimit) ∈ w.history

section Invariant

variable {K} {w w' w'' : World Bytes32} {log : List (Registration Bytes32)} {provider : Address}

theorem registrationsOf_append (log : List (Registration Bytes32)) (other : Address)
    (registration : Registration Bytes32) :
    registrationsOf other (log ++ [registration]) =
      registrationsOf other log ++ if registration.provider = other then [registration] else [] := by
  unfold registrationsOf
  rw [List.filter_append, List.filter_singleton]
  by_cases same : registration.provider = other <;> simp [same]

theorem Answered.same {own : List (Registration Bytes32)} {u : Bytes32} {n : ℕ}
    {req req' : Request Bytes32} (answered : Answered K own u n req) (same : req.Same req') :
    Answered K own u n req' := by
  unfold Request.Same at same
  unfold Answered at answered ⊢
  rw [same]
  exact answered

/-- A registration from a higher number on does not concern the request. -/
theorem Answered.append {own : List (Registration Bytes32)} {u : Bytes32} {n : ℕ}
    {req : Request Bytes32} (answered : Answered K own u n req) {later : Registration Bytes32}
    (above : n < later.offset) : Answered K (own ++ [later]) u n req := by
  obtain ⟨before, registration, after, rfl, lower, upper, rest, opens⟩ := answered
  refine ⟨before, registration, after ++ [later], by simp, lower, upper, fun other member => ?_,
    opens⟩
  rcases List.mem_append.mp member with member | member
  · exact rest other member
  · obtain rfl := List.mem_singleton.mp member
    exact above

theorem Stays.trans (first : Stays K w w') (second : Stays K w' w'') : Stays K w w'' where
  narrows := first.narrows.trans second.narrows
  counter provider := Nat.le_trans (first.counter provider) (second.counter provider)
  registered provider now := first.registered provider (second.registered provider now)
  original provider := (second.original provider).trans (first.original provider)
  number provider := (second.number provider).trans (first.number provider)
  last provider := (second.last provider).trans (first.last provider)
  requested := second.requested.trans first.requested

/-- A plain entry is no new request. -/
theorem requested_append {new older : List (Entry Bytes32)}
    (plain : ∀ entry ∈ new, ∀ provider caller n u gasLimit,
      entry ≠ .emitted (.requested provider caller n u gasLimit))
    {caller : Address} {n : ℕ} {u : Bytes32} {gasLimit : ℕ} :
    .emitted (.requested provider caller n u gasLimit) ∈ new ++ older ↔
      .emitted (.requested provider caller n u gasLimit) ∈ older := by
  constructor
  · intro member
    rcases List.mem_append.mp member with member | member
    · exact absurd rfl (plain _ member _ _ _ _ _)
    · exact member
  · exact List.mem_append_right _

theorem Quiet.stays (quiet : Quiet K w w') : Stays K w w' := by
  obtain ⟨new, history, plain⟩ := quiet.history
  refine ⟨quiet.narrows, fun provider => ?_, fun provider => ?_, fun provider => ?_,
    fun provider => ?_, fun provider => ?_, fun {provider caller n u gasLimit} => ?_⟩
  · exact Nat.le_of_eq (by rw [quiet.providers])
  · rw [quiet.providers]
    exact id
  · rw [quiet.providers]
  · rw [quiet.providers]
  · rw [quiet.providers]
  · rw [history]
    refine requested_append fun entry member _ _ _ _ _ same => ?_
    have contradiction := plain entry member
    rw [same] at contradiction
    cases contradiction

/-- One provider's record is rewritten under the same registration. -/
theorem stays_setProvider {info : ProviderInfo Bytes32} {entry : Entry Bytes32}
    (table : w'.state.table = w.state.table)
    (providers : w'.state.providers = (w.state.setProvider provider info).providers)
    (history : w'.history = entry :: w.history)
    (plain : ∀ provider caller n u gasLimit,
      entry ≠ .emitted (.requested provider caller n u gasLimit))
    (registered : (w.state.providers provider).sequenceNumber ≠ 0)
    (counter : (w.state.providers provider).sequenceNumber ≤ info.sequenceNumber)
    (original : info.originalCommitment = (w.state.providers provider).originalCommitment)
    (number : info.originalCommitmentSequenceNumber =
      (w.state.providers provider).originalCommitmentSequenceNumber)
    (last : info.endSequenceNumber = (w.state.providers provider).endSequenceNumber) :
    Stays K w w' := by
  have record : ∀ {α : Type} (field : ProviderInfo Bytes32 → α),
      field info = field (w.state.providers provider) → ∀ other,
        field (w'.state.providers other) = field (w.state.providers other) := by
    intro α field same other
    rw [providers, State.setProvider_providers]
    split
    · next here => rw [same, here]
    · rfl
  refine ⟨.of_same table, fun other => ?_, fun other => ?_, record _ original, record _ number,
    record _ last, fun {other caller n u gasLimit} => ?_⟩
  · rw [providers, State.setProvider_providers]
    split
    · next here => exact here ▸ counter
    · exact Nat.le_refl _
  · rw [providers, State.setProvider_providers]
    split
    · next here => exact fun _ => here ▸ registered
    · exact id
  · rw [history]
    have alone : ∀ only ∈ [entry], ∀ provider caller n u gasLimit,
        only ≠ .emitted (.requested provider caller n u gasLimit) := by simpa using plain
    exact requested_append alone

theorem accepted_stays (sound : Sound K w) {n : ℕ} {u v : Bytes32} {req : Request Bytes32}
    (checks : RevealChecks K w provider n u v req) : Stays K w (w.accepted provider n v) := by
  have used : n < (w.state.providers provider).sequenceNumber := sound.used checks.found
  refine stays_setProvider rfl rfl rfl (fun _ _ _ _ _ same => by cases same) (by omega)
    (Nat.le_of_eq (ProviderInfo.revealedAt_sequenceNumber _ n v).symm)
    (ProviderInfo.revealedAt_original _ n v) (ProviderInfo.revealedAt_originalNumber _ n v) ?_
  unfold ProviderInfo.revealedAt
  split <;> rfl

theorem advanced_stays (holds : ChainSound K w) {n : ℕ} {v : Bytes32}
    (checks : AdvanceChecks K w provider n v) : Stays K w (w.advanced provider n v) :=
  stays_setProvider rfl rfl rfl (fun _ _ _ _ _ same => by cases same)
    (advanced_registered holds checks) (Nat.le_max_left _ _) rfl rfl rfl

theorem configured_stays {m : Message Bytes32} {p : ProviderInfo Bytes32} {event : Event Bytes32}
    (registered : (w.state.providers m.msg.sender).sequenceNumber ≠ 0)
    (configures : Configures m (w.state.providers m.msg.sender) p event) :
    Stays K w ((w.setState (w.state.setProvider m.msg.sender p)).emit event) := by
  have chain := configures.sameChain
  refine stays_setProvider rfl rfl rfl (fun _ _ _ _ _ same => ?_) registered
    (Nat.le_of_eq chain.sequenceNumber.symm) chain.original chain.originalSequenceNumber
    chain.endSequenceNumber
  have plain := configures.plain
  rw [same] at plain
  cases plain

theorem Calls.stays (sound : Sound K w) {m : Message Bytes32} {pending : Pending Bytes32}
    (calls : Calls K m w w' pending) : Stays K w w' := by
  cases calls with
  | @limited provider n _ _ _ _ v _ _ checks _ _ =>
    have sound' := (accepted_evolves sound provider n v).1
    refine (accepted_stays sound checks).trans (Quiet.stays ?_)
    exact .of_status sound'.wf rfl rfl (plain_one rfl)
  | @unlimited provider n _ _ _ _ v _ _ checks _ _ =>
    have sound' := (accepted_evolves sound provider n v).1
    refine (accepted_stays sound checks).trans (Quiet.stays ?_)
    exact .of_removed sound'.wf rfl rfl (plain_one rfl)
  | refund _ _ _ _ _ =>
    refine Quiet.stays ?_
    exact .of_removed sound.wf rfl rfl (plain_one rfl)
  | withdrawal _ _ _ _ =>
    refine Quiet.stays ?_
    exact .of_same rfl rfl (plain_one rfl)
  | foreign _ =>
    refine Quiet.stays ?_
    exact .of_same rfl rfl plain_nil

theorem Kept.stays (kept : Kept K w log) (stays : Stays K w w') : Kept K w' log where
  increasing := kept.increasing
  used provider registration member :=
    Nat.lt_of_lt_of_le (kept.used provider registration member) (stays.counter provider)
  current provider now := by
    rw [stays.number, stays.original, stays.last]
    exact kept.current provider (stays.registered provider now)
  assigned requested :=
    Nat.lt_of_lt_of_le (kept.assigned (stays.requested.mp requested)) (stays.counter _)
  asked found := by
    obtain ⟨req, found, _⟩ := stays.narrows found
    obtain ⟨caller, u, gasLimit, requested⟩ := kept.asked found
    exact ⟨caller, u, gasLimit, stays.requested.mpr requested⟩
  answered requested found := by
    obtain ⟨req, found, same⟩ := stays.narrows found
    exact (kept.answered (stays.requested.mp requested) found).same same

/-- **A registration**: it starts where the provider's numbers stand. -/
theorem Kept.rotated (sound : Sound K w) (kept : Kept K w log) {commitment : Bytes32}
    {commitmentMetadata uri : Bytes} {chainLength : ℕ} :
    Kept K (w.rotated provider commitment commitmentMetadata chainLength uri)
      (log ++ [⟨provider, (w.state.providers provider).sequenceNumber, commitment,
        chainLength⟩]) := by
  have own := fun other => registrationsOf_append log other
    ⟨provider, (w.state.providers provider).sequenceNumber, commitment, chainLength⟩
  have providers : ∀ other, (w.rotated provider commitment commitmentMetadata chainLength
      uri).state.providers other = if other = provider then (w.state.providers provider).rotated
        commitment commitmentMetadata chainLength uri else w.state.providers other :=
    fun other => State.setProvider_providers w.state provider other _
  have events : ∀ {other caller n u gasLimit}, .emitted (.requested other caller n u gasLimit) ∈
      (w.rotated provider commitment commitmentMetadata chainLength uri).history →
        .emitted (.requested other caller n u gasLimit) ∈ w.history := by
    intro other caller n u gasLimit member
    rcases List.mem_cons.mp member with same | member
    · cases same
    · rcases List.mem_cons.mp member with same | member
      · cases same
      · exact member
  refine ⟨fun other => ?_, fun other registration member => ?_, fun other now => ?_,
    fun {other caller n u gasLimit} requested => ?_, fun {other n req} found => ?_,
    fun {other caller n u gasLimit req} requested found => ?_⟩
  · rw [own]
    split
    · next same =>
      subst same
      refine List.pairwise_append.mpr ⟨kept.increasing provider, List.pairwise_singleton _ _,
        fun earlier member later last => ?_⟩
      obtain rfl := List.mem_singleton.mp last
      exact kept.used provider earlier member
    · rw [List.append_nil]
      exact kept.increasing other
  · rw [providers]
    rw [own] at member
    by_cases same : other = provider
    · rw [if_pos same.symm, same] at member
      rw [if_pos same]
      rcases List.mem_append.mp member with member | member
      · exact Nat.lt_succ_of_lt (kept.used provider registration member)
      · obtain rfl := List.mem_singleton.mp member
        exact Nat.lt_succ_self _
    · rw [if_neg (Ne.symm same), List.append_nil] at member
      rw [if_neg same]
      exact kept.used other registration member
  · rw [providers, own]
    rw [providers] at now
    by_cases same : other = provider
    · rw [if_pos same, if_pos same.symm]
      exact ⟨_, _, rfl, rfl, rfl, rfl⟩
    · rw [if_neg same] at now
      rw [if_neg same, if_neg (Ne.symm same), List.append_nil]
      exact kept.current other now
  · rw [providers]
    have before := kept.assigned (events requested)
    split
    · next same => exact Nat.lt_succ_of_lt (same ▸ before)
    · exact before
  · have found' : w.state.lookup K (other, n) = some req := found
    obtain ⟨caller, u, gasLimit, requested⟩ := kept.asked found'
    exact ⟨caller, u, gasLimit, List.mem_cons_of_mem _ (List.mem_cons_of_mem _ requested)⟩
  · have found' : w.state.lookup K (other, n) = some req := found
    have answered := kept.answered (events requested) found'
    rw [own]
    split
    · next same =>
      subst same
      exact answered.append (sound.used found')
    · rw [List.append_nil]
      exact answered

/-- **A request** is answered by the current registration. -/
theorem Kept.requested (sound : Sound K w) (holds : ChainSound K w) (kept : Kept K w log)
    {msg : Msg} {u : Bytes32} {gasLimit gasLimit10k : ℕ}
    (checks : RequestChecks w msg provider gasLimit gasLimit10k) :
    Kept K (w.requested K msg provider u gasLimit10k) log := by
  have ordered := holds.ordered provider checks.registered
  have key := madeRequest_key (K := K) msg u gasLimit10k checks.registered
  have stored : ∀ {other n req},
      (w.requested K msg provider u gasLimit10k).state.lookup K (other, n) = some req →
        (other, n) = (provider, (w.state.providers provider).sequenceNumber) ∧
            req = madeRequest K w msg provider u gasLimit10k ∨
          (other, n) ≠ (provider, (w.state.providers provider).sequenceNumber) ∧
            w.state.lookup K (other, n) = some req :=
    fun found => found_of_stored sound (w.requested_fresh provider) key rfl found
  have providers : ∀ other, (w.requested K msg provider u gasLimit10k).state.providers other =
      if other = provider then (w.state.providers provider).counted
      else w.state.providers other :=
    fun other => State.setProvider_providers w.state provider other _
  have counter : w.CountsUp (w.requested K msg provider u gasLimit10k) := by
    intro other
    rw [providers]
    split
    · next same => exact same ▸ Nat.le_succ _
    · exact Nat.le_refl _
  have events : ∀ {other caller n v gas}, .emitted (.requested other caller n v gas) ∈
      (w.requested K msg provider u gasLimit10k).history →
        (other = provider ∧ n = (w.state.providers provider).sequenceNumber ∧ v = u) ∨
          .emitted (.requested other caller n v gas) ∈ w.history := by
    intro other caller n v gas member
    rcases List.mem_cons.mp member with same | member
    · injection same with same
      injection same with provider_eq _ n_eq u_eq _
      exact .inl ⟨provider_eq, n_eq, u_eq⟩
    · rcases List.mem_cons.mp member with same | member
      · cases same
      · exact .inr member
  refine ⟨kept.increasing, fun other registration member => ?_, fun other now => ?_,
    fun {other caller n v gas} requested => ?_, fun {other n req} found => ?_,
    fun {other caller n v gas req} requested found => ?_⟩
  · exact Nat.lt_of_lt_of_le (kept.used other registration member) (counter other)
  · rw [providers] at now ⊢
    by_cases same : other = provider
    · rw [if_pos same, same]
      exact kept.current provider checks.registered
    · rw [if_neg same] at now ⊢
      exact kept.current other now
  · rcases events requested with ⟨rfl, rfl, _⟩ | old
    · rw [providers, if_pos rfl]
      exact Nat.lt_succ_self _
    · exact Nat.lt_of_lt_of_le (kept.assigned old) (counter other)
  · rcases stored found with ⟨same, _⟩ | ⟨_, found⟩
    · cases same
      exact ⟨msg.sender, u, _, List.mem_cons_self⟩
    · obtain ⟨caller, v, gas, requested⟩ := kept.asked found
      exact ⟨caller, v, gas, List.mem_cons_of_mem _ (List.mem_cons_of_mem _ requested)⟩
  · rcases stored found with ⟨same, rfl⟩ | ⟨different, found⟩
    · cases same
      have contribution : v = u := by
        rcases events requested with ⟨_, _, same⟩ | old
        · exact same
        · exact absurd (kept.assigned old) (Nat.lt_irrefl _)
      obtain ⟨before, registration, own, number, commitment, last⟩ :=
        kept.current provider checks.registered
      have lower := ordered.original_le
      have behind := ordered.current_lt
      have left := checks.left
      refine ⟨before, registration, [], own, by omega, by omega,
        fun _ member => absurd member List.not_mem_nil,
        (w.state.providers provider).currentCommitment,
        (w.state.providers provider).currentCommitmentSequenceNumber -
          (w.state.providers provider).originalCommitmentSequenceNumber, ?_, ?_, ?_⟩
      · rw [contribution]
        rfl
      · rw [commitment]
        exact ordered.linked
      · show _ + _ + ((w.state.providers provider).sequenceNumber -
          (w.state.providers provider).currentCommitmentSequenceNumber) = _
        omega
    · rcases events requested with ⟨rfl, rfl, _⟩ | old
      · exact absurd rfl different
      · exact kept.answered old found

/-! ### The obligations -/

theorem Finishes.kept (sound : Sound K w) (holds : ChainSound K w) (kept : Kept K w log)
    {m : Message Bytes32} (finishes : Finishes K m w w') :
    Kept K w' (logRegistration m w w' log) := by
  -- only a registration writes the log
  cases finishes with
  | @registered provider _ chainLength commitment metadata uri call checks =>
    have number : ((w.rotated provider commitment metadata chainLength uri).state.providers
        provider).originalCommitmentSequenceNumber =
          (w.state.providers provider).sequenceNumber := by
      show ((w.state.setProvider provider _).providers provider).originalCommitmentSequenceNumber = _
      rw [State.setProvider_providers, if_pos rfl]
      rfl
    simp only [logRegistration, call, number]
    exact kept.rotated sound
  | requested call checks =>
    simp only [logRegistration, call]
    exact kept.requested sound holds checks
  | revealed _ checks status _ => exact absurd status (sound.withCallback checks.found)
  | @noCallback provider n _ _ _ v _ call checks _ _ _ =>
    simp only [logRegistration, call]
    have sound' := (accepted_evolves sound provider n v).1
    refine kept.stays ((accepted_stays sound checks).trans (Quiet.stays ?_))
    exact .of_removed sound'.wf rfl rfl (plain_one rfl)
  | refundedNothing call _ _ =>
    simp only [logRegistration, call]
    refine kept.stays (Quiet.stays ?_)
    exact .of_removed sound.wf rfl rfl (plain_one rfl)
  | advanced call checks =>
    simp only [logRegistration, call]
    exact kept.stays (advanced_stays holds checks)
  | configured registered configures =>
    have same : ∀ after, logRegistration m w after log = log := by
      intro after
      cases configures with
      | uri call => simp only [logRegistration, call]
      | maxNumHashes call => simp only [logRegistration, call]
      | defaultGasLimit call _ => simp only [logRegistration, call]
    rw [same]
    exact kept.stays (configured_stays registered configures)
  | administered administers =>
    have same : ∀ after, logRegistration m w after log = log := by
      intro after
      cases administers with
      | proposed call _ _ => simp only [logRegistration, call]
      | accepted call _ => simp only [logRegistration, call]
      | defaultProvider call _ => simp only [logRegistration, call]
      | fee call _ => simp only [logRegistration, call]
    rw [same]
    refine kept.stays (Quiet.stays ?_)
    exact .of_same administers.table administers.providers plain_nil
  | forced call =>
    simp only [logRegistration, call]
    refine kept.stays (Quiet.stays ?_)
    exact .of_same rfl rfl (plain_one rfl)

theorem constructor_kept {d : Deployment Bytes32} (deployed : constructor K d = .ok w) :
    Kept K w d.registrations := by
  have empty : Kept K (d.world K) [] := by
    refine ⟨fun _ => .nil, fun _ _ member => absurd member List.not_mem_nil,
      fun _ registered => absurd rfl registered, fun requested => ?_, fun {provider n req} found => ?_,
      fun requested => ?_⟩
    · simp [Deployment.world] at requested
    · cases (d.lookup_none (provider, n)).symm.trans found
    · simp [Deployment.world] at requested
  unfold Deployment.registrations
  rcases constructor_rotated deployed with ⟨none, rfl⟩ | ⟨nonempty, rfl⟩
  · rw [if_neg (by omega)]
    exact empty
  · rw [if_pos nonempty]
    exact empty.rotated d.sound

/-- **In every logged run.** -/
theorem LoggedReachable.kept (injective : Function.Injective K.keccak256)
    {c : LoggedConfig Bytes32} (reach : LoggedReachable K c) :
    Sound K c.world.1 ∧ Kept K c.world.1 c.world.2 := by
  obtain ⟨d, w, deployed, run⟩ := reach
  have known := absolute (chain_rely injective anyCall)
  have rely : CallStack.AbsoluteRely ((dice K).logged logRegistration) _ _ _ := known.withLog
    (L := Kept K)
    (fun invariant kept _ started => (start_done started).kept invariant.1 invariant.2 kept)
    (fun invariant kept _ started => kept.stays ((start_calling started).stays invariant.1))
    (fun _ started invariant kept resumed =>
      kept.stays ((resume_ok (start_calling started).proper resumed).quiet invariant.1).stays)
    (fun _ kept => ⟨kept.increasing, kept.used, kept.current, kept.assigned, kept.asked,
      kept.answered⟩)
  have holds := (rely.sound ⟨⟨constructor_sound deployed, constructor_chain deployed⟩,
    constructor_kept deployed⟩ rfl run).1
  exact ⟨holds.1.1, holds.2⟩

/-! ### What the keeper reveals -/

/-- `revealHelper` accepts what opens the request. -/
theorem revealHelper_accepts (sound : Sound K w) {n : ℕ} {u v : Bytes32} {req : Request Bytes32}
    (found : w.state.lookup K (provider, n) = some req)
    (opens : K.keccak256 [constructUserCommitment K u, (chainHash K)^[req.numHashes] v] =
      req.commitment) :
    ∃ out, revealHelper K w (findRequest K w.state provider n) u v = .ok out := by
  have plain := sound.noBlockhash found
  cases ok : revealHelper K w (findRequest K w.state provider n) u v with
  | ok out => exact ⟨out, rfl⟩
  | error error =>
    simp only [revealHelper, read_findRequest found, constructProviderCommitment_eq, opens, plain,
      revertIf, ne_eq, not_true_eq_false, if_false, Bool.false_eq_true, false_and] at ok
    cases ok

end Invariant

/-- The chain that a registration is about: it stores the chain's first value and its length. -/
def Registration.Stores (registration : Registration Bytes32) (chain : PebbleHashChain Bytes32) :
    Prop :=
  ∃ secret, chain.Made (chainHash K) secret ∧
    chain.revealIth (chainHash K) 0 = .ok registration.commitment ∧
    registration.chainLength = chain.len

variable {K}

/-- A related element in the middle. -/
theorem forall₂_split {α β : Type} {R : α → β → Prop} {x : α} {after : List α} :
    ∀ {before : List α} {ys : List β}, List.Forall₂ R (before ++ x :: after) ys →
      ∃ front y back, ys = front ++ y :: back ∧ before.length = front.length ∧ R x y
  | [], _, .cons here _ => ⟨[], _, _, rfl, rfl, here⟩
  | _ :: _, _, .cons _ rest => by
      obtain ⟨front, y, back, rfl, length, here⟩ := forall₂_split rest
      exact ⟨_ :: front, y, back, rfl, congrArg Nat.succ length, here⟩

/-- The registration that answers a number is found by `HashChainState.reveal`. -/
theorem reveal_of_answered {own before after : List (Registration Bytes32)}
    {registration : Registration Bytes32} {chains : List (PebbleHashChain Bytes32)} {n : ℕ}
    (split : own = before ++ registration :: after)
    (increasing : own.Pairwise fun earlier later => earlier.offset < later.offset)
    (stored : List.Forall₂ (Registration.Stores K) own chains)
    (lower : registration.offset ≤ n) (upper : ∀ later ∈ after, n < later.offset) :
    ∃ chain, registration.Stores K chain ∧
      (HashChainState.mk (own.map Registration.offset) chains).reveal (chainHash K) n =
        chain.revealIth (chainHash K) (n - registration.offset) := by
  subst split
  obtain ⟨front, chain, back, rfl, length, here⟩ := forall₂_split stored
  refine ⟨chain, here, ?_⟩
  rw [List.map_append, List.map_cons]
  apply HashChainState.reveal_of_split
  · rw [List.length_map, length]
  · intro x member
    obtain ⟨earlier, inside, rfl⟩ := List.mem_map.mp member
    have ordered := (List.pairwise_append.mp increasing).2.2 earlier inside registration
      List.mem_cons_self
    exact Nat.le_trans (Nat.le_of_lt ordered) lower
  · exact lower
  · intro x member
    obtain ⟨later, inside, rfl⟩ := List.mem_map.mp member
    exact upper later inside

/-- **A number is answered by the chain it was requested on.** What is revealed opens the request. -/
theorem reveal_opens (injective : Function.Injective K.keccak256)
    {own : List (Registration Bytes32)} {chains : List (PebbleHashChain Bytes32)} {n : ℕ}
    {u : Bytes32} {req : Request Bytes32}
    (increasing : own.Pairwise fun earlier later => earlier.offset < later.offset)
    (stored : List.Forall₂ (Registration.Stores K) own chains)
    (answered : Answered K own u n req) :
    ∃ v, (HashChainState.mk (own.map Registration.offset) chains).reveal (chainHash K) n = .ok v ∧
      K.keccak256 [constructUserCommitment K u, (chainHash K)^[req.numHashes] v] =
        req.commitment := by
  obtain ⟨before, registration, after, split, lower, inside, upper, value, index, commits, linked,
    place⟩ := answered
  obtain ⟨chain, ⟨secret, made, root, length⟩, reveals⟩ :=
    reveal_of_answered split increasing stored lower upper
  have within : n - registration.offset < chain.len := by omega
  obtain ⟨v, revealed, link⟩ := made.link root within
  have index_eq : n - registration.offset = index + req.numHashes := by omega
  rw [index_eq] at link
  refine ⟨v, reveals.trans revealed, ?_⟩
  -- the request commits to the value that lies `numHashes` above the revealed one
  rw [linked.above (chainHash_injective injective) link]
  exact commits.symm

/-- **Keeper and contract agree across rotations.** In every run, with whatever nesting of calls:
take chains that the registrations of a provider stored, in order, with the sequence numbers they
start at. The `HashChainState` of them reveals, for every active request of the provider, a value
that `revealHelper` accepts together with the contribution the request was made with. -/
theorem keeper_reveals (injective : Function.Injective K.keccak256) {c : LoggedConfig Bytes32}
    (reach : LoggedReachable K c) {provider : Address} {chains : List (PebbleHashChain Bytes32)}
    (stored : List.Forall₂ (Registration.Stores K) (registrationsOf provider c.world.2) chains) :
    ∃ state, HashChainState.new ((registrationsOf provider c.world.2).map Registration.offset)
        chains = .ok state ∧
      ∀ n req, c.world.1.state.lookup K (provider, n) = some req →
        ∃ v, state.reveal (chainHash K) n = .ok v ∧
          (∃ caller u gasLimit,
            .emitted (.requested provider caller n u gasLimit) ∈ c.world.1.history) ∧
          ∀ caller u gasLimit,
            .emitted (.requested provider caller n u gasLimit) ∈ c.world.1.history →
              ∃ out, revealHelper K c.world.1 (findRequest K c.world.1.state provider n) u v =
                .ok out := by
  obtain ⟨sound, kept⟩ := reach.kept injective
  have increasing := kept.increasing provider
  have lengths : ((registrationsOf provider c.world.2).map Registration.offset).length =
      chains.length := by
    rw [List.length_map]
    exact stored.length_eq
  refine ⟨⟨_, chains⟩, if_neg (not_not.mpr lengths), fun n req found => ?_⟩
  obtain ⟨caller, u, gasLimit, requested⟩ := kept.asked found
  obtain ⟨v, revealed, _⟩ := reveal_opens injective increasing stored
    (kept.answered requested found)
  refine ⟨v, revealed, ⟨caller, u, gasLimit, requested⟩, fun caller' u' gasLimit' requested' => ?_⟩
  obtain ⟨v', revealed', opens⟩ := reveal_opens injective increasing stored
    (kept.answered requested' found)
  have same : v' = v := Except.ok.inj (revealed'.symm.trans revealed)
  exact revealHelper_accepts sound found (same ▸ opens)

namespace Sample

/-- The logged configuration after a list of actions. -/
def loggedAfter (actions : List (Action Sym)) : LoggedConfig Sym :=
  ((dice symbolic).logged logRegistration).run ⟨(world, deployment.registrations), []⟩ actions

theorem loggedReachable (actions : List (Action Sym)) :
    LoggedReachable symbolic (loggedAfter actions) :=
  ⟨deployment, world, deployed, .of_actions _ actions⟩

/-- The chain of the deployment, sampled at every third value. -/
def firstChain : PebbleHashChain Sym := ⟨[value 1, value 4, value 7], 3, 8⟩

/-- A chain of four values, sampled at every second one. -/
def secondChain : PebbleHashChain Sym :=
  ⟨[(chainHash symbolic)^[3] (.atom 99), (chainHash symbolic)^[1] (.atom 99)], 2, 4⟩

/-- The second chain is registered while request 1 is active, and request 4 is made on it. -/
def rotationRun : List (Action Sym) :=
  [request 1, request 2, reveal 2, succeed,
    fromAdmin (.registerFor provider 0 ((chainHash symbolic)^[4] (.atom 99)) [] 4 []), request 4]

end Sample

theorem keeper_reveals_rotationRun :
    let c := Sample.loggedAfter Sample.rotationRun
    List.Forall₂ (Registration.Stores symbolic) (registrationsOf Sample.provider c.world.2)
        [Sample.firstChain, Sample.secondChain] ∧
    ∃ state, HashChainState.new
        ((registrationsOf Sample.provider c.world.2).map Registration.offset)
        [Sample.firstChain, Sample.secondChain] = .ok state ∧
      ∀ n req, c.world.1.state.lookup symbolic (Sample.provider, n) = some req →
        ∃ v, state.reveal (chainHash symbolic) n = .ok v ∧
          (∃ caller u gasLimit,
            .emitted (.requested Sample.provider caller n u gasLimit) ∈ c.world.1.history) ∧
          ∀ caller u gasLimit,
            .emitted (.requested Sample.provider caller n u gasLimit) ∈ c.world.1.history →
              ∃ out, revealHelper symbolic c.world.1
                (findRequest symbolic c.world.1.state Sample.provider n) u v = .ok out := by
  intro c
  have own : registrationsOf Sample.provider c.world.2 =
      [⟨Sample.provider, 0, Sample.value 0, 8⟩,
        ⟨Sample.provider, 3, (chainHash symbolic)^[4] (.atom 99), 4⟩] := by decide +kernel
  have stored : List.Forall₂ (Registration.Stores symbolic)
      (registrationsOf Sample.provider c.world.2) [Sample.firstChain, Sample.secondChain] := by
    rw [own]
    exact .cons ⟨.atom 77, ⟨by decide, rfl⟩, rfl, rfl⟩
      (.cons ⟨.atom 99, ⟨by decide, rfl⟩, rfl, rfl⟩ .nil)
  exact ⟨stored, keeper_reveals symbolic_injective (Sample.loggedReachable Sample.rotationRun)
    stored⟩

end Dice
