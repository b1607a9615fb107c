/-
**The hash chains of providers.**

* `ChainEffect` — what a half of a call can do to provider records and to the requests that refer to
  them: register, make a request, accept a reveal, advance, configure, or nothing but removing
  requests and changing their status (`Quiet`).
* `ChainSound` — the invariant: every registered provider's record is `Ordered`, and every stored
  request of the current registration commits to the value of the current chain it was made at.
* `provider_chain` — every reachable state has this.

Requests of an earlier registration have sequence numbers below `originalCommitmentSequenceNumber`,
so an accepted reveal of one never moves the current commitment.
-/

import Dice.Contract.Symbolic

set_option linter.unusedSectionVars false

namespace Dice

open HashChain (IsLink)

variable {Bytes32 : Type} (K : Keccak Bytes32) [DecidableEq Bytes32]

/-! ### What halves do to providers and requests -/

/-- An entry that is not about chains: no registration, advancement, reveal or new request. -/
def Entry.plain : Entry Bytes32 → Bool
  | .registered .. => false
  | .advanced .. => false
  | .revealed .. => false
  | .emitted (.requested ..) => false
  | _ => true

/-- Requests may be removed and their status may change; providers stay. -/
structure Quiet (w w' : World Bytes32) : Prop where
  narrows : Narrows K w w'
  providers : w'.state.providers = w.state.providers
  history : ∃ new : List (Entry Bytes32), w'.history = new ++ w.history ∧
    ∀ entry ∈ new, entry.plain = true

/-- **The effect of a half on chains.** -/
inductive ChainEffect (w : World Bytes32) : World Bytes32 → Prop
  | quiet {w' : World Bytes32} : Quiet K w w' → ChainEffect w w'
  | accepted {provider : Address} {n : ℕ} {u v : Bytes32} {req : Request Bytes32}
      {w' : World Bytes32} : RevealChecks K w provider n u v req →
      Quiet K (w.accepted provider n v) w' → ChainEffect w w'
  | rotated {msg : Msg} {provider : Address} {commitment : Bytes32}
      {commitmentMetadata uri : Bytes} {chainLength : ℕ} :
      RegisterChecks w msg provider chainLength →
      ChainEffect w (w.rotated provider commitment commitmentMetadata chainLength uri)
  | requested {msg : Msg} {provider : Address} {u : Bytes32} {gasLimit gasLimit10k : ℕ} :
      RequestChecks w msg provider gasLimit gasLimit10k →
      ChainEffect w (w.requested K msg provider u gasLimit10k)
  | advanced {provider : Address} {n : ℕ} {v : Bytes32} : AdvanceChecks K w provider n v →
      ChainEffect w (w.advanced provider n v)
  | configured {provider : Address} {info : ProviderInfo Bytes32} {event : Event Bytes32} :
      (w.state.providers provider).sequenceNumber ≠ 0 →
      info.SameChain (w.state.providers provider) → (Entry.emitted event).plain = true →
      ChainEffect w ((w.setState (w.state.setProvider provider info)).emit event)

section Effects

variable {K} {m : Message Bytes32} {w w' : World Bytes32} {pending : Pending Bytes32}
variable {result : CallResult}

/-- The entries that a half adds are plain. -/
theorem plain_nil : ∃ new : List (Entry Bytes32), w.history = new ++ w.history ∧
    ∀ entry ∈ new, entry.plain = true :=
  ⟨[], rfl, fun _ member => by cases member⟩

theorem plain_one {first : Entry Bytes32} (plain : first.plain = true) :
    ∃ new : List (Entry Bytes32), first :: w.history = new ++ w.history ∧
      ∀ entry ∈ new, entry.plain = true :=
  ⟨[first], rfl, by simpa using plain⟩

theorem plain_two {first second : Entry Bytes32} (plain : first.plain = true)
    (plain' : second.plain = true) :
    ∃ new : List (Entry Bytes32), first :: second :: w.history = new ++ w.history ∧
      ∀ entry ∈ new, entry.plain = true :=
  ⟨[first, second], rfl, by simpa using ⟨plain, plain'⟩⟩

theorem Quiet.of_same (same : w'.state.table = w.state.table)
    (providers : w'.state.providers = w.state.providers)
    (history : ∃ new : List (Entry Bytes32), w'.history = new ++ w.history ∧
      ∀ entry ∈ new, entry.plain = true) : Quiet K w w' where
  narrows := .of_same same
  providers := providers
  history := history

theorem Quiet.of_removed (wf : (requestScheme K).WellFormed w.state.table) {gone : RequestKey}
    (removed : w'.state.table = (requestScheme K).remove w.state.table gone)
    (providers : w'.state.providers = w.state.providers)
    (history : ∃ new : List (Entry Bytes32), w'.history = new ++ w.history ∧
      ∀ entry ∈ new, entry.plain = true) : Quiet K w w' where
  narrows := .of_removed wf removed
  providers := providers
  history := history

theorem Quiet.of_status (wf : (requestScheme K).WellFormed w.state.table)
    {ref : RequestRef Bytes32} {status : CallbackStatus}
    (written : w'.state.table = (w.state.setCallbackStatus ref status).table)
    (providers : w'.state.providers = w.state.providers)
    (history : ∃ new : List (Entry Bytes32), w'.history = new ++ w.history ∧
      ∀ entry ∈ new, entry.plain = true) : Quiet K w w' where
  narrows := .of_status wf written
  providers := providers
  history := history

theorem Quiet.trans {w'' : World Bytes32} (first : Quiet K w w') (second : Quiet K w' w'') :
    Quiet K w w'' where
  narrows := first.narrows.trans second.narrows
  providers := second.providers.trans first.providers
  history := by
    obtain ⟨new, same, plain⟩ := first.history
    obtain ⟨new', same', plain'⟩ := second.history
    refine ⟨new' ++ new, by rw [same', same, List.append_assoc], fun entry member => ?_⟩
    rcases List.mem_append.mp member with member | member
    · exact plain' entry member
    · exact plain entry member

theorem Configures.plain {p q : ProviderInfo Bytes32} {event : Event Bytes32}
    (configures : Configures m p q event) : (Entry.emitted event).plain = true := by
  cases configures <;> rfl

theorem Finishes.chainEffect (sound : Sound K w) (finishes : Finishes K m w w') :
    ChainEffect K w w' := by
  cases finishes with
  | registered _ checks => exact .rotated checks
  | requested _ checks => exact .requested checks
  | revealed _ checks status _ => exact absurd status (sound.withCallback checks.found)
  | @noCallback provider n _ _ _ v _ _ checks _ _ _ =>
    have sound' := (accepted_evolves sound provider n v).1
    exact .accepted checks (.of_removed sound'.wf rfl rfl (plain_one rfl))
  | refundedNothing _ _ _ => exact .quiet (.of_removed sound.wf rfl rfl (plain_one rfl))
  | advanced _ checks => exact .advanced checks
  | configured registered configures =>
    exact .configured registered configures.sameChain configures.plain
  | administered administers =>
    exact .quiet (.of_same administers.table administers.providers plain_nil)
  | forced _ => exact .quiet (.of_same rfl rfl (plain_one rfl))

theorem Calls.chainEffect (sound : Sound K w) (calls : Calls K m w w' pending) :
    ChainEffect K w w' := by
  cases calls with
  | @limited provider n _ _ _ _ v _ _ checks _ _ =>
    have sound' := (accepted_evolves sound provider n v).1
    exact .accepted checks (.of_status sound'.wf rfl rfl (plain_one rfl))
  | @unlimited provider n _ _ _ _ v _ _ checks _ _ =>
    have sound' := (accepted_evolves sound provider n v).1
    exact .accepted checks (.of_removed sound'.wf rfl rfl (plain_one rfl))
  | refund _ _ _ _ _ => exact .quiet (.of_removed sound.wf rfl rfl (plain_one rfl))
  | withdrawal _ _ _ _ => exact .quiet (.of_same rfl rfl (plain_one rfl))
  | foreign _ => exact .quiet (.of_same rfl rfl plain_nil)

theorem Resumes.quiet (sound : Sound K w) (resumes : Resumes K result w pending w') :
    Quiet K w w' := by
  cases resumes with
  | @limitedDelivered ref provider n _ _ _ _ _ _ _ =>
    have sound' : Sound K (w.withStatus ref .notStarted) := sound.withStatus ref (by decide)
    have written : Quiet K w (w.withStatus ref .notStarted) :=
      .of_status sound.wf rfl rfl plain_nil
    exact written.trans (.of_removed sound'.wf rfl rfl (plain_two rfl rfl))
  | limitedFailed _ _ _ _ => exact .of_status sound.wf rfl rfl (plain_one rfl)
  | unlimitedDelivered _ _ _ => exact .of_same rfl rfl (plain_two rfl rfl)
  | unlimitedFailed _ _ _ => exact .of_same rfl rfl (plain_one rfl)
  | refund _ => exact .of_same rfl rfl (plain_one rfl)
  | withdrawal _ => exact .of_same rfl rfl plain_nil
  | foreign _ => exact .of_same rfl rfl plain_nil

/-- **Invariants about chains**: it is enough that every effect keeps them. -/
theorem rely_of_chainEffect {guard : Message Bytes32 → World Bytes32 → Prop}
    {J : World Bytes32 → Prop}
    (effect : ∀ {w w'}, Sound K w → J w → ChainEffect K w w' → J w')
    (idle : ∀ {t w}, J w → J (mine t w)) :
    CallStack.Rely (dice K) guard (Sound K) (Evolves K) J fun _ _ => True :=
  rely_of_invariant (fun sound holds _ finishes => effect sound holds (finishes.chainEffect sound))
    (fun sound holds _ calls => effect sound holds (calls.chainEffect sound))
    (fun sound holds resumes => effect sound holds (.quiet (resumes.quiet sound))) idle

end Effects

/-! ### The invariant -/

/-- **A provider's record**: the current commitment is the chain value at its index, and the
sequence numbers are in order. -/
structure ProviderInfo.Ordered (p : ProviderInfo Bytes32) : Prop where
  original_le : p.originalCommitmentSequenceNumber ≤ p.currentCommitmentSequenceNumber
  current_lt : p.currentCommitmentSequenceNumber < p.sequenceNumber
  sequence_le : p.sequenceNumber ≤ p.endSequenceNumber
  linked : IsLink (chainHash K) p.originalCommitment
    (p.currentCommitmentSequenceNumber - p.originalCommitmentSequenceNumber) p.currentCommitment

/-- A request of the current registration commits to the chain value at the index
`sequenceNumber - numHashes`. -/
def Request.Committed (p : ProviderInfo Bytes32) (sequenceNumber : ℕ) (req : Request Bytes32) :
    Prop :=
  p.originalCommitmentSequenceNumber ≤ sequenceNumber → ∃ userCommitment value index,
    req.commitment = K.keccak256 [userCommitment, value] ∧
      IsLink (chainHash K) p.originalCommitment index value ∧
      p.originalCommitmentSequenceNumber + index + req.numHashes = sequenceNumber

/-- **The invariant of the chains.** -/
structure ChainSound (w : World Bytes32) : Prop where
  ordered : ∀ provider, (w.state.providers provider).sequenceNumber ≠ 0 →
    (w.state.providers provider).Ordered K
  unregistered : ∀ provider, (w.state.providers provider).sequenceNumber = 0 →
    (w.state.providers provider).endSequenceNumber = 0
  committed : ∀ {provider n req}, w.state.lookup K (provider, n) = some req →
    req.Committed K (w.state.providers provider) n

section Invariant

variable {K} {w w' : World Bytes32} {provider : Address}

/-- The status of a request is not part of what it commits to. -/
theorem Request.Committed.same {p : ProviderInfo Bytes32} {n : ℕ} {req req' : Request Bytes32}
    (committed : req.Committed K p n) (same : req.Same req') : req'.Committed K p n := by
  unfold Request.Same at same
  intro current
  obtain ⟨userCommitment, value, index, opens, linked, place⟩ := committed current
  rw [same]
  exact ⟨userCommitment, value, index, opens, linked, place⟩

/-- Neither is anything about the provider but its registration. -/
theorem Request.Committed.registration {p q : ProviderInfo Bytes32} {n : ℕ}
    {req : Request Bytes32} (committed : req.Committed K p n)
    (original : q.originalCommitment = p.originalCommitment)
    (number : q.originalCommitmentSequenceNumber = p.originalCommitmentSequenceNumber) :
    req.Committed K q n := by
  unfold Request.Committed at committed ⊢
  rw [original, number]
  exact committed

theorem ProviderInfo.Ordered.sameChain {p q : ProviderInfo Bytes32} (ordered : p.Ordered K)
    (same : q.SameChain p) : q.Ordered K := by
  refine ⟨?_, ?_, ?_, ?_⟩
  · rw [same.originalSequenceNumber, same.currentSequenceNumber]
    exact ordered.original_le
  · rw [same.currentSequenceNumber, same.sequenceNumber]
    exact ordered.current_lt
  · rw [same.sequenceNumber, same.endSequenceNumber]
    exact ordered.sequence_le
  · rw [same.original, same.currentSequenceNumber, same.originalSequenceNumber, same.current]
    exact ordered.linked

theorem ChainSound.quiet (holds : ChainSound K w) (quiet : Quiet K w w') : ChainSound K w' where
  ordered provider := by
    rw [quiet.providers]
    exact holds.ordered provider
  unregistered provider := by
    rw [quiet.providers]
    exact holds.unregistered provider
  committed := by
    intro provider n req' found
    obtain ⟨req, found, same⟩ := quiet.narrows found
    rw [quiet.providers]
    exact (holds.committed found).same same

/-- One provider's record is rewritten. -/
theorem ChainSound.setProvider (holds : ChainSound K w) {info : ProviderInfo Bytes32}
    (table : w'.state.table = w.state.table)
    (providers : w'.state.providers = (w.state.setProvider provider info).providers)
    (ordered : info.Ordered K)
    (committed : ∀ {n req}, w.state.lookup K (provider, n) = some req → req.Committed K info n) :
    ChainSound K w' where
  ordered other := by
    rw [providers, State.setProvider_providers]
    split
    · exact fun _ => ordered
    · exact holds.ordered other
  unregistered other := by
    rw [providers, State.setProvider_providers]
    split
    · intro zero
      have positive := ordered.current_lt
      omega
    · exact holds.unregistered other
  committed := by
    intro other n req found
    rw [State.lookup_congr table] at found
    rw [providers, State.setProvider_providers]
    split
    · next same => exact committed (same ▸ found)
    · exact holds.committed found

/-- **An accepted reveal shows the chain value of its request.** -/
theorem revealed_linked (injective : Function.Injective K.keccak256) (holds : ChainSound K w)
    {n : ℕ} {u v : Bytes32} {req : Request Bytes32}
    (checks : RevealChecks K w provider n u v req)
    (current : (w.state.providers provider).originalCommitmentSequenceNumber ≤ n) :
    IsLink (chainHash K) (w.state.providers provider).originalCommitment
      (n - (w.state.providers provider).originalCommitmentSequenceNumber) v := by
  obtain ⟨userCommitment, value, index, opens, linked, place⟩ :=
    holds.committed checks.found current
  have same := injective (checks.opens.trans opens)
  simp only [List.cons.injEq, and_true] at same
  have index_eq : n - (w.state.providers provider).originalCommitmentSequenceNumber =
      index + req.numHashes := by omega
  rw [index_eq]
  exact linked.append same.2

theorem ChainSound.accepted (injective : Function.Injective K.keccak256) (sound : Sound K w)
    (holds : ChainSound K w) {n : ℕ} {u v : Bytes32} {req : Request Bytes32}
    (checks : RevealChecks K w provider n u v req) :
    ChainSound K (w.accepted provider n v) := by
  have used : n < (w.state.providers provider).sequenceNumber := sound.used checks.found
  have ordered := holds.ordered provider (by omega)
  have before := ordered.original_le
  refine holds.setProvider rfl rfl ?_ fun found => ?_
  · unfold ProviderInfo.revealedAt
    split
    · next later =>
      have reached := Nat.le_of_lt (Nat.lt_of_le_of_lt before later)
      exact ⟨reached, used, ordered.sequence_le, revealed_linked injective holds checks reached⟩
    · exact ordered
  · exact (holds.committed found).registration (ProviderInfo.revealedAt_original _ n v)
      (ProviderInfo.revealedAt_originalNumber _ n v)

/-- Only a registered provider can be advanced. -/
theorem advanced_registered (holds : ChainSound K w) {n : ℕ} {v : Bytes32}
    (checks : AdvanceChecks K w provider n v) :
    (w.state.providers provider).sequenceNumber ≠ 0 := by
  intro zero
  have inside := checks.inside
  rw [holds.unregistered provider zero] at inside
  exact absurd inside (Nat.not_lt_zero n)

/-- **An accepted advancement shows a value of the current chain.** -/
theorem advanced_linked (holds : ChainSound K w) {n : ℕ} {v : Bytes32}
    (checks : AdvanceChecks K w provider n v) :
    (w.state.providers provider).originalCommitmentSequenceNumber ≤ n ∧
      IsLink (chainHash K) (w.state.providers provider).originalCommitment
        (n - (w.state.providers provider).originalCommitmentSequenceNumber) v := by
  have ordered := holds.ordered provider (advanced_registered holds checks)
  have before := ordered.original_le
  have newer := checks.newer
  have index_eq : n - (w.state.providers provider).originalCommitmentSequenceNumber =
      (w.state.providers provider).currentCommitmentSequenceNumber -
        (w.state.providers provider).originalCommitmentSequenceNumber +
      (n - (w.state.providers provider).currentCommitmentSequenceNumber) := by omega
  rw [index_eq]
  exact ⟨by omega, ordered.linked.append checks.opens⟩

theorem ChainSound.advanced (holds : ChainSound K w) {n : ℕ} {v : Bytes32}
    (checks : AdvanceChecks K w provider n v) : ChainSound K (w.advanced provider n v) := by
  have ordered := holds.ordered provider (advanced_registered holds checks)
  obtain ⟨reached, linked⟩ := advanced_linked holds checks
  exact holds.setProvider rfl rfl ⟨reached, Nat.le_max_right _ _,
    Nat.max_le.mpr ⟨ordered.sequence_le, checks.inside⟩, linked⟩ fun found =>
      (holds.committed found).registration rfl rfl

theorem ChainSound.rotated (sound : Sound K w) (holds : ChainSound K w) {msg : Msg}
    {commitment : Bytes32} {commitmentMetadata uri : Bytes} {chainLength : ℕ}
    (checks : RegisterChecks w msg provider chainLength) :
    ChainSound K (w.rotated provider commitment commitmentMetadata chainLength uri) := by
  have nonempty := checks.nonempty
  refine holds.setProvider rfl rfl ⟨Nat.le_refl _, Nat.lt_succ_self _, ?_, ?_⟩ ?_
  · exact Nat.add_le_add_left (Nat.one_le_iff_ne_zero.mpr nonempty) _
  · show IsLink _ commitment ((w.state.providers provider).sequenceNumber -
      (w.state.providers provider).sequenceNumber) commitment
    rw [Nat.sub_self]
    exact .root _ _
  · intro n req found current
    -- what was requested before has a smaller number than the new registration
    have old : n < (w.state.providers provider).sequenceNumber := sound.used found
    exact absurd old (Nat.not_lt.mpr current)

/-- A new request commits to the current commitment. -/
theorem madeRequest_committed (ordered : (w.state.providers provider).Ordered K) (msg : Msg)
    (u : Bytes32) (gasLimit10k : ℕ) :
    (madeRequest K w msg provider u gasLimit10k).Committed K (w.state.providers provider)
      (w.state.providers provider).sequenceNumber := by
  have before := ordered.original_le
  have after := ordered.current_lt
  intro _
  refine ⟨constructUserCommitment K u, (w.state.providers provider).currentCommitment,
    (w.state.providers provider).currentCommitmentSequenceNumber -
      (w.state.providers provider).originalCommitmentSequenceNumber, rfl, ordered.linked, ?_⟩
  show _ + _ + ((w.state.providers provider).sequenceNumber -
    (w.state.providers provider).currentCommitmentSequenceNumber) = _
  omega

theorem ChainSound.requested (sound : Sound K w) (holds : ChainSound K w) {msg : Msg} {u : Bytes32}
    {gasLimit gasLimit10k : ℕ} (checks : RequestChecks w msg provider gasLimit gasLimit10k) :
    ChainSound K (w.requested K msg provider u gasLimit10k) := by
  have ordered := holds.ordered provider checks.registered
  have counted : ChainSound K
      (w.setState (w.state.setProvider provider (w.state.providers provider).counted)) :=
    holds.setProvider rfl rfl ⟨ordered.original_le, Nat.lt_succ_of_lt ordered.current_lt,
      checks.left, ordered.linked⟩ fun found => (holds.committed found).registration rfl rfl
  refine ⟨counted.ordered, counted.unregistered, fun {other n req} found => ?_⟩
  have key := madeRequest_key (K := K) msg u gasLimit10k checks.registered
  rcases found_of_stored sound (w.requested_fresh provider) key rfl found with
    ⟨same, rfl⟩ | ⟨_, found⟩
  · cases same
    show Request.Committed K ((w.state.setProvider provider _).providers provider) _ _
    rw [State.setProvider_providers, if_pos rfl]
    exact (madeRequest_committed ordered msg u gasLimit10k).registration rfl rfl
  · exact counted.committed found

theorem ChainSound.effect (injective : Function.Injective K.keccak256) (sound : Sound K w)
    (holds : ChainSound K w) (effect : ChainEffect K w w') : ChainSound K w' := by
  cases effect with
  | quiet quiet => exact holds.quiet quiet
  | accepted checks quiet => exact (holds.accepted injective sound checks).quiet quiet
  | rotated checks => exact holds.rotated sound checks
  | requested checks => exact holds.requested sound checks
  | advanced checks => exact holds.advanced checks
  | configured registered chain _ =>
    exact holds.setProvider rfl rfl ((holds.ordered _ registered).sameChain chain) fun found =>
      (holds.committed found).registration chain.original chain.originalSequenceNumber

theorem chain_rely (injective : Function.Injective K.keccak256)
    (guard : Message Bytes32 → World Bytes32 → Prop) :
    CallStack.Rely (dice K) guard (Sound K) (Evolves K) (ChainSound K) fun _ _ => True :=
  rely_of_chainEffect (fun sound holds effect => holds.effect injective sound effect)
    fun holds => holds.quiet (.of_same rfl rfl plain_nil)

/-- The deployed provider's chain. -/
theorem constructor_chain {d : Deployment Bytes32} {w : World Bytes32}
    (deployed : constructor K d = .ok w) : ChainSound K w := by
  have empty : ChainSound K (d.world K) :=
    ⟨fun _ registered => absurd rfl registered, fun _ _ => rfl, fun {provider n req} found => by
      have none := (d.lookup_none (provider, n)).symm.trans found
      cases none⟩
  rcases (constructor_ok deployed).2 with ⟨_, rfl⟩ | ⟨registered, rfl⟩
  · exact empty
  · refine empty.setProvider rfl rfl ⟨Nat.le_refl _, Nat.one_pos, registered, .root _ _⟩
      fun {n req} found => ?_
    have none := (d.lookup_none (d.defaultProvider, n)).symm.trans found
    cases none

theorem Reachable.chainSound (injective : Function.Injective K.keccak256) {c : Config Bytes32}
    (reach : Reachable K anyCall c) : ChainSound K c.world :=
  (reach.holds (chain_rely injective anyCall) constructor_chain).1.2

/-- **The chain of every provider, in every run**: with whatever nesting of calls, the sequence
numbers are in order, and the loop of `constructProviderCommitment` leads from the current
commitment back to the registered one in as many steps as the numbers say. -/
theorem provider_chain (injective : Function.Injective K.keccak256) {c : Config Bytes32}
    (reach : Reachable K anyCall c) (provider : Address) :
    let p := c.world.state.providers provider
    p.sequenceNumber ≠ 0 →
      p.originalCommitmentSequenceNumber ≤ p.currentCommitmentSequenceNumber ∧
      p.currentCommitmentSequenceNumber < p.sequenceNumber ∧
      p.sequenceNumber ≤ p.endSequenceNumber ∧
      constructProviderCommitment K
        (p.currentCommitmentSequenceNumber - p.originalCommitmentSequenceNumber)
        p.currentCommitment = p.originalCommitment := by
  intro p registered
  have ordered := (reach.chainSound injective).ordered provider registered
  refine ⟨ordered.original_le, ordered.current_lt, ordered.sequence_le, ?_⟩
  rw [constructProviderCommitment_eq]
  exact ordered.linked

end Invariant

/-- Two requests, a reveal of the second, a rotation, and then a reveal of the first. -/
def Sample.lateReveal : List (Action Sym) :=
  [request 1, request 2, reveal 2, succeed,
    fromAdmin (.registerFor provider 0 (.atom 5) [] 4 []), reveal 1, succeed]

theorem provider_chain_lateReveal :
    let p := (Sample.after Sample.lateReveal).world.state.providers Sample.provider
    p.sequenceNumber ≠ 0 ∧
      p.originalCommitmentSequenceNumber ≤ p.currentCommitmentSequenceNumber ∧
      p.currentCommitmentSequenceNumber < p.sequenceNumber ∧
      p.sequenceNumber ≤ p.endSequenceNumber ∧
      constructProviderCommitment symbolic
        (p.currentCommitmentSequenceNumber - p.originalCommitmentSequenceNumber)
        p.currentCommitment = p.originalCommitment :=
  ⟨by decide +kernel, provider_chain symbolic_injective (Sample.reachable Sample.lateReveal)
    Sample.provider (by decide +kernel)⟩

end Dice
