/-
**New requests are answered by fresh chain values.**

* `currentRegistration` — the part of the history since a provider's last registration.
* `Discloses` — the chain values that were put on chain under it, each with its index: the
  registered commitment, advancements, and reveals of requests that were made under it.
* `Fresh` — the invariant: every one of them is the value of the current chain at its index, and
  the index is below the provider's next sequence number.
* `request_fresh` — when a request gets the number `n`, nothing at index `n` or above is disclosed,
  and its answer is not an iterated hash of anything disclosed.
-/

import Dice.Contract.Chains

set_option linter.unusedSectionVars false

namespace Dice

open HashChain (IsLink Acyclic)

variable {Bytes32 : Type}

/-! ### What a registration has disclosed -/

def Entry.registers (provider : Address) : Entry Bytes32 → Bool
  | .registered other _ _ => other = provider
  | _ => false

/-- The history since a provider's last registration, that one included. -/
def currentRegistration (provider : Address) : List (Entry Bytes32) → List (Entry Bytes32)
  | [] => []
  | entry :: older =>
      entry :: (if entry.registers provider then [] else currentRegistration provider older)

/-- **The disclosed values of the current registration.** -/
def Discloses (provider : Address) (history : List (Entry Bytes32)) (index : ℕ)
    (value : Bytes32) : Prop :=
  .registered provider index value ∈ currentRegistration provider history ∨
    .advanced provider index value ∈ currentRegistration provider history ∨
    .revealed provider index value ∈ currentRegistration provider history ∧
      ∃ caller u gasLimit, .emitted (.requested provider caller index u gasLimit) ∈
        currentRegistration provider history

/-- What an entry since the registration of `p` says about the chain. -/
def Entry.Fits (K : Keccak Bytes32) (provider : Address) (p : ProviderInfo Bytes32) :
    Entry Bytes32 → Prop
  | .registered other index value => other = provider →
      index = p.originalCommitmentSequenceNumber ∧ value = p.originalCommitment
  | .advanced other index value => other = provider →
      p.originalCommitmentSequenceNumber ≤ index ∧ index < p.sequenceNumber ∧
        IsLink (chainHash K) p.originalCommitment
          (index - p.originalCommitmentSequenceNumber) value
  | .revealed other index value => other = provider →
      p.originalCommitmentSequenceNumber ≤ index → index < p.sequenceNumber ∧
        IsLink (chainHash K) p.originalCommitment
          (index - p.originalCommitmentSequenceNumber) value
  | .emitted (.requested other _ index _ _) => other = provider →
      p.originalCommitmentSequenceNumber ≤ index
  | _ => True

variable (K : Keccak Bytes32) [DecidableEq Bytes32]

/-- **The invariant of disclosed values.** -/
def Fresh (w : World Bytes32) : Prop :=
  ∀ provider, ∀ entry ∈ currentRegistration provider w.history,
    entry.Fits K provider (w.state.providers provider)

section Invariant

variable {K} {w w' : World Bytes32} {provider : Address}

/-- A registered provider that only counts on keeps its entries. -/
theorem Entry.Fits.grow {p q : ProviderInfo Bytes32} {entry : Entry Bytes32}
    (fits : entry.Fits K provider p) (original : q.originalCommitment = p.originalCommitment)
    (number : q.originalCommitmentSequenceNumber = p.originalCommitmentSequenceNumber)
    (counter : p.sequenceNumber ≤ q.sequenceNumber) : entry.Fits K provider q := by
  cases entry with
  | registered other index value =>
    intro same
    rw [original, number]
    exact fits same
  | advanced other index value =>
    intro same
    obtain ⟨lower, upper, linked⟩ := fits same
    rw [original, number]
    exact ⟨lower, Nat.lt_of_lt_of_le upper counter, linked⟩
  | revealed other index value =>
    intro same
    rw [original, number]
    intro current
    obtain ⟨upper, linked⟩ := fits same current
    exact ⟨Nat.lt_of_lt_of_le upper counter, linked⟩
  | emitted event =>
    cases event with
    | requested other caller index u gasLimit =>
      intro same
      rw [number]
      exact fits same
    | _ => trivial
  | _ => trivial

theorem Entry.Fits.of_plain {p : ProviderInfo Bytes32} {entry : Entry Bytes32}
    (plain : entry.plain = true) : entry.Fits K provider p := by
  cases entry with
  | registered _ _ _ => cases plain
  | advanced _ _ _ => cases plain
  | revealed _ _ _ => cases plain
  | emitted event =>
    cases event with
    | requested _ _ _ _ _ => cases plain
    | _ => trivial
  | _ => trivial

/-- An entry on top of a history that fits. -/
theorem fits_cons {p : ProviderInfo Bytes32} {first : Entry Bytes32}
    {older : List (Entry Bytes32)} (fits : first.Fits K provider p)
    (rest : first.registers provider = false →
      ∀ entry ∈ currentRegistration provider older, entry.Fits K provider p) :
    ∀ entry ∈ currentRegistration provider (first :: older), entry.Fits K provider p := by
  intro entry member
  unfold currentRegistration at member
  rcases List.mem_cons.mp member with rfl | member
  · exact fits
  · cases registers : first.registers provider with
    | true =>
      rw [registers] at member
      cases member
    | false =>
      rw [registers] at member
      exact rest registers entry member

/-- Plain entries on top of a history that fits. -/
theorem fits_plain {p : ProviderInfo Bytes32} {new older : List (Entry Bytes32)}
    (plain : ∀ entry ∈ new, entry.plain = true)
    (rest : ∀ entry ∈ currentRegistration provider older, entry.Fits K provider p) :
    ∀ entry ∈ currentRegistration provider (new ++ older), entry.Fits K provider p := by
  induction new with
  | nil => exact rest
  | cons first new ih =>
    exact fits_cons (.of_plain (plain first List.mem_cons_self)) fun _ =>
      ih fun entry member => plain entry (List.mem_cons_of_mem _ member)

theorem Fresh.quiet (fresh : Fresh K w) (quiet : Quiet K w w') : Fresh K w' := by
  obtain ⟨new, same, plain⟩ := quiet.history
  intro provider
  rw [same, quiet.providers]
  exact fits_plain plain (fresh provider)

/-- One provider's record is rewritten, its registration stays, and some entries are added. -/
theorem Fresh.setProvider (fresh : Fresh K w) {info : ProviderInfo Bytes32}
    (providers : w'.state.providers = (w.state.setProvider provider info).providers)
    (original : info.originalCommitment = (w.state.providers provider).originalCommitment)
    (number : info.originalCommitmentSequenceNumber =
      (w.state.providers provider).originalCommitmentSequenceNumber)
    (counter : (w.state.providers provider).sequenceNumber ≤ info.sequenceNumber)
    (history : ∀ other p, (∀ entry ∈ currentRegistration other w.history, entry.Fits K other p) →
      (other = provider → p = info) →
      ∀ entry ∈ currentRegistration other w'.history, entry.Fits K other p) : Fresh K w' := by
  intro other
  refine history other _ (fun entry member => ?_) fun same => ?_
  · have before := fresh other entry member
    rw [providers, State.setProvider_providers]
    split
    · next same =>
      subst same
      exact before.grow original number counter
    · exact before
  · rw [providers, State.setProvider_providers, if_pos same]

theorem Fresh.accepted (injective : Function.Injective K.keccak256) (sound : Sound K w)
    (holds : ChainSound K w) (fresh : Fresh K w) {n : ℕ} {u v : Bytes32} {req : Request Bytes32}
    (checks : RevealChecks K w provider n u v req) : Fresh K (w.accepted provider n v) := by
  have used : n < (w.state.providers provider).sequenceNumber := sound.used checks.found
  have counter := ProviderInfo.revealedAt_sequenceNumber (w.state.providers provider) n v
  have original := ProviderInfo.revealedAt_original (w.state.providers provider) n v
  have number := ProviderInfo.revealedAt_originalNumber (w.state.providers provider) n v
  refine fresh.setProvider rfl original number (Nat.le_of_eq counter.symm)
    fun other p rest same => fits_cons ?_ fun _ => rest
  intro here current
  rw [same here.symm, counter, original, number] at *
  exact ⟨used, revealed_linked injective holds checks current⟩

theorem Fresh.advanced (holds : ChainSound K w) (fresh : Fresh K w) {n : ℕ} {v : Bytes32}
    (checks : AdvanceChecks K w provider n v) : Fresh K (w.advanced provider n v) := by
  refine fresh.setProvider rfl rfl rfl (Nat.le_max_left _ _)
    fun other p rest same => fits_cons ?_ fun _ => rest
  intro here
  obtain ⟨reached, linked⟩ := advanced_linked holds checks
  rw [same here.symm]
  exact ⟨reached, Nat.le_max_right _ _, linked⟩

theorem Fresh.requested (holds : ChainSound K w) (fresh : Fresh K w) {msg : Msg} {u : Bytes32}
    {gasLimit gasLimit10k : ℕ} (checks : RequestChecks w msg provider gasLimit gasLimit10k) :
    Fresh K (w.requested K msg provider u gasLimit10k) := by
  have ordered := holds.ordered provider checks.registered
  refine fresh.setProvider rfl rfl rfl (Nat.le_succ _)
    fun other p rest same => fits_cons ?_ fun _ => fits_cons trivial fun _ => rest
  intro here
  rw [same here.symm]
  exact Nat.le_trans ordered.original_le (Nat.le_of_lt ordered.current_lt)

/-- A registration starts over. -/
theorem Fresh.rotated (fresh : Fresh K w) (commitment : Bytes32) (commitmentMetadata : Bytes)
    (chainLength : ℕ) (uri : Bytes) :
    Fresh K (w.rotated provider commitment commitmentMetadata chainLength uri) := by
  intro other
  show ∀ entry ∈ currentRegistration other (_ :: _ :: w.history),
    entry.Fits K other ((w.state.setProvider provider _).providers other)
  rw [State.setProvider_providers]
  refine fits_cons trivial fun _ => fits_cons ?_ fun registers => ?_
  · intro same
    rw [if_pos same.symm]
    exact ⟨rfl, rfl⟩
  · have different : provider ≠ other := by simpa [Entry.registers] using registers
    rw [if_neg different.symm]
    exact fresh other

theorem Fresh.effect (injective : Function.Injective K.keccak256) (sound : Sound K w)
    (holds : ChainSound K w) (fresh : Fresh K w) (effect : ChainEffect K w w') : Fresh K w' := by
  cases effect with
  | quiet quiet => exact fresh.quiet quiet
  | accepted checks quiet => exact (fresh.accepted injective sound holds checks).quiet quiet
  | rotated checks => exact fresh.rotated _ _ _ _
  | requested checks => exact fresh.requested holds checks
  | advanced checks => exact fresh.advanced holds checks
  | configured _ chain plain =>
    refine fresh.setProvider rfl chain.original chain.originalSequenceNumber
      (Nat.le_of_eq chain.sequenceNumber.symm) fun other p rest _ => fits_cons ?_ fun _ => rest
    exact .of_plain plain

theorem fresh_rely (injective : Function.Injective K.keccak256)
    (guard : Message Bytes32 → World Bytes32 → Prop) :
    CallStack.Rely (dice K) guard (Sound K) (Evolves K) (fun w => ChainSound K w ∧ Fresh K w)
      fun _ _ => True :=
  rely_of_chainEffect
    (fun sound holds effect => ⟨holds.1.effect injective sound effect,
      holds.2.effect injective sound holds.1 effect⟩)
    fun holds => ⟨holds.1.quiet (.of_same rfl rfl plain_nil),
      holds.2.quiet (.of_same rfl rfl plain_nil)⟩

theorem constructor_fresh {d : Deployment Bytes32} {w : World Bytes32}
    (deployed : constructor K d = .ok w) : Fresh K w := by
  have empty : Fresh K (d.world K) := fun _ => fits_cons trivial fun _ _ member => by cases member
  rcases (constructor_ok deployed).2 with ⟨_, rfl⟩ | ⟨_, rfl⟩
  · exact empty
  · intro other
    show ∀ entry ∈ currentRegistration other (_ :: _ :: (d.world K).history),
      entry.Fits K other (((d.state K).setProvider d.defaultProvider _).providers other)
    rw [State.setProvider_providers]
    refine fits_cons trivial fun _ => fits_cons ?_ fun _ => fits_cons trivial
      fun _ _ member => by cases member
    intro same
    rw [if_pos same.symm]
    exact ⟨rfl, rfl⟩

/-! ### What is disclosed when a request is made -/

/-- Every disclosed value is on the current chain, below the next sequence number. -/
theorem Fresh.disclosed (fresh : Fresh K w) (ordered : (w.state.providers provider).Ordered K)
    {index : ℕ} {value : Bytes32} (discloses : Discloses provider w.history index value) :
    (w.state.providers provider).originalCommitmentSequenceNumber ≤ index ∧
      index < (w.state.providers provider).sequenceNumber ∧
      IsLink (chainHash K) (w.state.providers provider).originalCommitment
        (index - (w.state.providers provider).originalCommitmentSequenceNumber) value := by
  rcases discloses with registered | advanced | ⟨revealed, caller, u, gasLimit, made⟩
  · obtain ⟨rfl, rfl⟩ := fresh provider _ registered rfl
    rw [Nat.sub_self]
    exact ⟨Nat.le_refl _, Nat.lt_of_le_of_lt ordered.original_le ordered.current_lt, .root _ _⟩
  · exact fresh provider _ advanced rfl
  · have current := fresh provider _ made rfl
    obtain ⟨upper, linked⟩ := fresh provider _ revealed rfl current
    exact ⟨current, upper, linked⟩

/-- **Fresh answers.** When `requestV2` assigns the number `n`, in any reachable state: the stored
request is at least one hash away from the current commitment, and for every value disclosed under
the registration, its index is below `n`, it is not a value of the chain at `n` or above, and no
number of hashes leads from it to a contribution that would open the request. -/
theorem request_fresh (injective : Function.Injective K.keccak256)
    (acyclic : Acyclic (chainHash K)) {c : Config Bytes32} (reach : Reachable K anyCall c)
    {msg : Msg} {u : Bytes32} {gasLimit n : ℕ} {w' : World Bytes32}
    (made : requestV2 K c.world msg provider u gasLimit = .ok (w', n)) :
    let p := c.world.state.providers provider
    ∃ req, w'.state.lookup K (provider, n) = some req ∧ 1 ≤ req.numHashes ∧
      ∀ index value, Discloses provider c.world.history index value →
        index < n ∧
        (∀ later answer, n ≤ later →
          constructProviderCommitment K (later - p.originalCommitmentSequenceNumber) answer =
            p.originalCommitment → value ≠ answer) ∧
        ∀ userContribution answer,
          K.keccak256 [constructUserCommitment K userContribution,
            constructProviderCommitment K req.numHashes answer] = req.commitment →
          ∀ steps, constructProviderCommitment K steps value ≠ answer := by
  intro p
  obtain ⟨⟨sound, holds, fresh⟩, _⟩ := reach.holds (fresh_rely injective anyCall)
    fun deployed => ⟨constructor_chain deployed, constructor_fresh deployed⟩
  obtain ⟨gasLimit10k, checks, rfl, rfl⟩ := requestV2_ok made
  have ordered := holds.ordered provider checks.registered
  have behind := ordered.current_lt
  refine ⟨madeRequest K c.world msg provider u gasLimit10k, ?_, Nat.sub_pos_of_lt behind, ?_⟩
  · rw [lookup_requested sound msg u gasLimit10k checks.registered, Function.update_self]
  intro index value discloses
  obtain ⟨lower, upper, linked⟩ := fresh.disclosed ordered discloses
  simp only [constructProviderCommitment_eq]
  refine ⟨upper, fun later answer reaches chain => ?_, fun userContribution answer opens => ?_⟩
  · have place : index - (c.world.state.providers provider).originalCommitmentSequenceNumber <
        later - (c.world.state.providers provider).originalCommitmentSequenceNumber := by omega
    exact linked.iterate_ne acyclic chain place 0
  · -- the answer is the value of the chain at index `n`
    have same := injective opens
    simp only [List.cons.injEq, and_true] at same
    have answered := ordered.linked.append same.2
    have before := ordered.original_le
    refine linked.iterate_ne acyclic answered ?_
    show _ < _ + ((c.world.state.providers provider).sequenceNumber -
      (c.world.state.providers provider).currentCommitmentSequenceNumber)
    omega

end Invariant

/-- A request, its reveal, and an advancement past the numbers 2 and 3. -/
def Sample.advancedRun : List (Action Sym) :=
  [request 1, reveal 1, succeed, fromUser (.advanceProviderCommitment provider 3 (value 3))]

theorem request_fresh_advancedRun :
    let c := Sample.after Sample.advancedRun
    let p := c.world.state.providers Sample.provider
    ∃ w' n, requestV2 symbolic c.world (Sample.msg Sample.user 10 (by decide)) Sample.provider
        (Sample.contribution 4) 0 = .ok (w', n) ∧
      ∃ req, w'.state.lookup symbolic (Sample.provider, n) = some req ∧ 1 ≤ req.numHashes ∧
      ∀ index value, Discloses Sample.provider c.world.history index value →
        index < n ∧
        (∀ later answer, n ≤ later → constructProviderCommitment symbolic
            (later - p.originalCommitmentSequenceNumber) answer = p.originalCommitment →
          value ≠ answer) ∧
        ∀ userContribution answer,
          symbolic.keccak256 [constructUserCommitment symbolic userContribution,
            constructProviderCommitment symbolic req.numHashes answer] = req.commitment →
          ∀ steps, constructProviderCommitment symbolic steps value ≠ answer := by
  intro c p
  have accepted : (requestV2 symbolic c.world (Sample.msg Sample.user 10 (by decide))
      Sample.provider (Sample.contribution 4) 0).isOk = true := by decide +kernel
  obtain ⟨⟨w', n⟩, made⟩ := Sample.exists_of_isOk accepted
  exact ⟨w', n, made, request_fresh symbolic_injective symbolic_acyclic
    (Sample.reachable Sample.advancedRun) made⟩

end Dice
