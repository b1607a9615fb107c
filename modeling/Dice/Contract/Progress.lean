/-
**What becomes of a provider's record.**

* `ProviderInfo.Onward` — a record of the same registration, with the counter and the commitment where
  they were or further on.
* `ProviderInfo.Becomes` — a later record: one of a later registration, or one that is onward.
* `Reachable.progress` — in every run, every record of a world between two transactions becomes the one
  that the provider has in any later world, also while calls are open.

The service reads records of blocks that are not the last one. What it computes from them is sent to a
contract that has moved on.
-/

import Dice.Contract.Chains

set_option linter.unusedSectionVars false

namespace Dice

variable {Bytes32 : Type}

/-- The same registration, further on. -/
structure ProviderInfo.Onward (p q : ProviderInfo Bytes32) : Prop where
  original : q.originalCommitment = p.originalCommitment
  last : q.endSequenceNumber = p.endSequenceNumber
  counter : p.sequenceNumber ≤ q.sequenceNumber
  current : p.currentCommitmentSequenceNumber ≤ q.currentCommitmentSequenceNumber

/-- **A later record**, of this registration or of a later one, whose commitment is then at a number
that was not assigned yet. -/
structure ProviderInfo.Becomes (p q : ProviderInfo Bytes32) : Prop where
  counter : p.sequenceNumber ≤ q.sequenceNumber
  later : p.originalCommitmentSequenceNumber ≤ q.originalCommitmentSequenceNumber
  renewed : q.originalCommitmentSequenceNumber ≠ p.originalCommitmentSequenceNumber →
    p.sequenceNumber ≤ q.currentCommitmentSequenceNumber
  onward : q.originalCommitmentSequenceNumber = p.originalCommitmentSequenceNumber → p.Onward q

/-- Every registered provider's record becomes its record in a later world. -/
def World.Progress (w w' : World Bytes32) : Prop :=
  ∀ provider, (w.state.providers provider).sequenceNumber ≠ 0 →
    (w.state.providers provider).Becomes (w'.state.providers provider)

section Records

variable {p q r : ProviderInfo Bytes32}

theorem ProviderInfo.Onward.refl (p : ProviderInfo Bytes32) : p.Onward p :=
  ⟨rfl, rfl, Nat.le_refl _, Nat.le_refl _⟩

theorem ProviderInfo.Onward.trans (first : p.Onward q) (second : q.Onward r) : p.Onward r where
  original := second.original.trans first.original
  last := second.last.trans first.last
  counter := Nat.le_trans first.counter second.counter
  current := Nat.le_trans first.current second.current

/-- Whoever is onward has the same registration. -/
theorem ProviderInfo.Becomes.of_onward
    (number : q.originalCommitmentSequenceNumber = p.originalCommitmentSequenceNumber)
    (onward : p.Onward q) : p.Becomes q where
  counter := onward.counter
  later := Nat.le_of_eq number.symm
  renewed other := absurd number other
  onward _ := onward

/-- Whoever was registered stays so. -/
theorem ProviderInfo.Becomes.registered (becomes : p.Becomes q) (registered : p.sequenceNumber ≠ 0) :
    q.sequenceNumber ≠ 0 :=
  Nat.ne_of_gt (Nat.lt_of_lt_of_le (Nat.pos_of_ne_zero registered) becomes.counter)

theorem ProviderInfo.Becomes.trans (first : p.Becomes q) (second : q.Becomes r) : p.Becomes r where
  counter := Nat.le_trans first.counter second.counter
  later := Nat.le_trans first.later second.later
  renewed other := by
    by_cases same : r.originalCommitmentSequenceNumber = q.originalCommitmentSequenceNumber
    · -- the registration changed on the way to `q`
      exact Nat.le_trans (first.renewed (same ▸ other)) (second.onward same).current
    · exact Nat.le_trans first.counter (second.renewed same)
  onward same := by
    -- a registration in between would have moved the number
    have before := first.later
    have after := second.later
    exact (first.onward (by omega)).trans (second.onward (by omega))

/-- Either the record is onward, or its commitment has passed every number that was assigned. -/
theorem ProviderInfo.Becomes.onward_or (becomes : p.Becomes q) :
    p.Onward q ∨ p.sequenceNumber ≤ q.currentCommitmentSequenceNumber := by
  by_cases same : q.originalCommitmentSequenceNumber = p.originalCommitmentSequenceNumber
  · exact .inl (becomes.onward same)
  · exact .inr (becomes.renewed same)

end Records

section Worlds

variable {K : Keccak Bytes32} [DecidableEq Bytes32] {w w' : World Bytes32} {provider : Address}

theorem World.Progress.trans {w'' : World Bytes32} (first : w.Progress w') (second : w'.Progress w'') :
    w.Progress w'' := fun provider registered =>
  (first provider registered).trans
    (second provider ((first provider registered).registered registered))

theorem World.Progress.of_same (same : w'.state.providers = w.state.providers) : w.Progress w' := by
  intro provider _
  rw [same]
  exact .of_onward rfl (.refl _)

/-- One provider's record is rewritten. -/
theorem World.Progress.setProvider {info : ProviderInfo Bytes32}
    (providers : w'.state.providers = (w.state.setProvider provider info).providers)
    (becomes : (w.state.providers provider).sequenceNumber ≠ 0 →
      (w.state.providers provider).Becomes info) : w.Progress w' := by
  intro other registered
  rw [providers, State.setProvider_providers]
  by_cases here : other = provider
  · subst here
    rw [if_pos rfl]
    exact becomes registered
  · rw [if_neg here]
    exact .of_onward rfl (.refl _)

/-- A reveal raises the commitment, or leaves the record alone. -/
theorem ProviderInfo.becomes_revealedAt (p : ProviderInfo Bytes32) (n : ℕ) (v : Bytes32) :
    p.Becomes (p.revealedAt n v) := by
  unfold ProviderInfo.revealedAt
  by_cases newer : p.currentCommitmentSequenceNumber < n
  · rw [if_pos newer]
    exact .of_onward rfl ⟨rfl, rfl, Nat.le_refl _, Nat.le_of_lt newer⟩
  · rw [if_neg newer]
    exact .of_onward rfl (.refl p)

/-- **Every effect moves records onward**, or registers the provider at a higher number. -/
theorem ChainEffect.progress (holds : ChainSound K w) (effect : ChainEffect K w w') :
    w.Progress w' := by
  cases effect with
  | quiet quiet => exact .of_same quiet.providers
  | accepted checks quiet =>
    exact (World.Progress.setProvider rfl fun _ => ProviderInfo.becomes_revealedAt _ _ _).trans
      (.of_same quiet.providers)
  | @rotated msg provider commitment metadata uri chainLength checks =>
    refine .setProvider rfl fun registered => ?_
    have ordered := holds.ordered provider registered
    have above : (w.state.providers provider).originalCommitmentSequenceNumber <
        (w.state.providers provider).sequenceNumber :=
      Nat.lt_of_le_of_lt ordered.original_le ordered.current_lt
    exact ⟨Nat.le_succ _, Nat.le_of_lt above, fun _ => Nat.le_refl _,
      fun same => absurd same (Nat.ne_of_gt above)⟩
  | requested checks =>
    refine .setProvider rfl fun _ => .of_onward rfl ?_
    exact ⟨rfl, rfl, Nat.le_succ _, Nat.le_refl _⟩
  | advanced checks =>
    refine .setProvider rfl fun _ => .of_onward rfl ?_
    exact ⟨rfl, rfl, Nat.le_max_left _ _, Nat.le_of_lt checks.newer⟩
  | @configured provider info event known chain plain =>
    refine .setProvider rfl fun _ => .of_onward chain.originalSequenceNumber ?_
    exact ⟨chain.original, chain.endSequenceNumber, Nat.le_of_eq chain.sequenceNumber.symm,
      Nat.le_of_eq chain.currentSequenceNumber.symm⟩

/-- Whole calls make progress. -/
theorem progress_rely (injective : Function.Injective K.keccak256) :
    CallStack.Rely (dice K) anyCall (Sound K) (Evolves K) (ChainSound K) World.Progress :=
  rely_of_halves (fun _ => .of_same rfl) (fun _ _ _ => World.Progress.trans)
    (fun sound holds _ finishes _ _ =>
      have effect := finishes.chainEffect sound
      ⟨holds.effect injective sound effect, effect.progress holds⟩)
    (fun sound holds _ calls _ => holds.effect injective sound (calls.chainEffect sound))
    (fun sound holds _ calls _ _ sound₂ holds₂ _ between resumes _ _ =>
      have quiet := resumes.quiet sound₂
      ⟨holds₂.quiet quiet, ((calls.chainEffect sound).progress holds).trans
        (between.trans (.of_same quiet.providers))⟩)
    fun holds => ⟨holds.quiet (.of_same rfl rfl plain_nil), .of_same rfl⟩

/-- **Since a world between two transactions**, at any depth. -/
theorem Reachable.progress (injective : Function.Injective K.keccak256) {c : Config Bytes32}
    (reach : Reachable K anyCall ⟨w, []⟩) (run : (dice K).Reachable anyCall ⟨w, []⟩ c) :
    w.Progress c.world := by
  have rely := absolute (progress_rely (K := K) injective)
  obtain ⟨_, nested⟩ := rely.sound ⟨reach.sound, reach.chainSound injective⟩ rfl run
  refine nested.since (D := World.Progress) (fun _ _ _ => World.Progress.trans) ?_ ?_
  · exact fun related => related.2
  · intro m w w₁ pending holds _ started
    exact ((start_calling started).chainEffect holds.1).progress holds.2

end Worlds

end Dice
