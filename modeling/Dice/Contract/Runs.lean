/-
**Runs of the contract**: the deployed world, and the rules by which invariants are proved.

* `constructor_ok` — the two worlds a deployment can leave.
* `rely_of_halves` — the obligations of an invariant and a relation that whole calls respect, in
  terms of the halves of calls, on top of what is known of the request table.
* `rely_of_invariant` — the same for an invariant alone.
* `Reachable.invariant`, `Reachable.nested` — what obligations give in every run.
-/

import Dice.Contract.Requests

set_option linter.unusedSectionVars false

namespace Dice

variable {Bytes32 : Type} (K : Keccak Bytes32) [DecidableEq Bytes32]

/-! ### Deployment -/

/-- The state before the default provider is registered. -/
def Deployment.state (d : Deployment Bytes32) : State Bytes32 where
  admin := d.admin
  feeInWei := d.feeInWei
  accruedFeesInWei := 0
  vault := d.vault
  defaultProvider := d.defaultProvider
  requests := fun _ => if d.prefillRequestStorage then prefilledRequest K else .unset K
  requestsOverflow := fun _ => .unset K
  providers := fun _ => .unset K
  proposedAdmin := 0
  refundDelayBlocks := d.refundDelayBlocks

/-- The world without a default provider. -/
def Deployment.world (d : Deployment Bytes32) : World Bytes32 where
  state := d.state K
  balance := d.etherBefore
  blockNumber := d.blockNumber
  blockhash := d.blockhash
  history := [.forced d.etherBefore]

/-- The record of the default provider. -/
def Deployment.provider (d : Deployment Bytes32) : ProviderInfo Bytes32 :=
  { ProviderInfo.unset K with
    originalCommitment := d.providerCommitment
    currentCommitment := d.providerCommitment
    endSequenceNumber := d.providerChainLength
    sequenceNumber := 1
    commitmentMetadata := d.providerCommitmentMetadata }

variable {K}

/-- The two outcomes of a deployment. -/
theorem constructor_ok {d : Deployment Bytes32} {w : World Bytes32}
    (deployed : constructor K d = .ok w) :
    d.admin ≠ 0 ∧ (d.providerChainLength = 0 ∧ w = d.world K ∨
      0 < d.providerChainLength ∧
        w = (((d.world K).setState ((d.state K).setProvider d.defaultProvider
          (d.provider K))).record (.registered d.defaultProvider 0 d.providerCommitment)).emit
            (.registered d.defaultProvider)) := by
  simp only [constructor, bind_ok, require_ok, exists_const] at deployed
  obtain ⟨admin, _, _, _, deployed⟩ := deployed
  refine ⟨admin, ?_⟩
  split at deployed
  · next registered => exact .inr ⟨registered, (pure_ok.mp deployed).symm⟩
  · next empty => exact .inl ⟨by omega, (pure_ok.mp deployed).symm⟩

/-- Every slot is empty after a deployment. -/
theorem Deployment.read_key (d : Deployment Bytes32) (ref : RequestRef Bytes32) :
    ((d.state K).read ref).key = none := by
  cases ref with
  | slot index =>
    show Request.key (if d.prefillRequestStorage then prefilledRequest K else .unset K) = none
    split <;> rfl
  | overflow hash => rfl

/-- Nothing is active after a deployment. -/
theorem Deployment.lookup_none (d : Deployment Bytes32) (key : RequestKey) :
    (d.state K).lookup K key = none := by
  show (if Request.key _ = some key then some _ else none) = none
  rw [if_neg]
  intro live
  have gone := (d.read_key ((requestScheme K).find (d.state K).table key)).symm.trans live
  cases gone

theorem Deployment.wellFormed (d : Deployment Bytes32) :
    (requestScheme K).WellFormed (d.state K).table := by
  have dead : ∀ ref, (requestScheme K).keyOf ((d.state K).table.read ref) = none := d.read_key
  refine ⟨fun ref k live => ?_, fun ref ref' k live _ => ?_⟩
  · rw [dead] at live
    cases live
  · rw [dead] at live
    cases live

/-- The constructor registers its default provider as `registerFor` would in the empty contract. -/
theorem constructor_rotated {d : Deployment Bytes32} {w : World Bytes32}
    (deployed : constructor K d = .ok w) :
    d.providerChainLength = 0 ∧ w = d.world K ∨
      0 < d.providerChainLength ∧ w = (d.world K).rotated d.defaultProvider d.providerCommitment
        d.providerCommitmentMetadata d.providerChainLength [] := by
  refine (constructor_ok deployed).2.imp_right fun ⟨nonempty, same⟩ => ⟨nonempty, ?_⟩
  have record : d.provider K = (ProviderInfo.unset K).rotated d.providerCommitment
      d.providerCommitmentMetadata d.providerChainLength [] := by
    unfold Deployment.provider ProviderInfo.rotated
    rw [show (ProviderInfo.unset K).sequenceNumber = 0 from rfl, Nat.zero_add]
    rfl
  rw [same, record]
  rfl

/-- The table of a deployed contract. -/
theorem constructor_lookup {d : Deployment Bytes32} {w : World Bytes32}
    (deployed : constructor K d = .ok w) (key : RequestKey) : w.state.lookup K key = none := by
  rcases (constructor_ok deployed).2 with ⟨_, rfl⟩ | ⟨_, rfl⟩
  · exact d.lookup_none key
  · exact d.lookup_none key

/-- Nor is the table of the empty contract anything but sound. -/
theorem Deployment.sound (d : Deployment Bytes32) : Sound K (d.world K) where
  wf := d.wellFormed
  used := by
    intro key req found
    cases (d.lookup_none key).symm.trans found
  withCallback := by
    intro key req found
    cases (d.lookup_none key).symm.trans found
  noBlockhash := by
    intro key req found
    cases (d.lookup_none key).symm.trans found

theorem constructor_sound {d : Deployment Bytes32} {w : World Bytes32}
    (deployed : constructor K d = .ok w) : Sound K w := by
  rcases (constructor_ok deployed).2 with ⟨_, rfl⟩ | ⟨_, rfl⟩
  · exact d.sound
  · exact d.sound.of_same rfl (World.countsUp_of_setProvider rfl (Nat.zero_le _))

/-! ### Rules -/

section Rules

variable {guard : Message Bytes32 → World Bytes32 → Prop} {J : World Bytes32 → Prop}
variable {S : World Bytes32 → World Bytes32 → Prop}

/-- **Obligations in terms of halves.** The three kinds of halves, and what is known of the table
before, between and after them. -/
theorem rely_of_halves (refl : ∀ w, S w w) (trans : ∀ u v w, S u v → S v w → S u w)
    (finishes : ∀ {m w w'}, Sound K w → J w → guard m w → Finishes K m w w' → Sound K w' →
      Evolves K w w' → J w' ∧ S w w')
    (calls : ∀ {m w w₁ pending}, Sound K w → J w → guard m w → Calls K m w w₁ pending →
      Sound K w₁ → J w₁)
    (whole : ∀ {m w w₁ pending result w₂ w₃}, Sound K w → J w → guard m w →
      Calls K m w w₁ pending → Sound K w₁ → J w₁ → Sound K w₂ → J w₂ → Evolves K w₁ w₂ → S w₁ w₂ →
      Resumes K result w₂ pending w₃ → (result.success = false → w₂ = w₁) → Evolves K w w₃ →
      J w₃ ∧ S w w₃)
    (idle : ∀ {t w}, J w → J (mine t w) ∧ S w (mine t w)) :
    CallStack.Rely (dice K) guard (Sound K) (Evolves K) J S where
  refl := refl
  trans := trans
  done sound holds allowed started sound' evolves :=
    finishes sound holds allowed (start_done started) sound' evolves
  calling sound holds allowed started sound' :=
    calls sound holds allowed (start_calling started) sound'
  succeed := by
    intro m w w₁ pending result w₂ w₃ sound holds allowed started sound₁ holds₁ sound₂ holds₂
      between related success resumed _ evolves
    have first := start_calling started
    refine whole sound holds allowed first sound₁ holds₁ sound₂ holds₂ between related
      (resume_ok first.proper resumed) (fun failure => ?_) evolves
    rw [show result.success = true from success] at failure
    cases failure
  fail := by
    intro m w w₁ pending result w₃ sound holds allowed started sound₁ holds₁ _ resumed _ evolves
    have first := start_calling started
    exact whole sound holds allowed first sound₁ holds₁ sound₁ holds₁ (.refl w₁) (refl w₁)
      (resume_ok first.proper resumed) (fun _ => rfl) evolves
  idle _ holds _ _ := idle holds

/-- **Obligations of an invariant alone**: every half keeps it. -/
theorem rely_of_invariant
    (finishes : ∀ {m w w'}, Sound K w → J w → guard m w → Finishes K m w w' → J w')
    (calls : ∀ {m w w₁ pending}, Sound K w → J w → guard m w → Calls K m w w₁ pending → J w₁)
    (resumes : ∀ {result w pending w'}, Sound K w → J w → Resumes K result w pending w' → J w')
    (idle : ∀ {t w}, J w → J (mine t w)) :
    CallStack.Rely (dice K) guard (Sound K) (Evolves K) J fun _ _ => True :=
  rely_of_halves (fun _ => trivial) (fun _ _ _ _ _ => trivial)
    (fun sound holds allowed half _ _ => ⟨finishes sound holds allowed half, trivial⟩)
    (fun sound holds allowed half _ => calls sound holds allowed half)
    (fun _ _ _ _ _ _ sound₂ holds₂ _ _ half _ _ => ⟨resumes sound₂ holds₂ half, trivial⟩)
    (fun holds => ⟨idle holds, trivial⟩)

/-- The obligations, with those of the table, as one. -/
theorem absolute (rely : CallStack.Rely (dice K) guard (Sound K) (Evolves K) J S) :
    CallStack.AbsoluteRely (dice K) guard (fun w => Sound K w ∧ J w)
      (fun w w' => Evolves K w w' ∧ S w w') :=
  requests_rely.restrict.extend rely

variable {c : Config Bytes32}

/-- **Every run.** -/
theorem Reachable.holds (rely : CallStack.Rely (dice K) guard (Sound K) (Evolves K) J S)
    (initial : ∀ {d w}, constructor K d = .ok w → J w) (reach : Reachable K guard c) :
    (Sound K c.world ∧ J c.world) ∧ ∃ d origin, constructor K d = .ok origin ∧
      CallStack.Nested (dice K) guard (fun w => Sound K w ∧ J w)
        (fun w w' => Evolves K w w' ∧ S w w') origin c.world c.frames := by
  obtain ⟨d, origin, deployed, run⟩ := reach
  obtain ⟨holds, nested⟩ := (absolute rely).sound
    ⟨constructor_sound deployed, initial deployed⟩ rfl run
  exact ⟨holds, d, origin, deployed, nested⟩

/-- The table is sound in every run. -/
theorem Reachable.sound (reach : Reachable K guard c) : Sound K c.world := by
  obtain ⟨d, origin, deployed, run⟩ := reach
  exact (requests_rely.restrict.sound (constructor_sound deployed) rfl run).1

/-- The open calls of every run are nested. -/
theorem Reachable.nested (reach : Reachable K guard c) :
    ∃ d origin, constructor K d = .ok origin ∧
      CallStack.Nested (dice K) guard (Sound K) (Evolves K) origin c.world c.frames := by
  obtain ⟨d, origin, deployed, run⟩ := reach
  exact ⟨d, origin, deployed,
    (requests_rely.restrict.sound (constructor_sound deployed) rfl run).2⟩

end Rules

end Dice
