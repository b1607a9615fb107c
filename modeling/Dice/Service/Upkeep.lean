/-
**Commitment upkeep.**

`update_commitments_if_necessary` advances the commitment to the last assigned number before so many
numbers are outstanding that `requestHelper` refuses the next one.

* `HashChainState.Serves` — the keeper has the chain that the provider registered.
* `Upkeep` — what is submitted is accepted, assigns no number and brings the next request down to one
  hash; when nothing is submitted, the next request is not too far from the commitment.
* `upkeep_iff` — this holds unless one number is outstanding under a limit of one: the threshold is then
  0, and the advancement to the current commitment is too old.
-/

import Dice.Contract.Commuting
import Dice.Service.ChainState
import Dice.Service.Disclosure

set_option linter.unusedSectionVars false

namespace Dice

open HashChain (IsLink)

variable {Bytes32 : Type} (K : Keccak Bytes32) [DecidableEq Bytes32]

/-! ### The registered chain -/

/-- The last chain of the keeper is the one that the provider registered. -/
def HashChainState.Serves (state : HashChainState Bytes32) (p : ProviderInfo Bytes32) : Prop :=
  ∃ offsets hashChains chain secret, offsets.length = hashChains.length ∧
    state = ⟨offsets ++ [p.originalCommitmentSequenceNumber], hashChains ++ [chain]⟩ ∧
    (∀ offset ∈ offsets, offset ≤ p.originalCommitmentSequenceNumber) ∧
    chain.Made (chainHash K) secret ∧
    chain.revealIth (chainHash K) 0 = .ok p.originalCommitment ∧
    p.originalCommitmentSequenceNumber + chain.len = p.endSequenceNumber

section Serving

variable {K} {state : HashChainState Bytes32} {p : ProviderInfo Bytes32}

/-- It answers every number of the registration. -/
theorem HashChainState.Serves.reveal (serves : state.Serves K p) {n : ℕ}
    (lower : p.originalCommitmentSequenceNumber ≤ n) (upper : n < p.endSequenceNumber) :
    ∃ v, state.reveal (chainHash K) n = .ok v ∧
      IsLink (chainHash K) p.originalCommitment (n - p.originalCommitmentSequenceNumber) v := by
  obtain ⟨offsets, hashChains, chain, secret, lengths, rfl, below, made, root, ends⟩ := serves
  have within : n - p.originalCommitmentSequenceNumber < chain.len := by omega
  obtain ⟨v, revealed, link⟩ := made.link root within
  refine ⟨v, Eq.trans ?_ revealed, link⟩
  exact HashChainState.reveal_of_split lengths
    (fun offset member => Nat.le_trans (below offset member) lower) lower
    fun _ member => absurd member List.not_mem_nil

end Serving

/-! ### Upkeep -/

/-- **Upkeep fits the contract**: state and transaction are one. -/
structure Upkeep (w : World Bytes32) (provider : Address) (state : HashChainState Bytes32) : Prop where
  advances : ∀ n v, necessaryUpdate K state (w.state.providers provider) = some (n, v) →
    ∃ w', advanceProviderCommitment K w provider n v = .ok w' ∧
      (w'.state.providers provider).sequenceNumber = (w.state.providers provider).sequenceNumber ∧
      ∀ msg u gasLimit w'' n', requestV2 K w' msg provider u gasLimit = .ok (w'', n') →
        ∃ req, w''.state.lookup K (provider, n') = some req ∧ req.numHashes = 1
  rests : necessaryUpdate K state (w.state.providers provider) = none →
    ∀ msg u gasLimit, requestV2 K w msg provider u gasLimit ≠ .error .lastRevealedTooOld

/-- Everything is revealed, and one number outstanding is above the threshold of a limit of one. -/
def ProviderInfo.Idle (p : ProviderInfo Bytes32) : Prop :=
  p.maxNumHashes = 1 ∧ p.sequenceNumber - p.currentCommitmentSequenceNumber = 1 ∧
    2 ≤ p.sequenceNumber

section Upkeeping

variable {K} {w : World Bytes32} {provider : Address} {state : HashChainState Bytes32}

/-- Neither arithmetic nor gas limits are reported as that. -/
theorem checked_not_tooOld (bits a b gasLimit : ℕ) (p : ProviderInfo Bytes32) :
    checkedAdd bits a b ≠ .error .lastRevealedTooOld ∧
      checkedSub a b ≠ .error .lastRevealedTooOld ∧ toUint bits a ≠ .error .lastRevealedTooOld ∧
      requestGasLimit10k p gasLimit ≠ .error .lastRevealedTooOld := by
  refine ⟨fun failed => ?_, fun failed => ?_, fun failed => ?_, fun failed => ?_⟩
  · cases checkedAdd_error failed
  · cases checkedSub_error failed
  · cases toUint_error failed
  · unfold requestGasLimit10k at failed
    split at failed
    · cases failed
    · rcases bind_error.mp failed with failed | ⟨_, _, failed⟩
      · cases (revertIf_error.mp failed).2
      · cases toUint_error failed

/-- When `requestV2` reports `LastRevealedTooOld`. -/
theorem requestV2_tooOld {msg : Msg} {u : Bytes32} {gasLimit : ℕ}
    (rejected : requestV2 K w msg provider u gasLimit = .error .lastRevealedTooOld) :
    (w.state.providers provider).maxNumHashes < (w.state.providers provider).sequenceNumber -
      (w.state.providers provider).currentCommitmentSequenceNumber := by
  have add := fun bits a b => (checked_not_tooOld bits a b 0 (w.state.providers provider)).1
  have sub := fun a b => (checked_not_tooOld 0 a b 0 (w.state.providers provider)).2.1
  have cast := fun bits a => (checked_not_tooOld bits a 0 0 (w.state.providers provider)).2.2.1
  have gas := fun limit => (checked_not_tooOld 0 0 0 limit (w.state.providers provider)).2.2.2
  simp only [requestV2, requestHelper, bind_error, bind_ok, revertIf_error, revertIf_ok,
    reduceCtorEq, and_false, or_false, false_or, add, sub, cast, gas, exists_const, checkedSub_ok,
    toUint_ok, pure_ne_error, and_true, exists_false] at rejected
  obtain ⟨_, _, _, _, _, _, _, _, ⟨_, rfl⟩, _, ⟨_, rfl⟩, _, above⟩ := rejected
  exact above

/-- The next request after an advancement to the last assigned number. -/
theorem requested_afterAdvance {msg : Msg} {u v : Bytes32} {gasLimit n' : ℕ} {w' : World Bytes32}
    (sound : Sound K w)
    (requested : requestV2 K (w.advanced provider ((w.state.providers provider).sequenceNumber - 1) v)
      msg provider u gasLimit = .ok (w', n')) :
    ∃ req, w'.state.lookup K (provider, n') = some req ∧ req.numHashes = 1 := by
  obtain ⟨gasLimit10k, checks, rfl, rfl⟩ := requestV2_ok requested
  have sound' : Sound K (w.advanced provider ((w.state.providers provider).sequenceNumber - 1) v) :=
    sound.of_same rfl (World.countsUp_of_setProvider rfl (Nat.le_max_left _ _))
  refine ⟨madeRequest K (w.advanced provider ((w.state.providers provider).sequenceNumber - 1) v) msg
    provider u gasLimit10k, ?_, ?_⟩
  · rw [lookup_requested sound' msg u gasLimit10k checks.registered, Function.update_self]
  · show (((w.state.setProvider provider _).providers provider).sequenceNumber -
      ((w.state.setProvider provider _).providers provider).currentCommitmentSequenceNumber) = 1
    rw [State.setProvider_providers, if_pos rfl]
    show max (w.state.providers provider).sequenceNumber
      ((w.state.providers provider).sequenceNumber - 1 + 1) -
        ((w.state.providers provider).sequenceNumber - 1) = 1
    omega

/-- What the keeper reveals for the last assigned number fits. -/
theorem HashChainState.Serves.fits (serves : state.Serves K (w.state.providers provider))
    (chains : ChainSound K w) (near : w.Near)
    (registered : (w.state.providers provider).sequenceNumber ≠ 0) :
    ∃ v, state.reveal (chainHash K) ((w.state.providers provider).sequenceNumber - 1) = .ok v ∧
      (w.state.providers provider).Fits K ((w.state.providers provider).sequenceNumber - 1) v := by
  have ordered := chains.ordered provider registered
  have before := ordered.original_le
  have after := ordered.current_lt
  have last := ordered.sequence_le
  have close := near provider
  have lower : (w.state.providers provider).originalCommitmentSequenceNumber ≤
      (w.state.providers provider).sequenceNumber - 1 := by omega
  obtain ⟨v, revealed, linked⟩ := serves.reveal lower (by omega)
  exact ⟨v, revealed, by omega, by omega, fun _ => linked⟩

/-- **Exactly when upkeep fits the contract**, in every reachable state. -/
theorem upkeep_iff (injective : Function.Injective K.keccak256) {c : Config Bytes32}
    (reach : Reachable K anyCall c)
    (registered : (c.world.state.providers provider).sequenceNumber ≠ 0)
    (limited : (c.world.state.providers provider).maxNumHashes ≠ 0)
    (serves : state.Serves K (c.world.state.providers provider)) :
    Upkeep K c.world provider state ↔ ¬ (c.world.state.providers provider).Idle := by
  have chains := reach.chainSound injective
  have near := reach.near
  have ordered := chains.ordered provider registered
  have after := ordered.current_lt
  obtain ⟨v, revealed, fits⟩ := serves.fits chains near registered
  constructor
  · rintro ⟨advances, _⟩ ⟨single, outstanding, positive⟩
    have update : necessaryUpdate K state (c.world.state.providers provider) =
        some ((c.world.state.providers provider).sequenceNumber - 1, v) := by
      refine necessaryUpdate_eq_some.mpr ⟨limited, ?_, rfl, by omega, revealed⟩
      rw [single, outstanding]
      decide
    obtain ⟨w', advanced, _⟩ := advances _ v update
    have newer := (advanceProviderCommitment_ok advanced).1.newer
    omega
  · intro working
    refine ⟨fun n v' update => ?_, fun nothing msg u gasLimit rejected => ?_⟩
    · obtain ⟨_, necessary, rfl, positive, revealed'⟩ := necessaryUpdate_eq_some.mp update
      obtain rfl := Except.ok.inj (revealed'.symm.trans revealed)
      have newer : (c.world.state.providers provider).currentCommitmentSequenceNumber <
          (c.world.state.providers provider).sequenceNumber - 1 := by
        unfold ProviderInfo.Idle at working
        unfold updateCommitmentsThreshold at necessary
        omega
      have accepted := advanceProviderCommitment_of (fits.checks injective chains newer) fits.used
      refine ⟨_, accepted, ?_, fun msg u gasLimit w'' n' requested =>
        requested_afterAdvance reach.sound requested⟩
      show ((c.world.state.setProvider provider _).providers provider).sequenceNumber = _
      rw [State.setProvider_providers, if_pos rfl]
      show max _ (_ - 1 + 1) = _
      omega
    · have above := requestV2_tooOld rejected
      by_cases necessary : updateCommitmentsThreshold
          (c.world.state.providers provider).maxNumHashes <
            (c.world.state.providers provider).sequenceNumber -
              (c.world.state.providers provider).currentCommitmentSequenceNumber
      · by_cases first : (c.world.state.providers provider).sequenceNumber - 1 = 0
        · omega
        · rw [necessaryUpdate_eq_some.mpr ⟨limited, necessary, rfl, first, revealed⟩] at nothing
          cases nothing
      · unfold updateCommitmentsThreshold at necessary
        omega

end Upkeeping

namespace Sample

/-- The keeper of the deployed chain. -/
def keeperState : HashChainState Sym := ⟨[0], [firstChain]⟩

/-- Two numbers are outstanding under a limit of two. -/
def limitOfTwo : List (Action Sym) := [fromProvider (.setMaxNumHashes 2), request 1]

/-- The only request is revealed, under a limit of one. -/
def limitOfOne : List (Action Sym) :=
  [fromProvider (.setMaxNumHashes 1), request 1, reveal 1, succeed]

theorem keeperState_serves {actions : List (Action Sym)}
    (number : ((after actions).world.state.providers provider).originalCommitmentSequenceNumber = 0)
    (commitment : ((after actions).world.state.providers provider).originalCommitment = value 0)
    (last : ((after actions).world.state.providers provider).endSequenceNumber = 8) :
    keeperState.Serves symbolic ((after actions).world.state.providers provider) := by
  refine ⟨[], [], firstChain, .atom 77, rfl, ?_, fun _ member => absurd member List.not_mem_nil,
    ⟨by decide, rfl⟩, ?_, ?_⟩
  · rw [number]
    rfl
  · rw [commitment]
    rfl
  · rw [number, last]
    rfl

end Sample

/-- Two numbers are outstanding under a limit of two, so that an advancement is submitted. -/
theorem upkeep_iff_limitOfTwo :
    let w := (Sample.after Sample.limitOfTwo).world
    ¬ (w.state.providers Sample.provider).Idle ∧ Upkeep symbolic w Sample.provider Sample.keeperState := by
  intro w
  have working : ¬ (w.state.providers Sample.provider).Idle := by
    unfold ProviderInfo.Idle
    decide +kernel
  refine ⟨working, (upkeep_iff symbolic_injective (Sample.reachable Sample.limitOfTwo) ?_ ?_ ?_).mpr
    working⟩
  · decide +kernel
  · decide +kernel
  · exact Sample.keeperState_serves (by decide +kernel) (by decide +kernel) (by decide +kernel)

/-- The keeper submits an advancement that the contract rejects. -/
theorem upkeep_rejected :
    let w := (Sample.after Sample.limitOfOne).world
    Reachable symbolic anyCall (Sample.after Sample.limitOfOne) ∧
      (w.state.providers Sample.provider).sequenceNumber = 2 ∧
      (w.state.providers Sample.provider).maxNumHashes = 1 ∧
      Sample.keeperState.Serves symbolic (w.state.providers Sample.provider) ∧
      necessaryUpdate symbolic Sample.keeperState (w.state.providers Sample.provider) =
        some (1, Sample.value 1) ∧
      ¬ Upkeep symbolic w Sample.provider Sample.keeperState := by
  have update : necessaryUpdate symbolic Sample.keeperState
      ((Sample.after Sample.limitOfOne).world.state.providers Sample.provider) =
        some (1, Sample.value 1) := by decide +kernel
  refine ⟨Sample.reachable _, by decide +kernel, by decide +kernel, Sample.keeperState_serves
    (by decide +kernel) (by decide +kernel) (by decide +kernel), update, fun upkeep => ?_⟩
  obtain ⟨w', advanced, _⟩ := upkeep.advances 1 (Sample.value 1) update
  have newer := (advanceProviderCommitment_ok advanced).1.newer
  revert newer
  decide +kernel

end Dice
