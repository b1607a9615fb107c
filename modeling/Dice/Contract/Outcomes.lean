/-
**The outcome of a request is fixed when it is made.**

* `Accepts` — a world in which a reveal of a request is accepted, and the random number it yields.
* `Commits` — a request is, if it is still active, the one that was made, up to its status. No half
  of a call destroys this (`commits_stable`), so it holds in every continuation.
* `Accepts.fixed` — a reveal that opens the commitment of the made request opens it to the user's
  contribution and to a value at a fixed index of the provider's chain, of which there is only one.
* `outcome_fixed` — two continuations of a run agree on everything a reveal yields.
-/

import Dice.Contract.Symbolic

set_option linter.unusedSectionVars false

namespace Dice

open HashChain (IsLink)

variable {Bytes32 : Type} (K : Keccak Bytes32) [DecidableEq Bytes32]

/-- A reveal that is accepted, by `reveal` or by `revealWithCallback`. -/
inductive Accepts (w : World Bytes32) (provider : Address) (n : ℕ) (u v random : Bytes32) : Prop
  | reveal {msg : Msg} {w' : World Bytes32} :
      reveal K w msg provider n u v = .ok (w', random) → Accepts w provider n u v random
  | revealWithCallback {w' : World Bytes32} {ref : RequestRef Bytes32} :
      revealWithCallbackChecks K w provider n u v = .ok (w', ref, random) →
        Accepts w provider n u v random

/-- The request under a key, if there is one, is `made` up to its status. -/
def Commits (made : Request Bytes32) (key : RequestKey) (w : World Bytes32) : Prop :=
  w.Used key ∧ ∀ req, w.state.lookup K key = some req → made.Same req

section Outcomes

variable {K} {w w' : World Bytes32} {made : Request Bytes32} {key : RequestKey}
variable {provider : Address} {n : ℕ} {u v random : Bytes32}

theorem Accepts.checks (accepts : Accepts K w provider n u v random) :
    ∃ req, RevealChecks K w provider n u v req ∧ random = revealedNumber K w req u v := by
  cases accepts with
  | reveal ok =>
    obtain ⟨req, checks, _, _, same, _⟩ := reveal_ok ok
    exact ⟨req, checks, same⟩
  | revealWithCallback ok =>
    obtain ⟨req, checks, _, _, _, same, _⟩ := revealWithCallbackChecks_ok ok
    exact ⟨req, checks, same⟩

theorem Commits.keeps (commits : Commits K made key w) (keeps : Keeps K w w') :
    Commits K made key w' := by
  refine ⟨commits.1.mono keeps.counter, fun req' found' => ?_⟩
  obtain ⟨req, found, same⟩ := keeps.request commits.1 found'
  exact (commits.2 req found).trans same

/-- **No half of a call changes what a request commits to.** -/
theorem commits_stable (made : Request Bytes32) (key : RequestKey) :
    CallStack.Stable (dice K) anyCall (Sound K) (Evolves K) (Commits K made key) where
  done := by
    intro m w w' sound commits _ started
    exact commits.keeps ((start_done started).evolves sound).2.toKeeps
  calling := by
    intro m w w₁ pending sound commits _ started
    exact commits.keeps ((start_calling started).advances sound).2.toKeeps
  resume := by
    intro m w w₁ pending result w₂ w₃ _ started _ sound₂ _ commits resumed
    have resumes := resume_ok (start_calling started).proper resumed
    exact commits.keeps (resumes.keeps sound₂).2
  idle _ commits := commits

/-- **What the commitment of a made request can be opened to.** -/
theorem Accepts.fixed (injective : Function.Injective K.keccak256) (sound : Sound K w)
    {w₀ : World Bytes32} {msg : Msg} {u₀ : Bytes32} {gasLimit10k : ℕ}
    (commits : Commits K (madeRequest K w₀ msg provider u₀ gasLimit10k) (provider, n) w)
    (accepts : Accepts K w provider n u v random) :
    u = u₀ ∧ random = K.keccak256 [u₀, v, K.word 0] ∧
      IsLink (chainHash K) (w₀.state.providers provider).currentCommitment
        (madeRequest K w₀ msg provider u₀ gasLimit10k).numHashes v := by
  obtain ⟨req, checks, rfl⟩ := accepts.checks
  have same := commits.2 req checks.found
  unfold Request.Same at same
  have opens := checks.opens
  rw [same] at opens
  have words := injective opens
  simp only [List.cons.injEq, and_true] at words
  obtain ⟨user, provider⟩ := words
  have contribution : u = u₀ := by
    have word := injective user
    injection word
  refine ⟨contribution, ?_, provider⟩
  unfold revealedNumber combineRandomValues
  rw [contribution, sound.noBlockhash checks.found]
  rfl

theorem start_requestV2 {msg : Msg} {gasLimit : ℕ}
    (requested : requestV2 K w msg provider u gasLimit = .ok (w', n)) :
    start K ⟨msg, .requestV2 provider u gasLimit⟩ w = .done w' := by
  unfold start
  rw [if_neg (by simp [Call.payable])]
  show atomically ((requestV2 K w msg provider u gasLimit).map Prod.fst) = .done w'
  rw [requested]
  rfl

/-- A request that was just made commits to itself. -/
theorem commits_requested (sound : Sound K w) {msg : Msg} {gasLimit gasLimit10k : ℕ}
    (checks : RequestChecks w msg provider gasLimit gasLimit10k) :
    Commits K (madeRequest K w msg provider u gasLimit10k)
      (provider, (w.state.providers provider).sequenceNumber)
      (w.requested K msg provider u gasLimit10k) := by
  refine ⟨w.requested_used msg provider u gasLimit10k, fun req found => ?_⟩
  rw [lookup_requested sound msg u gasLimit10k checks.registered, Function.update_self] at found
  cases found
  exact .refl _

/-- **Two continuations.** After `requestV2` made request `n` of a provider in any reachable state,
let the run continue in two ways, with whatever calls at whatever depth, neither of which undoes the
request. Every reveal of the request that is accepted in either uses the user's contribution, both
use the same contribution of the provider, and they yield the same random number. -/
theorem outcome_fixed (injective : Function.Injective K.keccak256) {c : Config Bytes32}
    (reach : Reachable K anyCall c) {msg : Msg} {gasLimit : ℕ} {w₀ : World Bytes32}
    (requested : requestV2 K c.world msg provider u gasLimit = .ok (w₀, n))
    {depth₁ depth₂ : ℕ} {c₁ c₂ : Config Bytes32}
    (first : CallStack.Continues (dice K) anyCall ⟨w₀, c.frames⟩ depth₁ c₁)
    (second : CallStack.Continues (dice K) anyCall ⟨w₀, c.frames⟩ depth₂ c₂)
    {u₁ v₁ random₁ u₂ v₂ random₂ : Bytes32}
    (accepted₁ : Accepts K c₁.world provider n u₁ v₁ random₁)
    (accepted₂ : Accepts K c₂.world provider n u₂ v₂ random₂) :
    u₁ = u ∧ u₂ = u ∧ v₁ = v₂ ∧ random₁ = K.keccak256 [u, v₁, K.word 0] ∧ random₁ = random₂ := by
  obtain ⟨gasLimit10k, checks, rfl, rfl⟩ := requestV2_ok requested
  have commits := commits_requested (K := K) (u := u) reach.sound checks
  -- the configuration after the request is reachable, and its open calls are nested
  have stepped : (dice K).step c (.call ⟨msg, .requestV2 provider u gasLimit⟩) =
      ⟨c.world.requested K msg provider u gasLimit10k, c.frames⟩ :=
    CallStack.Component.step_done (start_requestV2 requested)
  have reach₀ := reach.step K (.call ⟨msg, .requestV2 provider u gasLimit⟩) trivial
  rw [stepped] at reach₀
  obtain ⟨_, _, _, nested⟩ := reach₀.nested
  obtain ⟨d, origin, deployed, run₀⟩ := reach₀
  have after : ∀ {depth : ℕ} {c' : Config Bytes32}, CallStack.Continues (dice K) anyCall
      ⟨c.world.requested K msg provider u gasLimit10k, c.frames⟩ depth c' →
      Sound K c'.world ∧ Commits K (madeRequest K c.world msg provider u gasLimit10k)
        (provider, (c.world.state.providers provider).sequenceNumber) c'.world := by
    intro depth c' continues
    have reach' : Reachable K anyCall c' :=
      ⟨d, origin, deployed, .trans _ run₀ continues.reachable⟩
    have sound₀ : Sound K (c.world.requested K msg provider u gasLimit10k) :=
      Reachable.sound ⟨d, origin, deployed, run₀⟩
    exact ⟨reach'.sound,
      continues.stable (commits_stable _ _) requests_rely.restrict sound₀ nested commits⟩
  obtain ⟨sound₁, commits₁⟩ := after first
  obtain ⟨sound₂, commits₂⟩ := after second
  obtain ⟨rfl, number₁, value₁⟩ := accepted₁.fixed injective sound₁ commits₁
  obtain ⟨same₂, number₂, value₂⟩ := accepted₂.fixed injective sound₂ commits₂
  have values : v₁ = v₂ := IsLink.unique (chainHash_injective injective) value₁ value₂
  refine ⟨rfl, same₂, values, number₁, ?_⟩
  rw [number₁, number₂, values]

end Outcomes

namespace Sample

/-- The world after the first request, made under a default gas limit. -/
def made : World Sym := (after [limitGas, request 1]).world

/-- The configuration after the callback of that request failed and a second request was made. -/
def retried : Config Sym := (dice symbolic).run ⟨made, []⟩ [reveal 1, failed, request 2]

theorem made_requested : requestV2 symbolic (after [limitGas]).world (msg user 10 user_ne_zero)
    provider (contribution 1) 0 = .ok (made, 1) := rfl

theorem retried_continues :
    CallStack.Continues (dice symbolic) anyCall ⟨made, []⟩ 0 retried := by
  have begun : CallStack.Continues (dice symbolic) anyCall ⟨made, []⟩ 0
      ((dice symbolic).step ⟨made, []⟩ (reveal 1)) := .above (reveal 1) .refl trivial nofun
  have ended := begun.above failed trivial fun _ => by decide +kernel
  exact ended.above (request 2) trivial nofun

end Sample

/-- The first attempt and the retry after a failed callback. -/
theorem outcome_fixed_retried :
    ∃ random, Accepts symbolic Sample.made Sample.provider 1 (Sample.contribution 1)
        (Sample.value 1) random ∧
      Accepts symbolic Sample.retried.world Sample.provider 1 (Sample.contribution 1)
        (Sample.value 1) random := by
  obtain ⟨⟨_, _, random₁⟩, ok₁⟩ := Sample.exists_of_isOk (x := revealWithCallbackChecks symbolic
    Sample.made Sample.provider 1 (Sample.contribution 1) (Sample.value 1)) (by decide +kernel)
  obtain ⟨⟨_, _, random₂⟩, ok₂⟩ := Sample.exists_of_isOk (x := revealWithCallbackChecks symbolic
    Sample.retried.world Sample.provider 1 (Sample.contribution 1) (Sample.value 1))
    (by decide +kernel)
  have accepted₁ := Accepts.revealWithCallback ok₁
  have accepted₂ := Accepts.revealWithCallback ok₂
  obtain ⟨_, _, _, _, same⟩ := outcome_fixed symbolic_injective (Sample.reachable [Sample.limitGas])
    Sample.made_requested .refl Sample.retried_continues accepted₁ accepted₂
  exact ⟨random₁, accepted₁, same ▸ accepted₂⟩

end Dice
