/-
**Commitment upkeep while the contract moves on.**

A pass of `update_commitments_loop` reads the record of the provider at a block below the head, and its
transaction is executed later, or is lost. Between the two there may be requests, reveals and advancements
by others.

* `UpkeepRun` — a run of the contract with the passes of the thread between its transactions. A pass may
  have read any earlier block, and counts unless its transaction was lost.
* `CaughtUp` — what a pass that counts leaves behind: the commitment is close to the counter that was read.
* `upkeep_keeps_pace` — what a pass sends is accepted, or the commitment is there already; and no request
  is refused as too far from the commitment while the numbers that were assigned since the state that the
  last pass that counts has read are `Within` the limit.

With a limit of 100 these are 5 numbers.
-/

import Dice.Contract.Progress
import Dice.Service.Upkeep

set_option linter.unusedSectionVars false

namespace Dice

variable {Bytes32 : Type}

/-! ### Runs with passes -/

/-- The thread: its wallet, its provider and its chains. -/
structure UpkeepThread (Bytes32 : Type) where
  msg : Msg
  unpaid : msg.value = 0
  providerAddress : Address
  state : HashChainState Bytes32

/-- The contract, the states that a node answers from, the newest first, and the record that the last
pass has read that sent nothing or whose transaction was executed. -/
structure UpkeepRun (Bytes32 : Type) where
  config : Config Bytes32
  blocks : List (World Bytes32)
  lastRead : Option (ProviderInfo Bytes32)

/-- What happens next. -/
inductive UpkeepAction (Bytes32 : Type) where
  | contract (action : Action Bytes32)
  /-- A pass ends. It has read a block that is so many states back. If it sends a transaction that is not
  `confirmed`, then `send_and_confirm` fails; should the transaction be executed after all, then this is a
  call of its own. -/
  | pass (back : ℕ) (confirmed : Bool)

/-- The transaction of an advancement. -/
def UpkeepThread.transaction (thread : UpkeepThread Bytes32) (n : ℕ) (v : Bytes32) : Message Bytes32 :=
  ⟨thread.msg, .advanceProviderCommitment thread.providerAddress n v⟩

/-- The numbers that were assigned since the record `read` are no more than the limit of `p` leaves after
what a pass under the limit of `read` lets be. -/
def ProviderInfo.Within (p read : ProviderInfo Bytes32) : Prop :=
  p.sequenceNumber + max (updateCommitmentsThreshold read.maxNumHashes) 1 ≤
    read.sequenceNumber + p.maxNumHashes

namespace UpkeepRun

/-- Before anything happens. -/
def start (w : World Bytes32) : UpkeepRun Bytes32 := ⟨⟨w, []⟩, [w], none⟩

/-- The contract moves. A state without open calls is one that can be read. -/
def moveTo (r : UpkeepRun Bytes32) (config : Config Bytes32) : UpkeepRun Bytes32 :=
  match config.frames with
  | [] => { r with config, blocks := config.world :: r.blocks }
  | _ :: _ => { r with config }

/-- A pass counts that has read this record. -/
def read (r : UpkeepRun Bytes32) (providerInfo : ProviderInfo Bytes32) : UpkeepRun Bytes32 :=
  { r with lastRead := some providerInfo }

variable (K : Keccak Bytes32) [DecidableEq Bytes32]

/-- **One step.** -/
def step (thread : UpkeepThread Bytes32) (r : UpkeepRun Bytes32) :
    UpkeepAction Bytes32 → UpkeepRun Bytes32
  | .contract action => r.moveTo ((dice K).step r.config action)
  | .pass back confirmed =>
      match r.config.frames, r.blocks[back]? with
      | [], some w =>
          let providerInfo := w.state.providers thread.providerAddress
          match necessaryUpdate K thread.state providerInfo with
          | none => r.read providerInfo
          | some (n, v) =>
              if confirmed then
                (r.moveTo ((dice K).step r.config (.call (thread.transaction n v)))).read providerInfo
              else r
      | _, _ => r

/-- A run. -/
def run (thread : UpkeepThread Bytes32) (r : UpkeepRun Bytes32)
    (actions : List (UpkeepAction Bytes32)) : UpkeepRun Bytes32 := actions.foldl (step K thread) r

/-- The record of the provider. -/
def provider (thread : UpkeepThread Bytes32) (r : UpkeepRun Bytes32) : ProviderInfo Bytes32 :=
  r.config.world.state.providers thread.providerAddress

end UpkeepRun

/-! ### What a pass leaves behind -/

section Settling

variable (K : Keccak Bytes32) [DecidableEq Bytes32]

/-- **What is left of a pass** when the record is `p`: the commitment is close to the counter that was
read. -/
structure CaughtUp (state : HashChainState Bytes32) (read p : ProviderInfo Bytes32) : Prop where
  becomes : read.Becomes p
  close : state.Serves K read → read.maxNumHashes ≠ 0 →
    read.sequenceNumber ≤ p.currentCommitmentSequenceNumber +
      max (updateCommitmentsThreshold read.maxNumHashes) 1

variable {K} {state : HashChainState Bytes32} {read p q : ProviderInfo Bytes32}
variable {w w' : World Bytes32} {provider : Address} {n : ℕ} {v : Bytes32}

/-- Nothing that happens later undoes it. -/
theorem CaughtUp.later (caughtUp : CaughtUp K state read p) (becomes : p.Becomes q) :
    CaughtUp K state read q where
  becomes := caughtUp.becomes.trans becomes
  close serves limited := by
    have close := caughtUp.close serves limited
    rcases becomes.onward_or with onward | renewed
    · exact Nat.le_trans close (Nat.add_le_add_right onward.current _)
    · exact Nat.le_add_right_of_le (Nat.le_trans caughtUp.becomes.counter renewed)

/-- The chains of the keeper serve a record as long as it is of the same registration. -/
theorem HashChainState.Serves.of_onward (serves : state.Serves K q) (onward : p.Onward q)
    (same : q.originalCommitmentSequenceNumber = p.originalCommitmentSequenceNumber) :
    state.Serves K p := by
  unfold HashChainState.Serves at serves ⊢
  rw [← same, ← onward.original, ← onward.last]
  exact serves

/-- A number that fits goes on to fit. -/
theorem ProviderInfo.Fits.onward (fits : p.Fits K n v) (onward : p.Onward q)
    (same : q.originalCommitmentSequenceNumber = p.originalCommitmentSequenceNumber) :
    q.Fits K n v where
  used := Nat.lt_of_lt_of_le fits.used onward.counter
  near := Nat.lt_of_lt_of_le fits.near (Nat.add_le_add_right onward.current _)
  linked := by
    rw [same, onward.original]
    exact fits.linked

/-- What a pass sends when the keeper has the chain. -/
theorem fits_of_update (chains : ChainSound K w) (near : w.Near)
    (serves : state.Serves K (w.state.providers provider))
    (update : necessaryUpdate K state (w.state.providers provider) = some (n, v)) :
    (w.state.providers provider).sequenceNumber = n + 1 ∧ (w.state.providers provider).Fits K n v := by
  obtain ⟨_, _, rfl, positive, revealed⟩ := necessaryUpdate_eq_some.mp update
  have registered : (w.state.providers provider).sequenceNumber ≠ 0 := by omega
  obtain ⟨v', revealed', fits⟩ := serves.fits chains near registered
  obtain rfl := Except.ok.inj (revealed'.symm.trans revealed)
  exact ⟨by omega, fits⟩

/-- **When a pass sends nothing**, the commitment is close already. -/
theorem close_of_rest (chains : ChainSound K w) (near : w.Near)
    (serves : state.Serves K (w.state.providers provider))
    (limited : (w.state.providers provider).maxNumHashes ≠ 0)
    (registered : (w.state.providers provider).sequenceNumber ≠ 0)
    (rest : necessaryUpdate K state (w.state.providers provider) = none) :
    (w.state.providers provider).sequenceNumber ≤
      (w.state.providers provider).currentCommitmentSequenceNumber +
        max (updateCommitmentsThreshold (w.state.providers provider).maxNumHashes) 1 := by
  obtain ⟨v, revealed, _⟩ := serves.fits chains near registered
  by_contra far
  have necessary : updateCommitmentsThreshold (w.state.providers provider).maxNumHashes <
      (w.state.providers provider).sequenceNumber -
        (w.state.providers provider).currentCommitmentSequenceNumber := by omega
  have positive : (w.state.providers provider).sequenceNumber - 1 ≠ 0 := by omega
  rw [necessaryUpdate_eq_some.mpr ⟨limited, necessary, rfl, positive, revealed⟩] at rest
  cases rest

/-- **An advancement that fits** is accepted, or too old. -/
theorem advance_of_fits (injective : Function.Injective K.keccak256) (chains : ChainSound K w)
    (fits : (w.state.providers provider).Fits K n v) :
    (w.state.providers provider).currentCommitmentSequenceNumber < n ∧
        advanceProviderCommitment K w provider n v = .ok (w.advanced provider n v) ∨
      n ≤ (w.state.providers provider).currentCommitmentSequenceNumber ∧
        advanceProviderCommitment K w provider n v = .error .updateTooOld := by
  by_cases newer : (w.state.providers provider).currentCommitmentSequenceNumber < n
  · exact .inl ⟨newer, advanceProviderCommitment_of (fits.checks injective chains newer) fits.used⟩
  · refine .inr ⟨Nat.le_of_not_lt newer, ?_⟩
    unfold advanceProviderCommitment
    exact bind_error.mpr (.inl (revertIf_error.mpr ⟨Nat.le_of_not_lt newer, rfl⟩))

end Settling

/-! ### The run -/

section Running

variable (K : Keccak Bytes32) [DecidableEq Bytes32]

/-- A state between two transactions that the run has come from. -/
def UpkeepRun.Came (r : UpkeepRun Bytes32) (w : World Bytes32) : Prop :=
  Reachable K anyCall ⟨w, []⟩ ∧ (dice K).Reachable anyCall ⟨w, []⟩ r.config

/-- **The invariant**: the run is one of the contract, the blocks are states of it, and the last pass
ended in such a state. -/
structure UpkeepRun.Sound (thread : UpkeepThread Bytes32) (r : UpkeepRun Bytes32) : Prop where
  reach : Reachable K anyCall r.config
  blocks : ∀ w ∈ r.blocks, r.Came K w
  lastRead : ∀ read, r.lastRead = some read → read.sequenceNumber ≠ 0 → ∃ w, r.Came K w ∧
    CaughtUp K thread.state read (w.state.providers thread.providerAddress)

variable {K} {thread : UpkeepThread Bytes32} {r : UpkeepRun Bytes32} {w : World Bytes32}

theorem UpkeepRun.moveTo_config (config : Config Bytes32) : (r.moveTo config).config = config := by
  unfold UpkeepRun.moveTo
  cases config.frames <;> rfl

theorem UpkeepRun.moveTo_lastRead (config : Config Bytes32) :
    (r.moveTo config).lastRead = r.lastRead := by
  unfold UpkeepRun.moveTo
  cases config.frames <;> rfl

theorem UpkeepRun.mem_moveTo {config : Config Bytes32} (member : w ∈ (r.moveTo config).blocks) :
    w ∈ r.blocks ∨ config = ⟨w, []⟩ := by
  unfold UpkeepRun.moveTo at member
  obtain ⟨world, frames⟩ := config
  cases frames with
  | nil =>
    rcases List.mem_cons.mp member with rfl | member
    · exact .inr rfl
    · exact .inl member
  | cons frame rest => exact .inl member

/-- Every action is allowed. -/
theorem allowed_any (config : Config Bytes32) (action : Action Bytes32) :
    CallStack.Component.Allowed anyCall config action := by
  cases action <;> trivial

theorem UpkeepRun.Came.here (reach : Reachable K anyCall r.config) (config : r.config = ⟨w, []⟩) :
    r.Came K w := by
  unfold UpkeepRun.Came
  rw [config] at reach ⊢
  exact ⟨reach, .refl⟩

theorem UpkeepRun.provider_of (here : r.config = ⟨w, []⟩) :
    r.provider thread = w.state.providers thread.providerAddress := by
  unfold UpkeepRun.provider
  rw [here]

theorem UpkeepRun.Came.moveTo (came : r.Came K w) (action : Action Bytes32) :
    (r.moveTo ((dice K).step r.config action)).Came K w := by
  refine ⟨came.1, ?_⟩
  rw [UpkeepRun.moveTo_config]
  exact .step action came.2 (allowed_any _ action)

/-- A step of the contract. -/
theorem UpkeepRun.Sound.moveTo (holds : r.Sound K thread) (action : Action Bytes32) :
    (r.moveTo ((dice K).step r.config action)).Sound K thread := by
  have reach := Reachable.step K holds.reach action (allowed_any _ action)
  refine ⟨?_, fun w member => ?_, fun read last registered => ?_⟩
  · rw [UpkeepRun.moveTo_config]
    exact reach
  · rcases UpkeepRun.mem_moveTo member with earlier | here
    · exact (holds.blocks w earlier).moveTo action
    · refine UpkeepRun.Came.here ?_ ((UpkeepRun.moveTo_config _).trans here)
      rw [UpkeepRun.moveTo_config]
      exact reach
  · rw [UpkeepRun.moveTo_lastRead] at last
    obtain ⟨w, before, caughtUp⟩ := holds.lastRead read last registered
    exact ⟨w, before.moveTo action, caughtUp⟩

/-- The record of a block becomes the present one. -/
theorem UpkeepRun.Came.becomes (injective : Function.Injective K.keccak256)
    (thread : UpkeepThread Bytes32) (came : r.Came K w)
    (registered : (w.state.providers thread.providerAddress).sequenceNumber ≠ 0) :
    (w.state.providers thread.providerAddress).Becomes (r.provider thread) :=
  Reachable.progress injective came.1 came.2 _ registered

/-- The number that a pass sends fits the present record, if the registration is the same. -/
theorem UpkeepRun.Came.fits (injective : Function.Injective K.keccak256) (came : r.Came K w)
    (serves : thread.state.Serves K (w.state.providers thread.providerAddress))
    (same : (r.provider thread).originalCommitmentSequenceNumber =
      (w.state.providers thread.providerAddress).originalCommitmentSequenceNumber)
    {n : ℕ} {v : Bytes32}
    (update : necessaryUpdate K thread.state (w.state.providers thread.providerAddress) = some (n, v)) :
    (w.state.providers thread.providerAddress).sequenceNumber = n + 1 ∧
      (r.provider thread).Fits K n v := by
  obtain ⟨counter, fits⟩ := fits_of_update (came.1.chainSound injective) came.1.near serves update
  have registered : (w.state.providers thread.providerAddress).sequenceNumber ≠ 0 := by
    rw [counter]
    exact Nat.succ_ne_zero n
  exact ⟨counter, fits.onward ((came.becomes injective thread registered).onward same) same⟩

/-- **The transaction of a pass**, between two transactions: if the number fits, the commitment is there
afterwards. -/
theorem step_transaction (injective : Function.Injective K.keccak256)
    (thread : UpkeepThread Bytes32) (reach : Reachable K anyCall ⟨w, []⟩) (n : ℕ) (v : Bytes32) :
    ∃ w', (dice K).step ⟨w, []⟩ (.call (thread.transaction n v)) = ⟨w', []⟩ ∧
      ((w.state.providers thread.providerAddress).Fits K n v →
        n ≤ (w'.state.providers thread.providerAddress).currentCommitmentSequenceNumber) := by
  have started : start K (thread.transaction n v) w =
      atomically (advanceProviderCommitment K w thread.providerAddress n v) :=
    if_neg fun paid => paid.1 thread.unpaid
  cases advanced : advanceProviderCommitment K w thread.providerAddress n v with
  | ok w' =>
    rw [advanced] at started
    refine ⟨w', CallStack.Component.step_done started, fun _ => ?_⟩
    obtain ⟨_, rfl⟩ := advanceProviderCommitment_ok advanced
    show n ≤ ((w.state.setProvider thread.providerAddress _).providers
      thread.providerAddress).currentCommitmentSequenceNumber
    rw [State.setProvider_providers, if_pos rfl]
    exact Nat.le_refl n
  | error rejection =>
    rw [advanced] at started
    refine ⟨w, CallStack.Component.step_reverted started, fun fits => ?_⟩
    rcases advance_of_fits injective (reach.chainSound injective) fits with
      ⟨_, accepted⟩ | ⟨old, _⟩
    · rw [accepted] at advanced
      cases advanced
    · exact old

theorem UpkeepRun.Sound.read (holds : r.Sound K thread) {providerInfo : ProviderInfo Bytes32}
    (last : providerInfo.sequenceNumber ≠ 0 → ∃ w, r.Came K w ∧
      CaughtUp K thread.state providerInfo (w.state.providers thread.providerAddress)) :
    (r.read providerInfo).Sound K thread where
  reach := holds.reach
  blocks := holds.blocks
  lastRead _ same registered := by
    cases same
    exact last registered

/-- A pass that sends nothing. -/
theorem UpkeepRun.Sound.rests (injective : Function.Injective K.keccak256) (holds : r.Sound K thread)
    {present : World Bytes32} (here : r.config = ⟨present, []⟩) (came : r.Came K w)
    (update : necessaryUpdate K thread.state (w.state.providers thread.providerAddress) = none) :
    (r.read (w.state.providers thread.providerAddress)).Sound K thread := by
  refine holds.read fun registered => ⟨present, UpkeepRun.Came.here holds.reach here, ?_⟩
  have becomes := came.becomes injective thread registered
  rw [UpkeepRun.provider_of here] at becomes
  refine ⟨becomes, fun serves limited => ?_⟩
  rcases becomes.onward_or with onward | renewed
  · have close := close_of_rest (came.1.chainSound injective) came.1.near serves limited registered
      update
    exact Nat.le_trans close (Nat.add_le_add_right onward.current _)
  · exact Nat.le_add_right_of_le renewed

/-- A pass whose transaction is executed. -/
theorem UpkeepRun.Sound.executed (injective : Function.Injective K.keccak256)
    (holds : r.Sound K thread) {present : World Bytes32} (here : r.config = ⟨present, []⟩)
    (came : r.Came K w) {n : ℕ} {v : Bytes32}
    (update : necessaryUpdate K thread.state (w.state.providers thread.providerAddress) = some (n, v)) :
    ((r.moveTo ((dice K).step r.config (.call (thread.transaction n v)))).read
      (w.state.providers thread.providerAddress)).Sound K thread := by
  have reach : Reachable K anyCall ⟨present, []⟩ := here ▸ holds.reach
  obtain ⟨w', step, there⟩ := step_transaction injective thread reach n v
  have moved := holds.moveTo (.call (thread.transaction n v))
  have arrived : (r.moveTo ((dice K).step r.config (.call (thread.transaction n v)))).config =
      ⟨w', []⟩ := by
    rw [UpkeepRun.moveTo_config, here, step]
  refine moved.read fun registered => ⟨w', UpkeepRun.Came.here moved.reach arrived, ?_⟩
  have before := came.becomes injective thread registered
  rw [UpkeepRun.provider_of here] at before
  have after := ((UpkeepRun.Came.here holds.reach here).moveTo
    (.call (thread.transaction n v))).becomes injective thread (before.registered registered)
  rw [UpkeepRun.provider_of arrived] at after
  refine ⟨before.trans after, fun serves limited => ?_⟩
  by_cases same : (w'.state.providers thread.providerAddress).originalCommitmentSequenceNumber =
      (w.state.providers thread.providerAddress).originalCommitmentSequenceNumber
  · -- no registration came in between
    have first := before.later
    have second := after.later
    have unchanged : (r.provider thread).originalCommitmentSequenceNumber =
        (w.state.providers thread.providerAddress).originalCommitmentSequenceNumber := by
      rw [UpkeepRun.provider_of here]
      exact Nat.le_antisymm (Nat.le_trans second (Nat.le_of_eq same)) first
    obtain ⟨counter, fits⟩ := came.fits injective serves unchanged update
    rw [UpkeepRun.provider_of here] at fits
    have current := there fits
    omega
  · exact Nat.le_add_right_of_le ((before.trans after).renewed same)

/-- **A pass**: it has read a state that the run came from. -/
theorem UpkeepRun.Sound.pass (injective : Function.Injective K.keccak256) (holds : r.Sound K thread)
    (back : ℕ) (confirmed : Bool) : (r.step K thread (.pass back confirmed)).Sound K thread := by
  obtain ⟨⟨present, frames⟩, blocks, lastRead⟩ := r
  cases frames with
  | cons frame rest => exact holds
  | nil =>
    simp only [UpkeepRun.step]
    cases found : blocks[back]? with
    | none => exact holds
    | some w =>
      have came := holds.blocks w (List.mem_of_getElem? found)
      simp only
      cases update : necessaryUpdate K thread.state (w.state.providers thread.providerAddress) with
      | none => exact holds.rests injective rfl came update
      | some sent =>
        cases confirmed with
        | false => exact holds
        | true => exact holds.executed injective rfl came update

/-- **A whole run.** -/
theorem UpkeepRun.Sound.run (injective : Function.Injective K.keccak256) (holds : r.Sound K thread)
    (actions : List (UpkeepAction Bytes32)) : (r.run K thread actions).Sound K thread := by
  induction actions generalizing r with
  | nil => exact holds
  | cons action rest ih =>
    refine ih ?_
    cases action with
    | contract action => exact holds.moveTo action
    | pass back confirmed => exact holds.pass injective back confirmed

theorem UpkeepRun.start_sound {d : Deployment Bytes32} (deployed : constructor K d = .ok w) :
    (UpkeepRun.start w).Sound K thread where
  reach := ⟨d, w, deployed, .refl⟩
  blocks other member := by
    obtain rfl := List.mem_singleton.mp member
    exact ⟨⟨d, other, deployed, .refl⟩, .refl⟩
  lastRead _ none := by cases none

/-- **Upkeep keeps pace.** Take any run of the contract with the passes of the thread, where each pass
may have read any block before its end and may lose its transaction, and a thread that has the chain of
what it read. Under the same registration, what a pass sends is accepted at any later time, unless the
commitment is there already. And no request is refused as too far from the commitment while the numbers
that were assigned since the state that the last pass that counts has read are within the limit. -/
theorem upkeep_keeps_pace (injective : Function.Injective K.keccak256) {d : Deployment Bytes32}
    (deployed : constructor K d = .ok w) (thread : UpkeepThread Bytes32)
    (actions : List (UpkeepAction Bytes32)) :
    let r := (UpkeepRun.start w).run K thread actions
    let p := r.provider thread
    (∀ block ∈ r.blocks, ∀ n v,
      thread.state.Serves K (block.state.providers thread.providerAddress) →
      necessaryUpdate K thread.state (block.state.providers thread.providerAddress) = some (n, v) →
      p.originalCommitmentSequenceNumber =
        (block.state.providers thread.providerAddress).originalCommitmentSequenceNumber →
      (∃ w', advanceProviderCommitment K r.config.world thread.providerAddress n v = .ok w') ∨
        n ≤ p.currentCommitmentSequenceNumber ∧
          advanceProviderCommitment K r.config.world thread.providerAddress n v =
            .error .updateTooOld) ∧
    ∀ read, r.lastRead = some read → thread.state.Serves K read → read.maxNumHashes ≠ 0 →
      p.Within read →
      ∀ msg u gasLimit, requestV2 K r.config.world msg thread.providerAddress u gasLimit ≠
        .error .lastRevealedTooOld := by
  intro r p
  have holds : r.Sound K thread := (UpkeepRun.start_sound deployed).run injective actions
  refine ⟨fun block member n v serves update same => ?_, fun read last serves limited within msg
    u gasLimit rejected => ?_⟩
  · obtain ⟨_, fits⟩ := (holds.blocks block member).fits injective serves same update
    rcases advance_of_fits injective (holds.reach.chainSound injective) fits with
      ⟨_, accepted⟩ | ⟨old, rejected⟩
    · exact .inl ⟨_, accepted⟩
    · exact .inr ⟨old, rejected⟩
  · have far : p.maxNumHashes < p.sequenceNumber - p.currentCommitmentSequenceNumber :=
      requestV2_tooOld rejected
    have close : read.sequenceNumber ≤ p.currentCommitmentSequenceNumber +
        max (updateCommitmentsThreshold read.maxNumHashes) 1 := by
      by_cases registered : read.sequenceNumber = 0
      · rw [registered]
        exact Nat.zero_le _
      · obtain ⟨w, came, caughtUp⟩ := holds.lastRead read last registered
        have becomes := came.becomes injective thread (caughtUp.becomes.registered registered)
        exact (caughtUp.later becomes).close serves limited
    unfold ProviderInfo.Within at within
    omega

end Running

namespace Sample

theorem fromKeeper_unpaid : (msg user 0 user_ne_zero).value = 0 := rfl

/-- The keeper of the deployed chain. -/
def upkeepThread : UpkeepThread Sym := ⟨msg user 0 user_ne_zero, fromKeeper_unpaid, provider, keeperState⟩

/-- Under a limit of two, the transaction of a first pass is lost. A second one reads the state after the
first request and ends after the second. -/
def latePass : List (UpkeepAction Sym) :=
  [.contract (fromProvider (.setMaxNumHashes 2)), .contract (request 1), .pass 0 false,
    .contract (request 2), .pass 1 true]

end Sample

/-- What the second pass sends is accepted, and then the third request is made. Without this pass it is
refused. -/
theorem upkeep_keeps_pace_latePass :
    let before := (UpkeepRun.start Sample.world).run symbolic Sample.upkeepThread
      (Sample.latePass.take 4)
    let r := (UpkeepRun.start Sample.world).run symbolic Sample.upkeepThread Sample.latePass
    (∃ w', advanceProviderCommitment symbolic before.config.world Sample.provider 1 (Sample.value 1) =
        .ok w') ∧
      (∀ msg u gasLimit, requestV2 symbolic r.config.world msg Sample.provider u gasLimit ≠
        .error .lastRevealedTooOld) ∧
      requestV2 symbolic (Sample.after (Sample.limitOfTwo ++ [Sample.request 2])).world
        (Sample.msg Sample.user 10 Sample.user_ne_zero) Sample.provider (Sample.contribution 3) 0 =
          .error .lastRevealedTooOld := by
  intro before r
  have serves : Sample.keeperState.Serves symbolic
      ((Sample.after Sample.limitOfTwo).world.state.providers Sample.provider) :=
    Sample.keeperState_serves (by decide +kernel) (by decide +kernel) (by decide +kernel)
  have block : (Sample.after Sample.limitOfTwo).world ∈ before.blocks := .tail _ (.head _)
  have read : r.lastRead =
      some ((Sample.after Sample.limitOfTwo).world.state.providers Sample.provider) := rfl
  refine ⟨?_, (upkeep_keeps_pace symbolic_injective Sample.deployed Sample.upkeepThread
    Sample.latePass).2 _ read serves (by decide +kernel) ?_, rfl⟩
  · have sent := (upkeep_keeps_pace symbolic_injective Sample.deployed Sample.upkeepThread
      (Sample.latePass.take 4)).1 _ block 1 (Sample.value 1) serves (by decide +kernel)
      (by decide +kernel)
    rcases sent with accepted | ⟨old, _⟩
    · exact accepted
    · exact absurd old (by decide +kernel)
  · unfold ProviderInfo.Within
    decide +kernel

end Dice
