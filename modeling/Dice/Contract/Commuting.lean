/-
**Reveals in any order.**

* `attempt` — a whole call whose message call is answered without calls of its own.
* `Revelation` — an active request with the contributions that open it; `Move` — a reveal of one, or an
  advancement to its number, which is skipped when it is too old.
* `Delivered` — what a reveal does: it raises the provider's commitment, settles its request and
  announces its random number. An advancement raises the commitment as well, and does nothing else.
* `ProviderInfo.Fits` — a number that can be advanced to unless it is too old; it keeps fitting while the
  commitment rises.
* `Moved`, `Ran` — what one move does, and what a list of them does.
* `reveals_commute` — all moves succeed in every order, and leave the same provider and the same
  random numbers.

The commitment is a mark that only rises, and a sequence number has one chain value, so only the set of
the numbers matters.
-/

import Dice.Contract.Chains
import Dice.Contract.Retries
import Dice.Contract.Transactions
import Dice.Library.HighWater
import Mathlib.Data.List.Nodup
import Mathlib.Data.Nat.Basic

set_option linter.unusedSectionVars false

namespace Dice

open HashChain (IsLink)

variable {Bytes32 : Type} (K : Keccak Bytes32) [DecidableEq Bytes32]

/-! ### Calls without nested calls -/

/-- A call and the reply to its message call, if it makes one: what it leaves, or why it reverts. -/
def attempt (m : Message Bytes32) (reply : CallResult) (w : World Bytes32) :
    Except Revert (World Bytes32) :=
  match start K m w with
  | .reverted error => .error error
  | .done w' => .ok w'
  | .calling w₁ pending => resume K pending reply w₁

/-- A request with the contributions that open it. -/
structure Revelation (Bytes32 : Type) where
  sequenceNumber : ℕ
  userContribution : Bytes32
  providerContribution : Bytes32
  deriving DecidableEq

/-- Who submits a reveal, the gas it reads, the code size of the requester, and its reply. -/
structure Submission where
  msg : Msg
  startingGas : ℕ
  endingGas : ℕ
  len : ℕ
  reply : CallResult

/-- The callback succeeds. Gas only falls, and the count of it fits 32 bits. -/
structure Submission.Succeeds (submission : Submission) : Prop where
  unpaid : submission.msg.value = 0
  success : submission.reply.success = true
  fits : GasFits submission.startingGas submission.reply
  spent : submission.endingGas ≤ submission.startingGas
  counted : submission.startingGas - submission.endingGas < 2 ^ 32

/-- The sequence number, and the value of the provider's chain there. -/
def Revelation.place (r : Revelation Bytes32) : HighWater.Mark ℕ Bytes32 :=
  ⟨r.sequenceNumber, r.providerContribution⟩

/-- The random number of a request without a block hash. -/
def Revelation.randomNumber (r : Revelation Bytes32) : Bytes32 :=
  combineRandomValues K r.userContribution r.providerContribution (K.word 0)

/-- What a reveal of it announces. -/
def Revelation.announcement (r : Revelation Bytes32) : ℕ × Bytes32 :=
  (r.sequenceNumber, r.randomNumber K)

/-- The request is active, and the contributions open it. -/
structure Revelation.Opens (w : World Bytes32) (provider : Address) (r : Revelation Bytes32)
    (req : Request Bytes32) : Prop where
  found : w.state.lookup K (provider, r.sequenceNumber) = some req
  opens : K.keccak256 [constructUserCommitment K r.userContribution,
    constructProviderCommitment K req.numHashes r.providerContribution] = req.commitment

/-- Also, no callback of it is in progress. -/
structure Revelation.Ready (w : World Bytes32) (provider : Address) (r : Revelation Bytes32)
    (req : Request Bytes32) : Prop extends r.Opens K w provider req where
  idle : req.callbackStatus ≠ .inProgress

/-- A reveal, or an advancement to the number of a request. -/
inductive Move (Bytes32 : Type) where
  | reveal (r : Revelation Bytes32) (submission : Submission)
  | advance (r : Revelation Bytes32) (msg : Msg)

namespace Move

/-- The request that a move reveals. -/
def revealed : Move Bytes32 → Option (Revelation Bytes32)
  | .reveal r _ => some r
  | .advance _ _ => none

def revelation : Move Bytes32 → Revelation Bytes32
  | .reveal r _ => r
  | .advance r _ => r

/-- What is asked of the environment. -/
def Proper : Move Bytes32 → Prop
  | .reveal _ submission => submission.Succeeds
  | .advance _ msg => msg.value = 0

/-- A move. An advancement that is too old is skipped; it makes no message call. -/
def execute (provider : Address) (w : World Bytes32) : Move Bytes32 → Except Revert (World Bytes32)
  | .reveal r submission =>
      attempt K ⟨submission.msg, .revealWithCallback provider r.sequenceNumber r.userContribution
        r.providerContribution submission.startingGas submission.endingGas submission.len⟩
        submission.reply w
  | .advance r msg =>
      match attempt K ⟨msg, .advanceProviderCommitment provider r.sequenceNumber
          r.providerContribution⟩ ⟨true, [], 0⟩ w with
      | .error .updateTooOld => .ok w
      | outcome => outcome

/-- All moves of a list, until one fails. -/
def executeAll (provider : Address) :
    World Bytes32 → List (Move Bytes32) → Except Revert (World Bytes32)
  | w, [] => .ok w
  | w, move :: moves => do
      let w' ← move.execute K provider w
      executeAll provider w' moves

end Move

/-- The random number that an entry of the history announces for a request of the provider. -/
def Entry.announced (provider : Address) : Entry Bytes32 → Option (ℕ × Bytes32)
  | .emitted (.revealed other _ n randomNumber _ _ _ _ _) =>
      if other = provider then some (n, randomNumber) else none
  | _ => none

/-- The random numbers that were announced, the last one first. -/
def World.announced (w : World Bytes32) (provider : Address) : List (ℕ × Bytes32) :=
  w.history.filterMap (Entry.announced provider)

section Announcements

variable (w : World Bytes32) (provider : Address)

@[simp] theorem announced_setState (s : State Bytes32) :
    (w.setState s).announced provider = w.announced provider := rfl

@[simp] theorem announced_record (entry : Entry Bytes32) :
    (w.record entry).announced provider =
      (entry.announced provider).toList ++ w.announced provider := by
  unfold World.announced
  rw [World.record_history, List.filterMap_cons]
  cases entry.announced provider <;> rfl

@[simp] theorem announced_emit (event : Event Bytes32) :
    (w.emit event).announced provider =
      ((Entry.emitted event).announced provider).toList ++ w.announced provider :=
  announced_record w provider _

@[simp] theorem announced_accepted (other : Address) (n : ℕ) (v : Bytes32) :
    (w.accepted other n v).announced provider = w.announced provider :=
  announced_record _ _ _

@[simp] theorem announced_cleared (other : Address) (n : ℕ) :
    (w.cleared K other n).announced provider = w.announced provider := rfl

end Announcements

/-! ### One reveal -/

/-- **What a reveal does.** -/
structure Delivered (w : World Bytes32) (provider : Address) (r : Revelation Bytes32)
    (w' : World Bytes32) : Prop where
  providers : w'.state.providers =
    (w.accepted provider r.sequenceNumber r.providerContribution).state.providers
  lookup : w'.state.lookup K = Function.update (w.state.lookup K) (provider, r.sequenceNumber) none
  announced : w'.announced provider = r.announcement K :: w.announced provider

section Reveals

variable {K} {w w' : World Bytes32} {provider : Address} {r : Revelation Bytes32}
variable {req : Request Bytes32} {submission : Submission}

theorem Revelation.Ready.checks (sound : Sound K w) (ready : r.Ready K w provider req) :
    RevealChecks K w provider r.sequenceNumber r.userContribution r.providerContribution req ∧
      (req.callbackStatus = .notStarted ∨ req.callbackStatus = .failed) := by
  have plain := sound.noBlockhash ready.found
  have opened := ready.opens
  rw [constructProviderCommitment_eq] at opened
  refine ⟨⟨ready.found, opened, fun uses => ?_⟩, ?_⟩
  · rw [plain] at uses
    cases uses
  · cases status : req.callbackStatus with
    | notNecessary => exact absurd status (sound.withCallback ready.found)
    | notStarted => exact .inl rfl
    | inProgress => exact absurd status ready.idle
    | failed => exact .inr rfl

/-- Active requests use no block hash. -/
theorem Revelation.Ready.randomNumber (sound : Sound K w) (ready : r.Ready K w provider req) :
    revealedNumber K w req r.userContribution r.providerContribution = r.randomNumber K := by
  unfold revealedNumber Revelation.randomNumber
  rw [sound.noBlockhash ready.found]
  rfl

/-- A reveal that passes the checks does not revert before its callback. -/
theorem reveal_not_reverted (sound : Sound K w) (ready : r.Ready K w provider req)
    (succeeds : submission.Succeeds) (error : Revert) :
    start K ⟨submission.msg, .revealWithCallback provider r.sequenceNumber r.userContribution
      r.providerContribution submission.startingGas submission.endingGas submission.len⟩ w ≠
        .reverted error := by
  intro reverted
  obtain ⟨checks, status⟩ := ready.checks sound
  obtain ⟨⟨w₀, ref, random⟩, passed⟩ := revealWithCallbackChecks_of checks status
  unfold start at reverted
  rw [if_neg fun paid => paid.1 succeeds.unpaid] at reverted
  simp only [revealWithCallback, passed] at reverted
  split at reverted
  · cases reverted
  · split at reverted
    · cases reverted
    · have gas : (do toUint 32 (← checkedSub submission.startingGas submission.endingGas) :
          Except Revert ℕ) = .ok (submission.startingGas - submission.endingGas) :=
        bind_ok.mpr ⟨_, checkedSub_ok.mpr ⟨succeeds.spent, rfl⟩,
          toUint_ok.mpr ⟨succeeds.counted, rfl⟩⟩
      rw [gas] at reverted
      cases reverted

/-- A reveal of a request whose requester has no code. -/
theorem delivered_of_done (sound : Sound K w) (ready : r.Ready K w provider req)
    (started : start K ⟨submission.msg, .revealWithCallback provider r.sequenceNumber
      r.userContribution r.providerContribution submission.startingGas submission.endingGas
      submission.len⟩ w = .done w') : Delivered K w provider r w' := by
  obtain ⟨_, req', checks, rfl⟩ := noCallback_of_done started
  obtain rfl := checks.req_eq ready.found
  have sound' := (accepted_evolves sound provider r.sequenceNumber r.providerContribution).1
  refine ⟨rfl, lookup_of_removed sound'.wf rfl, ?_⟩
  simp [Entry.announced, Revelation.announcement, ready.randomNumber sound]

/-- A reveal in the gas-limited branch, with a successful callback. -/
theorem delivered_of_limited (sound : Sound K w) (ready : r.Ready K w provider req)
    {m : Message Bytes32} {w₁ : World Bytes32} {ref : RequestRef Bytes32} {startingGas : ℕ}
    {random : Bytes32} {reply : CallResult}
    (calls : Calls K m w w₁ (.limited ref provider r.sequenceNumber r.userContribution
      r.providerContribution random startingGas)) (success : reply.success = true)
    (fits : GasFits startingGas reply) :
    ∃ w', resume K (.limited ref provider r.sequenceNumber r.userContribution
      r.providerContribution random startingGas) reply w₁ = .ok w' ∧ Delivered K w provider r w' := by
  obtain ⟨w', resumed⟩ : ∃ w', resume K (.limited ref provider r.sequenceNumber r.userContribution
      r.providerContribution random startingGas) reply w₁ = .ok w' :=
    ⟨_, bind_ok.mpr ⟨_, checkedSub_ok.mpr ⟨fits.1, rfl⟩, bind_ok.mpr ⟨_,
      toUint_ok.mpr ⟨fits.2, rfl⟩, if_pos success⟩⟩⟩
  refine ⟨w', resumed, ?_⟩
  have lookup := lookup_of_delivered sound calls success (resume_ok calls.proper resumed)
  cases resume_ok calls.proper resumed with
  | limitedFailed failure _ _ _ =>
    rw [success] at failure
    cases failure
  | limitedDelivered _ _ _ =>
    cases calls with
    | @limited _ _ _ _ _ _ _ req' call checks _ _ =>
      obtain rfl := checks.req_eq ready.found
      refine ⟨rfl, lookup, ?_⟩
      simp [Entry.announced, Revelation.announcement, ready.randomNumber sound]

/-- A reveal in the other branch, with a successful callback. -/
theorem delivered_of_unlimited (sound : Sound K w) (ready : r.Ready K w provider req)
    {m : Message Bytes32} {w₁ : World Bytes32} {callAddress : Address} {startingGas : ℕ}
    {random : Bytes32} {reply : CallResult}
    (calls : Calls K m w w₁ (.unlimited callAddress provider r.sequenceNumber r.userContribution
      r.providerContribution random startingGas)) (success : reply.success = true)
    (fits : GasFits startingGas reply) :
    ∃ w', resume K (.unlimited callAddress provider r.sequenceNumber r.userContribution
      r.providerContribution random startingGas) reply w₁ = .ok w' ∧ Delivered K w provider r w' := by
  have answers : (Pending.unlimited callAddress provider r.sequenceNumber r.userContribution
      r.providerContribution random startingGas).Answers provider r.sequenceNumber
        r.userContribution r.providerContribution startingGas := .unlimited
  obtain ⟨w', resumed⟩ := unlimited_ok (K := K) w₁ answers id fits
  refine ⟨w', resumed, ?_⟩
  cases resume_ok calls.proper resumed with
  | unlimitedFailed failure _ _ =>
    rw [success] at failure
    cases failure
  | unlimitedDelivered _ _ _ =>
    cases calls with
    | @unlimited _ _ _ _ _ _ _ req' call checks _ _ =>
      obtain rfl := checks.req_eq ready.found
      have sound' := (accepted_evolves sound provider r.sequenceNumber r.providerContribution).1
      refine ⟨rfl, lookup_of_removed sound'.wf rfl, ?_⟩
      simp [Entry.announced, Revelation.announcement, ready.randomNumber sound]

/-- **A correct reveal succeeds.** -/
theorem reveal_delivered (sound : Sound K w) (ready : r.Ready K w provider req)
    (succeeds : submission.Succeeds) :
    ∃ w', (Move.reveal r submission).execute K provider w = .ok w' ∧
      Delivered K w provider r w' := by
  show ∃ w', attempt K _ _ w = .ok w' ∧ _
  unfold attempt
  split
  · next error reverted => exact absurd reverted (reveal_not_reverted sound ready succeeds error)
  · next w' started => exact ⟨w', rfl, delivered_of_done sound ready started⟩
  · next w₁ pending started =>
    have calls := start_calling started
    have whole := calls
    cases calls with
    | limited call _ _ _ =>
      cases call
      exact delivered_of_limited sound ready whole succeeds.success succeeds.fits
    | unlimited call _ _ _ =>
      cases call
      exact delivered_of_unlimited sound ready whole succeeds.success succeeds.fits
    | refund call _ _ _ _ => cases call
    | withdrawal call _ _ _ => cases call
    | foreign call => cases call

end Reveals

/-! ### The commitment as a mark -/

/-- The current commitment, as a mark on the chain. -/
def ProviderInfo.mark (p : ProviderInfo Bytes32) : HighWater.Mark ℕ Bytes32 :=
  ⟨p.currentCommitmentSequenceNumber, p.currentCommitment⟩

def ProviderInfo.withMark (p : ProviderInfo Bytes32) (mark : HighWater.Mark ℕ Bytes32) :
    ProviderInfo Bytes32 :=
  { p with
    currentCommitmentSequenceNumber := mark.position
    currentCommitment := mark.value }

omit [DecidableEq Bytes32] in
/-- A reveal raises the mark. -/
theorem ProviderInfo.revealedAt_eq (p : ProviderInfo Bytes32) (r : Revelation Bytes32) :
    p.revealedAt r.sequenceNumber r.providerContribution = p.withMark (p.mark.raise r.place) := by
  unfold ProviderInfo.revealedAt HighWater.Mark.raise
  show (if p.currentCommitmentSequenceNumber < r.sequenceNumber then _ else _) =
    p.withMark (if p.currentCommitmentSequenceNumber < r.sequenceNumber then _ else _)
  split
  · rfl
  · rfl

omit [DecidableEq Bytes32] in
/-- So does an advancement to a number that was assigned, and it changes nothing else. -/
theorem ProviderInfo.advancedTo_eq (p : ProviderInfo Bytes32) (r : Revelation Bytes32)
    (newer : p.currentCommitmentSequenceNumber < r.sequenceNumber)
    (used : r.sequenceNumber < p.sequenceNumber) :
    p.advancedTo r.sequenceNumber r.providerContribution = p.withMark (p.mark.raise r.place) := by
  have raised : p.mark.raise r.place = r.place := if_pos newer
  have kept : max p.sequenceNumber (r.sequenceNumber + 1) = p.sequenceNumber := Nat.max_eq_left used
  rw [raised]
  unfold ProviderInfo.advancedTo
  rw [kept]
  rfl

/-- A number that is assigned and not far ahead of the current commitment, with the value of the chain
there. -/
structure ProviderInfo.Fits (p : ProviderInfo Bytes32) (n : ℕ) (v : Bytes32) : Prop where
  used : n < p.sequenceNumber
  near : n < p.currentCommitmentSequenceNumber + 2 ^ 32
  linked : p.originalCommitmentSequenceNumber ≤ n →
    IsLink (chainHash K) p.originalCommitment (n - p.originalCommitmentSequenceNumber) v

/-- What is known of a request whatever becomes of it. -/
def Revelation.Fits (p : ProviderInfo Bytes32) (r : Revelation Bytes32) : Prop :=
  p.Fits K r.sequenceNumber r.providerContribution

/-- **The invariant**: the numbers that were assigned are not far ahead of the current commitment. -/
def World.Near (w : World Bytes32) : Prop :=
  ∀ provider, (w.state.providers provider).sequenceNumber ≤
    (w.state.providers provider).currentCommitmentSequenceNumber + 2 ^ 32

section Marks

variable {K} {w w' : World Bytes32} {provider : Address} {r : Revelation Bytes32}

omit [DecidableEq Bytes32] in
theorem Revelation.Fits.raise {p : ProviderInfo Bytes32} (fits : r.Fits K p)
    (place : HighWater.Mark ℕ Bytes32) : r.Fits K (p.withMark (p.mark.raise place)) where
  used := fits.used
  near := by
    have risen := HighWater.Mark.le_raise p.mark place
    exact Nat.lt_of_lt_of_le fits.near (Nat.add_le_add_right risen _)
  linked := fits.linked

omit [DecidableEq Bytes32] in
theorem World.Near.same (near : w.Near) (providers : w'.state.providers = w.state.providers) :
    w'.Near := by
  intro provider
  rw [providers]
  exact near provider

/-- One provider's record is rewritten. -/
theorem World.Near.setProvider (near : w.Near) {info : ProviderInfo Bytes32}
    (providers : w'.state.providers = (w.state.setProvider provider info).providers)
    (here : info.sequenceNumber ≤ info.currentCommitmentSequenceNumber + 2 ^ 32) : w'.Near := by
  intro other
  rw [providers, State.setProvider_providers]
  split
  · exact here
  · exact near other

omit [DecidableEq Bytes32] in
theorem ProviderInfo.le_revealedAt (p : ProviderInfo Bytes32) (n : ℕ) (v : Bytes32) :
    p.currentCommitmentSequenceNumber ≤ (p.revealedAt n v).currentCommitmentSequenceNumber := by
  unfold ProviderInfo.revealedAt
  split
  · next later => exact Nat.le_of_lt later
  · exact Nat.le_refl _

theorem World.Near.effect (near : w.Near) (effect : ChainEffect K w w') : w'.Near := by
  cases effect with
  | quiet quiet => exact near.same quiet.providers
  | @accepted provider n u v req _ checks quiet =>
    have accepted : (w.accepted provider n v).Near := by
      refine near.setProvider rfl ?_
      have rises := ProviderInfo.le_revealedAt (w.state.providers provider) n v
      rw [ProviderInfo.revealedAt_sequenceNumber]
      exact Nat.le_trans (near provider) (Nat.add_le_add_right rises _)
    exact accepted.same quiet.providers
  | rotated checks => exact near.setProvider rfl (Nat.add_le_add_left (by decide) _)
  | @requested msg provider u gasLimit gasLimit10k checks =>
    refine near.setProvider rfl ?_
    have distance := checks.distance
    have ordered := checks.ordered
    show (w.state.providers provider).sequenceNumber + 1 ≤
      (w.state.providers provider).currentCommitmentSequenceNumber + 2 ^ 32
    omega
  | @advanced provider n v checks =>
    refine near.setProvider rfl (Nat.max_le.mpr ⟨?_, Nat.add_le_add_left (by decide) _⟩)
    exact Nat.le_trans (near provider) (Nat.add_le_add_right (Nat.le_of_lt checks.newer) _)
  | @configured provider _ _ _ chain _ =>
    refine near.setProvider rfl ?_
    rw [chain.sequenceNumber, chain.currentSequenceNumber]
    exact near provider

/-- Before anything is requested. -/
theorem constructor_near {d : Deployment Bytes32} (deployed : constructor K d = .ok w) : w.Near := by
  have empty : (d.world K).Near := fun _ => Nat.zero_le _
  rcases (constructor_ok deployed).2 with ⟨_, rfl⟩ | ⟨_, rfl⟩
  · exact empty
  · refine empty.setProvider rfl ?_
    show 1 ≤ 0 + 2 ^ 32
    decide

theorem near_rely (guard : Message Bytes32 → World Bytes32 → Prop) :
    CallStack.Rely (dice K) guard (Sound K) (Evolves K) World.Near fun _ _ => True :=
  rely_of_chainEffect (fun _ near effect => near.effect effect) fun near => near

theorem Reachable.near {c : Config Bytes32} (reach : Reachable K anyCall c) : c.world.Near :=
  (reach.holds (near_rely anyCall) constructor_near).1.2

/-- A request that can be revealed fits the provider's chain. -/
theorem Revelation.Opens.fits (injective : Function.Injective K.keccak256) {c : Config Bytes32}
    (reach : Reachable K anyCall c) {req : Request Bytes32} (opens : r.Opens K c.world provider req) :
    r.Fits K (c.world.state.providers provider) := by
  have chains := reach.chainSound injective
  have near := reach.near
  have sound := reach.sound
  have opened := opens.opens
  rw [constructProviderCommitment_eq] at opened
  have checks : RevealChecks K c.world provider r.sequenceNumber r.userContribution
      r.providerContribution req := by
    refine ⟨opens.found, opened, fun uses => ?_⟩
    rw [sound.noBlockhash opens.found] at uses
    cases uses
  have used : r.sequenceNumber < (c.world.state.providers provider).sequenceNumber :=
    sound.used opens.found
  exact ⟨used, Nat.lt_of_lt_of_le used (near provider),
    fun current => revealed_linked injective chains checks current⟩

end Marks

/-! ### One move -/

/-- An advancement that passes its checks, to a number that was assigned. -/
theorem advanceProviderCommitment_of {K : Keccak Bytes32} {w : World Bytes32} {provider : Address}
    {n : ℕ} {v : Bytes32} (checks : AdvanceChecks K w provider n v)
    (used : n < (w.state.providers provider).sequenceNumber) :
    advanceProviderCommitment K w provider n v = .ok (w.advanced provider n v) := by
  unfold advanceProviderCommitment
  have opens := checks.opens
  rw [← constructProviderCommitment_eq] at opens
  have bumped : bumpedSequenceNumber (w.state.providers provider) n =
      .ok (w.state.providers provider).sequenceNumber := if_neg (Nat.not_le.mpr used)
  have kept : max (w.state.providers provider).sequenceNumber (n + 1) =
      (w.state.providers provider).sequenceNumber := Nat.max_eq_left used
  refine bind_ok.mpr ⟨(), revertIf_ok.mpr (Nat.not_le.mpr checks.newer),
    bind_ok.mpr ⟨(), revertIf_ok.mpr (Nat.not_le.mpr checks.inside),
    bind_ok.mpr ⟨_, toUint_ok.mpr ⟨checks.distance, rfl⟩,
    bind_ok.mpr ⟨(), revertIf_ok.mpr (not_not.mpr opens), bind_ok.mpr ⟨_, bumped, ?_⟩⟩⟩⟩⟩
  unfold World.advanced ProviderInfo.advancedTo
  rw [kept]
  rfl

/-- A number that fits can be advanced to, unless it is too old. -/
theorem ProviderInfo.Fits.checks {K : Keccak Bytes32} {w : World Bytes32} {provider : Address} {n : ℕ}
    {v : Bytes32} (injective : Function.Injective K.keccak256) (chains : ChainSound K w)
    (fits : (w.state.providers provider).Fits K n v)
    (newer : (w.state.providers provider).currentCommitmentSequenceNumber < n) :
    AdvanceChecks K w provider n v := by
  have used := fits.used
  have near := fits.near
  have ordered := chains.ordered provider (Nat.ne_of_gt (Nat.zero_lt_of_lt used))
  have before := ordered.original_le
  refine ⟨newer, Nat.lt_of_lt_of_le used ordered.sequence_le, by omega, ?_⟩
  have linked := fits.linked (by omega)
  have steps : n - (w.state.providers provider).originalCommitmentSequenceNumber =
      (w.state.providers provider).currentCommitmentSequenceNumber -
        (w.state.providers provider).originalCommitmentSequenceNumber +
      (n - (w.state.providers provider).currentCommitmentSequenceNumber) := by omega
  rw [steps] at linked
  exact ordered.linked.above (chainHash_injective injective) linked

/-- A whole call is two steps of the component, or one. -/
theorem attempt_reachable {K : Keccak Bytes32} {w w' : World Bytes32} {m : Message Bytes32}
    {reply : CallResult} {frames : List (CallStack.Frame (World Bytes32) (Pending Bytes32))}
    (reach : Reachable K anyCall ⟨w, frames⟩) (attempted : attempt K m reply w = .ok w') :
    Reachable K anyCall ⟨w', frames⟩ := by
  have called := reach.step K (.call m) trivial
  unfold attempt at attempted
  split at attempted
  · cases attempted
  · next finished started =>
    cases attempted
    rw [CallStack.Component.step_done started] at called
    exact called
  · next w₁ pending started =>
    rw [CallStack.Component.step_calling started] at called
    have returned := called.step K (.ret reply) trivial
    have here : (dice K).resumeWorld ⟨w, w₁, pending⟩ reply w₁ = w₁ := ite_self _
    have resumed : (dice K).resume pending reply
        ((dice K).resumeWorld ⟨w, w₁, pending⟩ reply w₁) = .ok w' := by
      rw [here]
      exact attempted
    have finished : (dice K).finish ⟨w, w₁, pending⟩ reply w₁ = w' :=
      CallStack.Component.finish_ok resumed
    rw [← finished]
    exact returned

/-- **What a move does.** -/
structure Moved (w : World Bytes32) (provider : Address) (move : Move Bytes32)
    (w' : World Bytes32) : Prop where
  raised : w'.state.providers provider = (w.state.providers provider).withMark
    ((w.state.providers provider).mark.raise move.revelation.place)
  settled : ∀ r, move.revealed = some r → w'.state.lookup K (provider, r.sequenceNumber) = none
  others : ∀ key, (∀ r, move.revealed = some r → key ≠ (provider, r.sequenceNumber)) →
    w'.state.lookup K key = w.state.lookup K key
  announced : w'.announced provider =
    (move.revealed.map (Revelation.announcement K)).toList ++ w.announced provider

/-- **What a list of moves does.** -/
structure Ran (w : World Bytes32) (provider : Address) (moves : List (Move Bytes32))
    (w' : World Bytes32) : Prop where
  raised : w'.state.providers provider = (w.state.providers provider).withMark
    ((w.state.providers provider).mark.raiseAll (moves.map fun move => move.revelation.place))
  settled : ∀ r ∈ moves.filterMap Move.revealed,
    w'.state.lookup K (provider, r.sequenceNumber) = none
  others : ∀ key, (∀ r ∈ moves.filterMap Move.revealed, key ≠ (provider, r.sequenceNumber)) →
    w'.state.lookup K key = w.state.lookup K key
  announced : w'.announced provider =
    ((moves.filterMap Move.revealed).map (Revelation.announcement K)).reverse ++ w.announced provider

section Moves

variable {K} {w w' : World Bytes32} {provider : Address} {r : Revelation Bytes32}
variable {frames : List (CallStack.Frame (World Bytes32) (Pending Bytes32))}

theorem Delivered.moved (delivered : Delivered K w provider r w') (submission : Submission) :
    Moved K w provider (.reveal r submission) w' where
  raised := by
    rw [delivered.providers]
    show (w.state.setProvider provider _).providers provider = _
    rw [State.setProvider_providers, if_pos rfl]
    exact ProviderInfo.revealedAt_eq _ r
  settled other revealed := by
    cases revealed
    rw [delivered.lookup, Function.update_self]
  others key other := by
    rw [delivered.lookup, Function.update_of_ne (other r rfl)]
  announced := delivered.announced

/-- A mark is not raised to a place that it has passed. -/
theorem moved_of_tooOld {msg : Msg}
    (tooOld : r.sequenceNumber ≤ (w.state.providers provider).currentCommitmentSequenceNumber) :
    Moved K w provider (.advance r msg) w where
  raised := by
    have stays : (w.state.providers provider).mark.raise r.place = (w.state.providers provider).mark :=
      if_neg (Nat.not_lt.mpr tooOld)
    show _ = (w.state.providers provider).withMark ((w.state.providers provider).mark.raise r.place)
    rw [stays]
    rfl
  settled _ revealed := by cases revealed
  others _ _ := rfl
  announced := rfl

theorem moved_of_advanced {msg : Msg} (fits : r.Fits K (w.state.providers provider))
    (newer : (w.state.providers provider).currentCommitmentSequenceNumber < r.sequenceNumber) :
    Moved K w provider (.advance r msg) (w.advanced provider r.sequenceNumber r.providerContribution)
    where
  raised := by
    show (w.state.setProvider provider _).providers provider = _
    rw [State.setProvider_providers, if_pos rfl]
    exact ProviderInfo.advancedTo_eq _ r newer fits.used
  settled _ revealed := by cases revealed
  others key _ := congrFun (State.lookup_congr rfl) key
  announced := announced_record _ _ _

/-- An advancement to a number whose revelation fits. -/
theorem advance_moved (injective : Function.Injective K.keccak256)
    (reach : Reachable K anyCall ⟨w, frames⟩) {msg : Msg} (unpaid : msg.value = 0)
    (fits : r.Fits K (w.state.providers provider)) :
    ∃ w', (Move.advance r msg).execute K provider w = .ok w' ∧ Reachable K anyCall ⟨w', frames⟩ ∧
      Moved K w provider (.advance r msg) w' := by
  have started : start K ⟨msg, .advanceProviderCommitment provider r.sequenceNumber
      r.providerContribution⟩ w = atomically (advanceProviderCommitment K w provider
        r.sequenceNumber r.providerContribution) := if_neg fun paid => paid.1 unpaid
  by_cases tooOld : r.sequenceNumber ≤
      (w.state.providers provider).currentCommitmentSequenceNumber
  · refine ⟨w, ?_, reach, moved_of_tooOld tooOld⟩
    have rejected : advanceProviderCommitment K w provider r.sequenceNumber r.providerContribution =
        .error .updateTooOld := by
      unfold advanceProviderCommitment
      show (revertIf _ _ >>= _) = _
      unfold revertIf
      rw [if_pos tooOld]
      rfl
    simp only [Move.execute, attempt, started, rejected, atomically]
  · have newer := Nat.lt_of_not_le tooOld
    have chains := reach.chainSound injective
    have accepted := advanceProviderCommitment_of (fits.checks injective chains newer) fits.used
    have attempted : attempt K ⟨msg, .advanceProviderCommitment provider r.sequenceNumber
        r.providerContribution⟩ ⟨true, [], 0⟩ w =
          .ok (w.advanced provider r.sequenceNumber r.providerContribution) := by
      unfold attempt
      rw [started, accepted]
      rfl
    refine ⟨_, ?_, attempt_reachable reach attempted, moved_of_advanced fits newer⟩
    simp only [Move.execute, attempted]

/-- **One move.** -/
theorem Move.execute_ok (injective : Function.Injective K.keccak256)
    (reach : Reachable K anyCall ⟨w, frames⟩) {move : Move Bytes32} (proper : move.Proper)
    (fits : move.revelation.Fits K (w.state.providers provider))
    (ready : ∀ r, move.revealed = some r → ∃ req, r.Ready K w provider req) :
    ∃ w', move.execute K provider w = .ok w' ∧ Reachable K anyCall ⟨w', frames⟩ ∧
      Moved K w provider move w' := by
  cases move with
  | reveal r submission =>
    obtain ⟨req, ready⟩ := ready r rfl
    obtain ⟨w', executed, delivered⟩ := reveal_delivered reach.sound ready proper
    exact ⟨w', executed, attempt_reachable reach executed, delivered.moved submission⟩
  | advance r msg => exact advance_moved injective reach proper fits

/-! ### All moves -/

/-- What a list of moves reveals. -/
theorem revealed_cons (move : Move Bytes32) (moves : List (Move Bytes32)) :
    (move :: moves).filterMap Move.revealed =
      move.revealed.toList ++ moves.filterMap Move.revealed := by
  rw [List.filterMap_cons]
  cases move.revealed <;> rfl

/-- The first request that is revealed is not revealed again. -/
theorem distinct_cons {move : Move Bytes32} {moves : List (Move Bytes32)}
    (distinct : (((move :: moves).filterMap Move.revealed).map Revelation.sequenceNumber).Nodup) :
    (∀ r ∈ moves.filterMap Move.revealed, ∀ first, move.revealed = some first →
      r.sequenceNumber ≠ first.sequenceNumber) ∧
      ((moves.filterMap Move.revealed).map Revelation.sequenceNumber).Nodup := by
  rw [revealed_cons, List.map_append, List.nodup_append] at distinct
  obtain ⟨_, distinct, apart⟩ := distinct
  refine ⟨fun r member first revealed same => ?_, distinct⟩
  refine apart first.sequenceNumber ?_ r.sequenceNumber (List.mem_map_of_mem member) same.symm
  rw [revealed]
  exact List.mem_singleton_self _

theorem Ran.nil : Ran K w provider [] w where
  raised := rfl
  settled _ member := absurd member List.not_mem_nil
  others _ _ := rfl
  announced := rfl

/-- One move first. -/
theorem Moved.ran {w₁ : World Bytes32} {move : Move Bytes32} {moves : List (Move Bytes32)}
    (moved : Moved K w provider move w₁) (ran : Ran K w₁ provider moves w') :
    Ran K w provider (move :: moves) w' where
  raised := by
    rw [ran.raised, moved.raised]
    rfl
  settled r member := by
    by_cases again : ∃ r' ∈ moves.filterMap Move.revealed, r.sequenceNumber = r'.sequenceNumber
    · obtain ⟨r', member', same⟩ := again
      rw [same]
      exact ran.settled r' member'
    · have kept := ran.others (provider, r.sequenceNumber) fun r' member' same =>
        again ⟨r', member', congrArg Prod.snd same⟩
      rw [revealed_cons] at member
      rcases List.mem_append.mp member with first | later
      · exact kept.trans (moved.settled r (Option.mem_toList.mp first))
      · exact absurd ⟨r, later, rfl⟩ again
  others key other := by
    rw [revealed_cons] at other
    rw [ran.others key fun r member => other r (List.mem_append_right _ member)]
    exact moved.others key fun r revealed =>
      other r (List.mem_append_left _ (Option.mem_toList.mpr revealed))
  announced := by
    rw [ran.announced, moved.announced, revealed_cons, List.map_append, List.reverse_append,
      List.append_assoc]
    cases move.revealed <;> rfl

/-- **A list of moves**, with each request revealed at most once: it succeeds. -/
theorem executeAll_ok (injective : Function.Injective K.keccak256) (moves : List (Move Bytes32)) :
    ∀ {w : World Bytes32}, Reachable K anyCall ⟨w, frames⟩ →
      (∀ move ∈ moves, move.Proper) →
      (∀ move ∈ moves, move.revelation.Fits K (w.state.providers provider)) →
      (∀ r ∈ moves.filterMap Move.revealed, ∃ req, r.Ready K w provider req) →
      ((moves.filterMap Move.revealed).map Revelation.sequenceNumber).Nodup →
      ∃ w', Move.executeAll K provider w moves = .ok w' ∧ Ran K w provider moves w' := by
  induction moves with
  | nil => exact fun _ _ _ _ _ => ⟨_, rfl, .nil⟩
  | cons move moves ih =>
    intro w reach proper fits ready distinct
    have readyFirst : ∀ r, move.revealed = some r → ∃ req, r.Ready K w provider req :=
      fun r revealed => ready r (List.mem_filterMap.mpr ⟨move, List.mem_cons_self, revealed⟩)
    obtain ⟨w₁, executed, reach₁, moved⟩ := move.execute_ok injective reach
      (proper move List.mem_cons_self) (fits move List.mem_cons_self) readyFirst
    have fits₁ : ∀ other ∈ moves, other.revelation.Fits K (w₁.state.providers provider) := by
      intro other member
      rw [moved.raised]
      exact (fits other (List.mem_cons_of_mem _ member)).raise _
    have ready₁ : ∀ r ∈ moves.filterMap Move.revealed, ∃ req, r.Ready K w₁ provider req := by
      intro r member
      obtain ⟨req, readyBefore⟩ := ready r
        (by rw [revealed_cons]; exact List.mem_append_right _ member)
      refine ⟨req, ⟨?_, readyBefore.opens⟩, readyBefore.idle⟩
      rw [moved.others _ fun first revealed same =>
        (distinct_cons distinct).1 r member first revealed (congrArg Prod.snd same)]
      exact readyBefore.found
    obtain ⟨w', executedAll, ran⟩ := ih reach₁
      (fun other member => proper other (List.mem_cons_of_mem _ member)) fits₁ ready₁
      (distinct_cons distinct).2
    exact ⟨w', bind_ok.mpr ⟨w₁, executed, executedAll⟩, moved.ran ran⟩

/-- **An order of the reveals**, with advancements to their numbers between them. -/
structure Schedule (requests : List (Revelation Bytes32)) (moves : List (Move Bytes32)) : Prop where
  reveals : (moves.filterMap Move.revealed).Perm requests
  known : ∀ move ∈ moves, move.revelation ∈ requests
  proper : ∀ move ∈ moves, move.Proper

omit [DecidableEq Bytes32] in
/-- The places that a schedule raises the mark to are those of the requests. -/
theorem Schedule.places {requests : List (Revelation Bytes32)} {moves : List (Move Bytes32)}
    (schedule : Schedule requests moves) (place : HighWater.Mark ℕ Bytes32) :
    (place ∈ moves.map fun move => move.revelation.place) ↔ place ∈ requests.map Revelation.place := by
  rw [List.mem_map, List.mem_map]
  constructor
  · rintro ⟨move, member, rfl⟩
    exact ⟨move.revelation, schedule.known move member, rfl⟩
  · rintro ⟨r, member, rfl⟩
    obtain ⟨move, member, revealed⟩ := List.mem_filterMap.mp (schedule.reveals.mem_iff.mpr member)
    cases move with
    | reveal other submission =>
      cases revealed
      exact ⟨_, member, rfl⟩
    | advance _ _ => cases revealed

omit [DecidableEq Bytes32] in
/-- Requests with different numbers are at different places. -/
theorem places_consistent {requests : List (Revelation Bytes32)}
    (distinct : (requests.map Revelation.sequenceNumber).Nodup) :
    HighWater.Mark.Consistent (requests.map Revelation.place) := by
  intro first place second place' same
  obtain ⟨r, member, rfl⟩ := List.mem_map.mp place
  obtain ⟨r', member', rfl⟩ := List.mem_map.mp place'
  rw [List.inj_on_of_nodup_map distinct member member' same]

omit [DecidableEq Bytes32] in
/-- Wherever the mark ends, it is on the chain. -/
theorem raiseAll_linked {p : ProviderInfo Bytes32} {requests : List (Revelation Bytes32)}
    (ordered : p.Ordered K) (fits : ∀ r ∈ requests, r.Fits K p) :
    IsLink (chainHash K) p.originalCommitment
      ((p.mark.raiseAll (requests.map Revelation.place)).position -
        p.originalCommitmentSequenceNumber)
      (p.mark.raiseAll (requests.map Revelation.place)).value := by
  have isTop := HighWater.Mark.raiseAll_isTop p.mark (requests.map Revelation.place)
  rcases isTop.origin with stays | ⟨member, risen⟩
  · rw [stays]
    exact ordered.linked
  · obtain ⟨r, member, same⟩ := List.mem_map.mp member
    rw [← same] at risen ⊢
    have before := ordered.original_le
    exact (fits r member).linked (Nat.le_of_lt (Nat.lt_of_le_of_lt before risen))

/-- Between transactions no callback is in progress. -/
theorem Revelation.Opens.ready {c : Config Bytes32} (reach : Reachable K anyCall c)
    {req : Request Bytes32} (opens : r.Opens K c.world provider req)
    (idle : c.frames ≠ [] → req.callbackStatus ≠ .inProgress) : r.Ready K c.world provider req := by
  refine ⟨opens, fun inProgress => ?_⟩
  by_cases between : c.frames = []
  · obtain ⟨d, origin, deployed, nested⟩ := reach.nested
    rw [between] at nested
    obtain ⟨before, found, _⟩ := nested.idle.settled opens.found inProgress
    rw [constructor_lookup deployed] at found
    cases found
  · exact idle between inProgress

/-- **Reveals commute.** Let active requests of a provider be given, with what opens them. Whatever the
order of their reveals, and whatever advancements to their numbers come between them, all succeed. The
current commitment ends at the largest of the numbers, or stays, with the value of the chain there; the
provider's record is otherwise unchanged; and each request is settled with the same random number. -/
theorem reveals_commute (injective : Function.Injective K.keccak256) {c : Config Bytes32}
    (reach : Reachable K anyCall c) (provider : Address) (requests : List (Revelation Bytes32))
    (distinct : (requests.map Revelation.sequenceNumber).Nodup)
    (active : ∀ r ∈ requests, ∃ req, r.Opens K c.world provider req ∧
      (c.frames ≠ [] → req.callbackStatus ≠ .inProgress)) :
    let p := c.world.state.providers provider
    ∃ top : HighWater.Mark ℕ Bytes32,
      top.position = (requests.map Revelation.sequenceNumber).foldl max
        p.currentCommitmentSequenceNumber ∧
      (p.sequenceNumber ≠ 0 → constructProviderCommitment K
        (top.position - p.originalCommitmentSequenceNumber) top.value = p.originalCommitment) ∧
      ∀ moves, Schedule requests moves → ∃ w' announced,
        Move.executeAll K provider c.world moves = .ok w' ∧
        w'.state.providers provider = { p with
          currentCommitmentSequenceNumber := top.position
          currentCommitment := top.value } ∧
        (∀ r ∈ requests, w'.state.lookup K (provider, r.sequenceNumber) = none) ∧
        w'.announced provider = announced ++ c.world.announced provider ∧
        announced.Perm (requests.map fun r => (r.sequenceNumber, r.randomNumber K)) := by
  intro p
  have chains := reach.chainSound injective
  have fits : ∀ r ∈ requests, r.Fits K p := by
    intro r member
    obtain ⟨req, opens, _⟩ := active r member
    exact opens.fits injective reach
  have consistent := places_consistent distinct
  refine ⟨p.mark.raiseAll (requests.map Revelation.place), ?_, fun registered => ?_,
    fun moves schedule => ?_⟩
  · rw [HighWater.Mark.raiseAll_position, List.map_map]
    rfl
  · rw [constructProviderCommitment_eq]
    exact raiseAll_linked (chains.ordered provider registered) fits
  · have ready : ∀ r ∈ moves.filterMap Move.revealed, ∃ req, r.Ready K c.world provider req := by
      intro r member
      obtain ⟨req, opens, idle⟩ := active r (schedule.reveals.mem_iff.mp member)
      exact ⟨req, opens.ready reach idle⟩
    have once : ((moves.filterMap Move.revealed).map Revelation.sequenceNumber).Nodup :=
      (schedule.reveals.map _).nodup_iff.mpr distinct
    obtain ⟨w', executed, ran⟩ := executeAll_ok injective moves reach schedule.proper
      (fun move member => fits _ (schedule.known move member)) ready once
    refine ⟨w', _, executed, ?_, ?_, ran.announced, ?_⟩
    · rw [ran.raised, HighWater.Mark.raiseAll_congr consistent fun place =>
        (schedule.places place).symm]
      rfl
    · exact fun r member => ran.settled r (schedule.reveals.mem_iff.mpr member)
    · exact (List.reverse_perm _).trans (schedule.reveals.map _)

end Moves

namespace Sample

/-- What opens the user's request with this number. -/
def revelation (n : ℕ) : Revelation Sym := ⟨n, contribution n, value n⟩

/-- The provider submits with a million gas to a contract, whose callback succeeds. -/
def submission : Submission := ⟨msg provider 0 provider_ne_zero, 1000000, 0, 1, ⟨true, [], 900000⟩⟩

theorem submission_succeeds : submission.Succeeds := by
  refine ⟨rfl, rfl, ⟨by decide, by decide⟩, by decide, by decide⟩

/-- The second request is revealed first, so that an advancement to the first is too old. -/
def secondFirst : List (Move Sym) :=
  [.reveal (revelation 2) submission, .advance (revelation 1) (msg user 0 user_ne_zero),
    .reveal (revelation 1) submission]

theorem secondFirst_schedule : Schedule [revelation 1, revelation 2] secondFirst where
  reveals := List.Perm.swap _ _ _
  known := by simp [secondFirst, Move.revelation]
  proper := by simp [secondFirst, Move.Proper, submission_succeeds, msg]

end Sample

theorem reveals_commute_secondFirst : ∃ top : HighWater.Mark ℕ Sym, top.position = 2 ∧ ∃ w',
    Move.executeAll symbolic Sample.provider
      (Sample.after [Sample.request 1, Sample.request 2]).world Sample.secondFirst = .ok w' ∧
    (w'.state.providers Sample.provider).currentCommitment = top.value := by
  obtain ⟨top, position, _, ends⟩ := reveals_commute symbolic_injective
    (Sample.reachable [Sample.request 1, Sample.request 2]) Sample.provider
    [Sample.revelation 1, Sample.revelation 2] (by decide) (by
      intro r member
      rcases List.mem_pair.mp member with rfl | rfl
      · exact ⟨Sample.firstRequest, ⟨by decide +kernel, by decide +kernel⟩, by decide +kernel⟩
      · exact ⟨_, ⟨rfl, by decide +kernel⟩, by decide +kernel⟩)
  obtain ⟨w', _, executed, record, _⟩ := ends Sample.secondFirst Sample.secondFirst_schedule
  exact ⟨top, position, w', executed, by rw [record]⟩

end Dice
