/-
**What the service hands out is what the contract accepts.**

The chains of the service are loaded when it starts. Later registrations of its provider are unknown to it
until it is started again.

* `ServiceConfig.Knows` — the chains of a service are those of the first registrations of its provider.
* `RightValue` — the contract accepts the value for the request, and no other value is ever put on chain
  for its number.
* `disclosures_accepted` — whatever a run of the service hands out for a number of a registration it knows
  is the right value, in every state of the contract in which these registrations were made.
* `revelation_answers` — what the revelation endpoint answers, for a node that tells the present state.
-/

import Dice.Service.Attribution
import Dice.Service.Disclosure

set_option linter.unusedSectionVars false

namespace Dice

open HashChain (IsLink)

variable {Bytes32 : Type} (K : Keccak Bytes32)

/-- **The registrations that a service knows**: it has their chains, in order. -/
def ServiceConfig.Knows (config : ServiceConfig Bytes32) (known : List (Registration Bytes32)) : Prop :=
  ∃ chains, List.Forall₂ (Registration.Stores K) known chains ∧
    config.params.state = ⟨known.map Registration.offset, chains⟩

/-- **The right value of a number.** -/
structure RightValue [DecidableEq Bytes32] (w : World Bytes32) (provider : Address) (n : ℕ)
    (v : Bytes32) : Prop where
  /-- The contract accepts it, with the contribution that the request was made with. -/
  accepted : ∀ req caller u gasLimit, w.state.lookup K (provider, n) = some req →
    .emitted (.requested provider caller n u gasLimit) ∈ w.history →
      ∃ out, revealHelper K w (findRequest K w.state provider n) u v = .ok out
  /-- Reveals, advancements and registrations have put no other value on chain. -/
  alone : ∀ entry ∈ w.history, ∀ v', entry.chainValue = some (provider, n, v') → v' = v

section Serving

variable {K} [DecidableEq Bytes32] {c : LoggedConfig Bytes32} {config : ServiceConfig Bytes32}
variable {known later : List (Registration Bytes32)} {n : ℕ}

/-- What a service knows of a number. -/
theorem ServiceConfig.Knows.reveal (injective : Function.Injective K.keccak256)
    (reach : LoggedReachable K c)
    (split : registrationsOf config.params.providerAddress c.world.2 = known ++ later)
    (knows : config.Knows K known) (below : ∀ r ∈ later, n < r.offset)
    {registration : Registration Bytes32}
    (placed : Placed (registrationsOf config.params.providerAddress c.world.2) n registration) :
    ∃ v, config.params.state.reveal (chainHash K) n = .ok v ∧
      IsLink (chainHash K) registration.commitment (n - registration.offset) v := by
  obtain ⟨chains, stored, state⟩ := knows
  obtain ⟨_, kept, _⟩ := reach.attributed injective
  have increasing := kept.increasing config.params.providerAddress
  rw [split] at increasing placed
  rw [state]
  exact reveal_of_placed increasing stored placed below

/-- **What it reveals is right.** -/
theorem ServiceConfig.Knows.right (injective : Function.Injective K.keccak256)
    (reach : LoggedReachable K c)
    (split : registrationsOf config.params.providerAddress c.world.2 = known ++ later)
    (knows : config.Knows K known) (below : ∀ r ∈ later, n < r.offset) {v : Bytes32}
    (revealed : config.params.state.reveal (chainHash K) n = .ok v) :
    RightValue K c.world.1 config.params.providerAddress n v := by
  obtain ⟨⟨sound, _⟩, kept, attributed⟩ := reach.attributed injective
  -- the value is the one link at the index of the number
  have link : ∀ {registration}, Placed (registrationsOf config.params.providerAddress c.world.2) n
      registration → IsLink (chainHash K) registration.commitment (n - registration.offset) v := by
    intro registration placed
    obtain ⟨v', revealed', linked⟩ := knows.reveal injective reach split below placed
    obtain rfl := Except.ok.inj (revealed'.symm.trans revealed)
    exact linked
  refine ⟨fun req caller u gasLimit found requested => ?_, fun entry member v' told => ?_⟩
  · obtain ⟨registration, value, index, placed, commits, linked, place⟩ :=
      (kept.answered requested found).placed
    have index_eq : n - registration.offset = index + req.numHashes := by omega
    have below_value := link placed
    rw [index_eq] at below_value
    refine revealHelper_accepts sound found ?_
    rw [linked.above (chainHash_injective injective) below_value]
    exact commits.symm
  · obtain ⟨_, registration, placed, linked⟩ := attributed.values entry member _ n v' told
    exact linked.unique (chainHash_injective injective) (link placed)

/-- **Everything that is handed out is right.** Take any run of the service, with any answers of the
node, and any state of the contract in any run in which the registrations that the service knows are
the first ones of its provider; a state before one of them is none of these. The value that was handed
out for a number below the registrations it does not know is accepted for the request of this number,
with the contribution the request was made with, and it is the only value that is put on chain for the
number. -/
theorem disclosures_accepted (injective : Function.Injective K.keccak256)
    (reach : LoggedReachable K c)
    (split : registrationsOf config.params.providerAddress c.world.2 = known ++ later)
    (knows : config.Knows K known) (actions : List (ServiceAction Bytes32)) :
    ∀ d ∈ (Service.initial.run K config actions).disclosed,
      (∀ r ∈ later, d.sequenceNumber < r.offset) →
      RightValue K c.world.1 config.params.providerAddress d.sequenceNumber d.value := by
  intro d member below
  have none_yet : (Service.initial : Service Bytes32).HandsOutValues K config :=
    fun _ member => absurd member List.not_mem_nil
  exact knows.right injective reach split below
    (Service.run_handsOutValues none_yet actions d member)

/-! ### The endpoint -/

/-- The answer for a query that passes the checks. -/
theorem revelation_of_check {delay head : ℕ} {state : HashChainState Bytes32}
    {encoding : Option BinaryEncoding} {query : RequestQuery Bytes32} {current : UInt64} {v : Bytes32}
    (heads : current.toNat = head) (checked : query.check delay n head = .ok ())
    (revealed : state.reveal (chainHash K) n = .ok v) :
    revelation K state delay n encoding query (.ok current) = .ok (.new (encoding.getD .hex) v) := by
  unfold revelation
  simp only [heads, checked, revealed]

/-- The answer for one that does not. -/
theorem revelation_of_refused {delay head : ℕ} {state : HashChainState Bytes32}
    {encoding : Option BinaryEncoding} {query : RequestQuery Bytes32} {current : UInt64}
    {error : RestError} (heads : current.toNat = head)
    (refused : query.check delay n head = .error error) :
    revelation K state delay n encoding query (.ok current) = .error error := by
  unfold revelation
  simp only [heads, refused]

/-- The events of a block, as the node tells them, are of requests. -/
def ToldOf (w : World Bytes32) (provider : Address) (events : List (RequestedV2Event Bytes32)) : Prop :=
  ∀ event ∈ events, .emitted (.requested provider event.sender event.sequenceNumber
    event.userRandomNumber event.gasLimit) ∈ w.history

/-- **What the revelation endpoint answers**, for a number below the registrations that the service does
not know, at a head of the configured status. Without a block number: nothing for a number without an open
request, a delay for one that is too new, and the right value for every other one. With a block number:
a delay for a block that is too new, nothing for a number that the block does not request, and the right
value for every other one, also when the request is not open any more. -/
theorem revelation_answers (injective : Function.Injective K.keccak256) (reach : LoggedReachable K c)
    (split : registrationsOf config.params.providerAddress c.world.2 = known ++ later)
    (knows : config.Knows K known) (below : ∀ r ∈ later, n < r.offset) (delay : ℕ)
    (encoding : Option BinaryEncoding) (head : UInt64) :
    let provider := config.params.providerAddress
    let answer := fun query =>
      revelation K config.params.state delay n encoding query (.ok head)
    let stored := answer (.stored (.ok (getRequestV2 K c.world.1 provider n)))
    (c.world.1.state.lookup K (provider, n) = none → stored = .error .noPendingRequest) ∧
    (∀ req, c.world.1.state.lookup K (provider, n) = some req →
      (head.toNat - delay < req.blockNumber → stored = .error .pendingConfirmation) ∧
      (req.blockNumber ≤ head.toNat - delay → ∃ v, stored = .ok (.new (encoding.getD .hex) v) ∧
        RightValue K c.world.1 provider n v)) ∧
    ∀ (b : UInt64) (events : List (RequestedV2Event Bytes32)), ToldOf c.world.1 provider events →
      (head.toNat - delay < b.toNat →
        answer (.inBlock b (.ok events)) = .error .pendingConfirmation) ∧
      (b.toNat ≤ head.toNat - delay →
        ((∀ event ∈ events, event.sequenceNumber ≠ n) →
          answer (.inBlock b (.ok events)) = .error .noPendingRequest) ∧
        ((∃ event ∈ events, event.sequenceNumber = n) → ∃ v,
          answer (.inBlock b (.ok events)) = .ok (.new (encoding.getD .hex) v) ∧
            RightValue K c.world.1 provider n v)) := by
  intro provider answer stored
  obtain ⟨⟨sound, chains⟩, kept, attributed⟩ := reach.attributed injective
  -- a number that was assigned is revealed, and what is revealed is right
  have serves : n < (c.world.1.state.providers provider).sequenceNumber →
      ∃ v, config.params.state.reveal (chainHash K) n = .ok v ∧
        RightValue K c.world.1 provider n v := by
    intro used
    obtain ⟨registration, placed⟩ := attributed.placed chains kept used
    obtain ⟨v, revealed, _⟩ := knows.reveal injective reach split below placed
    exact ⟨v, revealed, knows.right injective reach split below revealed⟩
  refine ⟨fun gone => ?_, fun req found => ⟨fun young => ?_, fun due => ?_⟩,
    fun b events told => ⟨fun young => ?_, fun due => ⟨fun other => ?_, fun here => ?_⟩⟩⟩
  · refine revelation_of_refused rfl ?_
    rw [getRequestV2_eq sound, gone]
    rfl
  · refine revelation_of_refused rfl ?_
    rw [getRequestV2_eq sound, found]
    exact if_neg (Nat.not_le_of_lt young)
  · obtain ⟨v, revealed, right⟩ := serves (sound.used found)
    refine ⟨v, revelation_of_check rfl ?_ revealed, right⟩
    rw [getRequestV2_eq sound, found]
    exact if_pos due
  · exact revelation_of_refused rfl (if_pos young)
  · refine revelation_of_refused rfl ((if_neg (Nat.not_lt_of_le due)).trans (if_neg ?_))
    intro some_event
    obtain ⟨event, member, same⟩ := List.any_eq_true.mp some_event
    exact other event member (of_decide_eq_true same)
  · obtain ⟨event, member, rfl⟩ := here
    obtain ⟨v, revealed, right⟩ := serves (kept.assigned (told event member))
    refine ⟨v, revelation_of_check rfl ?_ revealed, right⟩
    refine (if_neg (Nat.not_lt_of_le due)).trans (if_pos ?_)
    exact List.any_eq_true.mpr ⟨event, member, decide_eq_true rfl⟩

end Serving

namespace Sample

/-- The provider is registered again while request 1 is open. The service knows the first registration. -/
def rotatedOnce : List (Action Sym) :=
  [request 1, request 2, reveal 2, succeed,
    fromAdmin (.registerFor provider 0 ((chainHash symbolic)^[4] (.atom 99)) [] 4 [])]

def firstRegistration : Registration Sym := ⟨provider, 0, value 0, 8⟩

def secondRegistration : Registration Sym := ⟨provider, 3, (chainHash symbolic)^[4] (.atom 99), 4⟩

theorem rotatedOnce_registrations : registrationsOf serviceConfig.params.providerAddress
    (loggedAfter rotatedOnce).world.2 = [firstRegistration] ++ [secondRegistration] := by
  decide +kernel

theorem serviceConfig_knows : serviceConfig.Knows symbolic [firstRegistration] :=
  ⟨[firstChain], .cons ⟨.atom 77, ⟨by decide, rfl⟩, rfl, rfl⟩ .nil, rfl⟩

theorem above_first : ∀ r ∈ [secondRegistration], 1 < r.offset := by decide

end Sample

/-- The run of the service that hands out the value of request 1. -/
theorem disclosures_accepted_rotatedOnce :
    (Service.initial.run symbolic Sample.serviceConfig (Sample.serviceRun 101)).disclosed =
        [⟨1, Sample.value 1, [101, 100]⟩] ∧
      RightValue symbolic (Sample.loggedAfter Sample.rotatedOnce).world.1 Sample.provider 1
        (Sample.value 1) := by
  have disclosed : (Service.initial.run symbolic Sample.serviceConfig
      (Sample.serviceRun 101)).disclosed = [⟨1, Sample.value 1, [101, 100]⟩] := by decide +kernel
  have member : ⟨1, Sample.value 1, [101, 100]⟩ ∈ (Service.initial.run symbolic Sample.serviceConfig
      (Sample.serviceRun 101)).disclosed := by
    rw [disclosed]
    exact List.mem_singleton_self _
  exact ⟨disclosed, disclosures_accepted symbolic_injective
    (Sample.loggedReachable Sample.rotatedOnce) Sample.rotatedOnce_registrations
    Sample.serviceConfig_knows (Sample.serviceRun 101) _ member Sample.above_first⟩

/-- The open request 1, which was made in block 100, with a delay of 5. -/
theorem revelation_answers_rotatedOnce :
    let stored := fun head => revelation symbolic Sample.serviceConfig.params.state 5 1 none
      (.stored (.ok (getRequestV2 symbolic (Sample.loggedAfter Sample.rotatedOnce).world.1
        Sample.provider 1))) (.ok head)
    stored 104 = .error .pendingConfirmation ∧ ∃ v, stored 105 = .ok (.hex v) ∧
      RightValue symbolic (Sample.loggedAfter Sample.rotatedOnce).world.1 Sample.provider 1 v := by
  intro stored
  have found : (Sample.loggedAfter Sample.rotatedOnce).world.1.state.lookup symbolic
      (Sample.provider, 1) = some Sample.firstRequest := by decide +kernel
  have answers := fun head => (revelation_answers symbolic_injective
    (Sample.loggedReachable Sample.rotatedOnce) Sample.rotatedOnce_registrations
    Sample.serviceConfig_knows Sample.above_first 5 none head).2.1 _ found
  exact ⟨(answers 104).1 (by decide), (answers 105).2 (by decide)⟩

end Dice
