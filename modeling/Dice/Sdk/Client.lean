/-
**A client of the TypeScript SDK.**

The client asks for the fee, sends its request, and reads the number that it was given from the
receipt. The state of the contract may change between the calls.

* `DiceProtocol.requestRandom` — with the states in which the node answers the calls, and in which it
  executes the transaction.
* `Made`, `requestRandom_made` — what a returned number says of the states around the transaction.
* `requestRandom_delivers` — from then on: nobody is given the number again, and whatever is published
  for it is combined of the client's own contribution.

Numbers and contributions are values here; strings are in `Dice.Sdk.HashChains`.
-/

import Dice.Contract.Published
import Dice.Service.Chain

set_option linter.unusedSectionVars false

namespace Dice

variable {Bytes32 : Type}

/-- The events that a transaction added, in their order. -/
def World.eventsSince (w' w : World Bytes32) : List (Event Bytes32) :=
  ((w'.history.take (w'.history.length - w.history.length)).filterMap Entry.event).reverse

/-- The number in a `Requested` event. -/
def Event.requestedNumber : Event Bytes32 → Option ℕ
  | .requested _ _ n _ _ => some n
  | _ => none

namespace DiceProtocol

/-- Why `requestRandom` throws. -/
inductive ClientError where
  | callException
  /-- "No Requested event in receipt" -/
  | noRequestedEvent
  deriving DecidableEq

/-- The states in which the node answers. -/
structure Views (Bytes32 : Type) where
  defaultProvider : World Bytes32
  fee : World Bytes32
  executed : World Bytes32

/-- `DiceProtocol.getFee`. All overloads of the contract return the same fee. -/
def getFee (w : World Bytes32) (provider : Address) (gasLimit : ℕ) : ℕ :=
  getFeeV2 w.state provider gasLimit

section Functions

variable (K : Keccak Bytes32) [DecidableEq Bytes32]

/-- `DiceProtocol.combineRandom`. -/
def combineRandom (userRandom providerRandom : Bytes32) (blockHash : Option Bytes32) : Bytes32 :=
  K.keccak256 [userRandom, providerRandom, blockHash.getD (K.word 0)]

/-- `signer`, a wallet. -/
structure Signer where
  address : Address
  address_ne_zero : address ≠ 0

/-- The provider that a request goes to. -/
def providerOf (provider : Option Address) (views : Views Bytes32) : Address :=
  provider.getD views.defaultProvider.state.defaultProvider

/-- The transaction of `requestRandom`. -/
def requestMessage (signer : Signer) (provider : Option Address) (userRandomNumber : Bytes32)
    (gasLimit : ℕ) (views : Views Bytes32) : Message Bytes32 where
  msg := ⟨signer.address, getFee views.fee (providerOf provider views) gasLimit,
    signer.address_ne_zero⟩
  call := .requestV2 (providerOf provider views) userRandomNumber gasLimit

/-- `DiceProtocol.requestRandom`: the number in the first `Requested` event of the receipt. -/
def requestRandom (signer : Signer) (provider : Option Address) (userRandomNumber : Bytes32)
    (gasLimit : ℕ) (views : Views Bytes32) : Except ClientError ℕ :=
  match start K (requestMessage signer provider userRandomNumber gasLimit views) views.executed with
  | .done w' =>
      match (w'.eventsSince views.executed).filterMap Event.requestedNumber with
      | [] => .error .noRequestedEvent
      | n :: _ => .ok n
  | _ => .error .callException

/-- The state after the transaction. -/
def afterRequest (signer : Signer) (provider : Option Address) (userRandomNumber : Bytes32)
    (gasLimit : ℕ) (views : Views Bytes32) : World Bytes32 :=
  match start K (requestMessage signer provider userRandomNumber gasLimit views) views.executed with
  | .done w' => w'
  | _ => views.executed

end Functions

section Requests

variable {K : Keccak Bytes32} [DecidableEq Bytes32] {w w' : World Bytes32} {msg : Msg}
variable {provider : Address} {u : Bytes32} {gasLimit gasLimit10k n : ℕ}

/-- The one event of a request. -/
theorem eventsSince_requested :
    (w.requested K msg provider u gasLimit10k).eventsSince w =
      [.requested provider msg.sender (w.state.providers provider).sequenceNumber u
        (gasLimit10k * tenThousand)] := by
  have count : (w.requested K msg provider u gasLimit10k).history.length - w.history.length = 2 := by
    show w.history.length + 2 - w.history.length = 2
    omega
  unfold World.eventsSince
  rw [count]
  rfl

/-- A call of `requestV2` that is executed. -/
theorem start_requestV2_done
    (started : start K ⟨msg, .requestV2 provider u gasLimit⟩ w = .done w') :
    ∃ gasLimit10k, RequestChecks w msg provider gasLimit gasLimit10k ∧
      w' = w.requested K msg provider u gasLimit10k := by
  have payable : start K ⟨msg, .requestV2 provider u gasLimit⟩ w =
      atomically ((requestV2 K w msg provider u gasLimit).map Prod.fst) := by
    unfold start
    rw [if_neg (by simp [Call.payable])]
  rw [payable] at started
  obtain ⟨⟨_, n⟩, requested, rfl⟩ := map_ok.mp (atomically_done.mp started)
  obtain ⟨gasLimit10k, checks, _, same⟩ := requestV2_ok requested
  exact ⟨gasLimit10k, checks, same⟩

/-- **A request that was made** under a number, by a transaction between two states. -/
structure Made (K : Keccak Bytes32) (msg : Msg) (provider : Address) (u : Bytes32) (n : ℕ)
    (w w' : World Bytes32) : Prop where
  /-- The fee is still the one that was read before. -/
  paid : msg.value = w.state.feeInWei
  next : n = (w.state.providers provider).sequenceNumber
  stored : ∃ req, w'.state.lookup K (provider, n) = some req ∧ req.requester = msg.sender ∧
    req.callbackStatus = .notStarted ∧ req.feePaid = msg.value
  requested : w'.RequestedWith (provider, n) u
  done : ∃ gasLimit10k, w' = w.requested K msg provider u gasLimit10k

theorem made_of_checks (sound : Sound K w)
    (checks : RequestChecks w msg provider gasLimit gasLimit10k) :
    Made K msg provider u (w.state.providers provider).sequenceNumber w
      (w.requested K msg provider u gasLimit10k) where
  paid := checks.paid
  next := rfl
  stored := by
    refine ⟨madeRequest K w msg provider u gasLimit10k, ?_, rfl, rfl, checks.paid.symm⟩
    rw [lookup_requested sound msg u gasLimit10k checks.registered, Function.update_self]
  requested := by
    refine ⟨msg.sender, gasLimit10k * tenThousand, List.mem_filter.mpr ⟨?_, ?_⟩⟩
    · exact List.mem_cons_self
    · simp
  done := ⟨_, rfl⟩

/-- The number was not used before, and is from then on. -/
theorem Made.fresh (made : Made K msg provider u n w w') : ¬ w.Used (provider, n) := by
  rw [made.next]
  exact w.requested_fresh provider

theorem Made.used (made : Made K msg provider u n w w') : w'.Used (provider, n) := by
  obtain ⟨gasLimit10k, rfl⟩ := made.done
  rw [made.next]
  exact w.requested_used msg provider u gasLimit10k

/-- **What becomes of it**, in any later state: the number is not given again; every `Revealed` event has
this contribution and the number that the SDK combines; and there is one when the request is gone,
unless it was refunded. -/
structure Honours (K : Keccak Bytes32) [DecidableEq Bytes32] (provider : Address) (u : Bytes32)
    (n : ℕ) (later : World Bytes32) : Prop where
  taken : n < (later.state.providers provider).sequenceNumber
  combined : ∀ event ∈ later.revealedEvents (provider, n), event.userContribution = u ∧
    event.randomNumber = combineRandom K u event.providerContribution none
  published : later.state.lookup K (provider, n) = none →
    0 < later.refunds (provider, n) ∨ later.revealedEvents (provider, n) ≠ []

theorem Made.honours (injective : Function.Injective K.keccak256)
    (made : Made K msg provider u n w w') (reach : Reachable K anyCall ⟨w', []⟩)
    {later : World Bytes32} (run : (dice K).Reachable anyCall ⟨w', []⟩ ⟨later, []⟩) :
    Honours K provider u n later := by
  have reports := (reach.reports run rfl rfl (provider, n)).2
  have used : later.Used (provider, n) := reports.used made.used
  have after : Reachable K anyCall ⟨later, []⟩ := by
    obtain ⟨d, origin, deployed, before⟩ := reach
    exact ⟨d, origin, deployed, .trans _ before run⟩
  have published := after.published injective (provider, n)
  have requested : later.RequestedWith (provider, n) u := by
    unfold World.RequestedWith
    rw [reports.requests made.used]
    exact made.requested
  refine ⟨used, fun event member => ?_, fun absent => ?_⟩
  · obtain ⟨own, number⟩ := published.combined event member
    obtain rfl := published.requestedWith_unique requested own
    exact ⟨rfl, number⟩
  · obtain ⟨_, _, member⟩ := requested
    refine (gone_cases after rfl ⟨used, absent⟩ (List.ne_nil_of_mem member)).imp_right ?_
    rintro ⟨event, cleared⟩ none
    have last := cleared.last
    rw [show later.revealedEvents (provider, n) = [] from none] at last
    cases last

/-- **A number that is returned** is the next one of the provider in the state in which the transaction
was executed. -/
theorem requestRandom_made {signer : Signer} {provider : Option Address} {views : Views Bytes32}
    (reach : Reachable K anyCall ⟨views.executed, []⟩)
    (returned : requestRandom K signer provider u gasLimit views = .ok n) :
    Made K (requestMessage signer provider u gasLimit views).msg (providerOf provider views) u n
        views.executed (afterRequest K signer provider u gasLimit views) ∧
      Reachable K anyCall ⟨afterRequest K signer provider u gasLimit views, []⟩ := by
  unfold requestRandom at returned
  unfold afterRequest
  split at returned
  · next w' started =>
    have stepped := Reachable.step K reach
      (.call (requestMessage signer provider u gasLimit views)) trivial
    rw [CallStack.Component.step_done started] at stepped
    obtain ⟨gasLimit10k, checks, rfl⟩ := start_requestV2_done started
    rw [eventsSince_requested] at returned
    cases returned
    exact ⟨made_of_checks reach.sound checks, stepped⟩
  · cases returned

/-- **What a client can rely on.** In every run, whatever happened between its calls: when `requestRandom`
returns a number, the request of the signer stands under it, for the fee that was read. In every later
state of the run the number is taken, so that no `requestRandom` for this provider returns it again;
all `Revealed` events under it have the client's contribution and the number that `combineRandom`
computes; and the request is still open, or was refunded, or such an event was published. -/
theorem requestRandom_delivers (injective : Function.Injective K.keccak256) (signer : Signer)
    (provider : Option Address) (u : Bytes32) (gasLimit : ℕ) (views : Views Bytes32)
    (reach : Reachable K anyCall ⟨views.executed, []⟩)
    (returned : requestRandom K signer provider u gasLimit views = .ok n) {later : World Bytes32}
    (run : (dice K).Reachable anyCall ⟨afterRequest K signer provider u gasLimit views, []⟩
      ⟨later, []⟩) :
    (∃ req, (afterRequest K signer provider u gasLimit views).state.lookup K
        (providerOf provider views, n) = some req ∧ req.requester = signer.address ∧
      req.callbackStatus = .notStarted ∧
      req.feePaid = getFee views.fee (providerOf provider views) gasLimit) ∧
    Honours K (providerOf provider views) u n later ∧
    ∀ signer' provider' u' gasLimit' n' views', views'.executed = later →
      providerOf provider' views' = providerOf provider views →
      requestRandom K signer' provider' u' gasLimit' views' = .ok n' → n < n' := by
  obtain ⟨made, reach'⟩ := requestRandom_made reach returned
  have honours := made.honours injective reach' run
  refine ⟨made.stored, honours, ?_⟩
  rintro signer' provider' u' gasLimit' n' views' rfl same returned'
  have after : Reachable K anyCall ⟨views'.executed, []⟩ := by
    obtain ⟨d, origin, deployed, before⟩ := reach'
    exact ⟨d, origin, deployed, .trans _ before run⟩
  rw [(requestRandom_made after returned').1.next, same]
  exact honours.taken

end Requests

end DiceProtocol

namespace Sample

/-- The wallet of the user. -/
def wallet : DiceProtocol.Signer := ⟨user, user_ne_zero⟩

/-- Nothing happens between the calls. -/
def deployedViews : DiceProtocol.Views Sym :=
  ⟨(after []).world, (after []).world, (after []).world⟩

end Sample

theorem requestRandom_delivers_revealed :
    DiceProtocol.Honours symbolic Sample.provider (Sample.contribution 1) 1
      (Sample.after [Sample.request 1, Sample.reveal 1, Sample.succeed]).world := by
  have run : (dice symbolic).Reachable anyCall ⟨(Sample.after [Sample.request 1]).world, []⟩
      ((dice symbolic).run ⟨(Sample.after [Sample.request 1]).world, []⟩
        [Sample.reveal 1, Sample.succeed]) := .of_actions _ _
  obtain ⟨_, honours, _⟩ := DiceProtocol.requestRandom_delivers symbolic_injective Sample.wallet
    (some Sample.provider) (Sample.contribution 1) 0 Sample.deployedViews (Sample.reachable []) rfl
    run
  exact honours

end Dice
